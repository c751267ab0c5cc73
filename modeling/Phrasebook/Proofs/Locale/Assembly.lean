import Phrasebook.Proofs.Locale.Definition

/-!
# Bundles that speak one locale

The bundles of full definitions and of those that speak one locale stand side by
side: the same names, methods, keys and parameters, and beside the body for the
locale a default body with the same text.
-/

namespace Phrasebook

section Lists

variable {α β : Type} {related : α → β → Prop} {list : List α} {list' : List β}

theorem exists_left_of_mem
    (all : List.Forall₂ related list list') {one' : β} (member : one' ∈ list') :
    ∃ one ∈ list, related one one' := by
  induction all with
  | nil => cases member
  | cons first _ ih =>
      rcases List.mem_cons.mp member with rfl | later
      · exact ⟨_, List.mem_cons_self, first⟩
      · rcases ih later with ⟨one, among, same⟩
        exact ⟨one, List.mem_cons_of_mem _ among, same⟩

/-- Searches by tests that agree on related elements find related elements. -/
theorem rel_find?
    {test : α → Bool} {test' : β → Bool} (all : List.Forall₂ related list list')
    (same : ∀ one one', related one one' → test one = test' one') :
    Option.Rel related (list.find? test) (list'.find? test') := by
  induction all with
  | nil => exact .none
  | @cons one one' rest rest' first _ ih =>
      rw [List.find?_cons, List.find?_cons, same one one' first]
      cases test' one' with
      | true => exact .some first
      | false => exact ih

end Lists

/-- Two bodies with the same text, which is one that its sources have if it is a
template. -/
inductive Body.SameText (sources sources' : List (String × String)) :
    Body → Body → Prop
  | constant (text : String) :
      SameText sources sources' (.constant text) (.constant text)
  | template {id id' source : String} (brought : (id, source) ∈ sources)
      (brought' : (id', source) ∈ sources') :
      SameText sources sources' (.template id) (.template id')

/-- Two bodies that are made from one source have the same text. -/
theorem Body.sameText_ofSource
    {sources sources' : List (String × String)} {id id' source : String}
    (brought : ∀ entry ∈ Assembly.sourceOf (.ofSource id source) source,
      entry ∈ sources)
    (brought' : ∀ entry ∈ Assembly.sourceOf (.ofSource id' source) source,
      entry ∈ sources') :
    SameText sources sources' (.ofSource id source) (.ofSource id' source) := by
  rw [ofSource, ofSource]
  rw [ofSource] at brought brought'
  split_ifs at brought brought' ⊢
  · exact .template (brought _ (List.mem_singleton.mpr rfl))
      (brought' _ (List.mem_singleton.mpr rfl))
  · exact .constant source

/-- A message beside the one that speaks a locale, with bodies that are
related. -/
structure Message.Speaks
    (locale : String) (bodies : Body → Body → Prop)
    (message message' : Message) : Prop where
  method : message.method = message'.method
  key : message.key = message'.key
  parameters : message.parameters = message'.parameters
  body : bodies (message.body (some locale)) message'.default
  plain : message'.localized = []

/-- A bundle beside the one that speaks a locale. -/
structure Bundle.Speaks
    (locale : String) (bodies : Body → Body → Prop) (bundle bundle' : Bundle) :
    Prop where
  name : bundle.name = bundle'.name
  messages :
    List.Forall₂ (Message.Speaks locale bodies) bundle.messages bundle'.messages

/-- A message that speaks the locale says the same in all other locales. -/
theorem Message.Speaks.body_eq_default
    {locale : String} {bodies : Body → Body → Prop} {message message' : Message}
    (spoke : message.Speaks locale bodies message') (other : Option String) :
    message'.body other = message'.default := by
  rw [Message.body, spoke.plain]
  cases other <;> rfl

namespace Bundle.Speaks

variable {locale : String} {bodies : Body → Body → Prop}
  {bundle bundle' : Bundle}
  (speaks : bundle.Speaks locale bodies bundle')

include speaks

theorem byMethod? (method : String) :
    Option.Rel (Message.Speaks locale bodies) (bundle.byMethod? method)
      (bundle'.byMethod? method) :=
  rel_find? speaks.messages fun _ _ spoke => by rw [spoke.method]

theorem byKey? (key : String) :
    Option.Rel (Message.Speaks locale bodies) (bundle.byKey? key)
      (bundle'.byKey? key) :=
  rel_find? speaks.messages fun _ _ spoke => by rw [spoke.key]

end Bundle.Speaks

theorem Bundle.Speaks.imp
    {locale : String} {bodies bodies' : Body → Body → Prop}
    {bundle bundle' : Bundle}
    (weaker : ∀ body body', bodies body body' → bodies' body body')
    (speaks : bundle.Speaks locale bodies bundle') :
    bundle.Speaks locale bodies' bundle' where
  name := speaks.name
  messages := speaks.messages.imp fun _ _ message =>
    { message with body := weaker _ _ message.body }

namespace Assembly

variable {definitions : List BundleDefinition} {assembly : Assembly}
  (distinct : ∀ definition ∈ definitions,
    (definition.messages.map Prod.fst).Nodup)
  (accepted : ofDefinitions definitions = .ok assembly)

include distinct accepted

/-- The body of a message for a locale has the text for the locale, or the
default text. -/
theorem body_spoken
    {bundle : Bundle} (member : bundle ∈ assembly.bundles) {message : Message}
    (among : message ∈ bundle.messages) (locale : String) {text : String}
    (declared : Declares definitions bundle.name message.method none text) :
    let source :=
      (localizedText? definitions locale bundle.name message.method).getD text
    ∃ spoken, message.body (some locale) =
      .ofSource (templateId bundle.name spoken message.key) source ∧
      ∀ entry ∈ sourceOf (message.body (some locale)) source,
          entry ∈ assembly.sources := by
  have assembled := assembled_ofDefinitions distinct accepted
  dsimp only
  cases found :
      localizedText? definitions locale bundle.name message.method with
  | some source =>
      have said := declares_ordered.mpr (declares_of_localizedText? found)
      have own := assembled.ownBody?_of_declares member among said
      rcases assembled.bodies bundle member message among _ _ own with
        ⟨other, declared', -, brought⟩
      rcases assembled.single _ _ _ _ _ said declared' with rfl
      rw [Message.body_of_ownBody? own]
      exact ⟨some locale, rfl, brought⟩
  | none =>
      rcases assembled.bodies bundle member message among none
        message.default rfl
        with ⟨other, declared', same, brought⟩
      rcases assembled.single _ _ _ _ _ (declares_ordered.mpr declared)
        declared' with rfl
      have absent : message.ownBody? (some locale) = none := by
        apply assembled.ownBody?_of_not_declares member among
        intro source said
        rcases exists_localizedText? distinct (declares_ordered.mp said) with
          ⟨other, has⟩
        rw [found] at has
        cases has
      rw [Message.body_of_ownBody?_none absent]
      exact ⟨none, same, brought⟩

/-- A message beside the declaration that speaks a locale. -/
theorem speaks_messageOf
    {bundle : Bundle} (member : bundle ∈ assembly.bundles) {message : Message}
    (among : message ∈ bundle.messages) {definition : BundleDefinition}
    (inside : definition ∈ definitions) (plain : definition.localized = false)
    (named : bundle.name = definition.bundle) {one : String × MessageDefinition}
    (listed : one ∈ definition.messages)
    (same : message.outline = messageOf definition one) (locale : String)
    {sources' : List (String × String)} :
    let texts := localizedText? definitions locale definition.bundle
    let spoken := messageOf (definition.spoken texts)
      (one.1, { one.2 with template := (texts one.1).getD one.2.template })
    (∀ entry ∈ sourceOf spoken.default ((texts one.1).getD one.2.template),
      entry ∈ sources') →
      message.Speaks locale (Body.SameText assembly.sources sources')
          spoken := by
  intro texts spoken brought'
  have method : message.method = one.1 := congrArg Message.method same
  have declared :
      Declares definitions bundle.name message.method none one.2.template := by
    refine ⟨definition, inside, named.symm, .default plain, one.2, ?_, rfl⟩
    rw [method]
    exact listed
  rcases body_spoken distinct accepted member among locale declared with
    ⟨served, selected, brought⟩
  rw [selected, named, method] at brought
  constructor
  case method => exact method
  case key => exact (congrArg Message.key same).trans (keyFor_spoken one.1).symm
  case parameters =>
    have kept : message.parameters = one.2.parameters :=
      congrArg Message.parameters same
    exact kept
  case body =>
    rw [selected, named, method]
    exact Body.sameText_ofSource brought brought'
  case plain => rfl

/-- Definitions that speak a locale are assembled to bundles beside those of the
full definitions. -/
theorem speaks_ofDefinitions (locale : String) :
    ∃ assembly', ofDefinitions (speaking locale definitions) = .ok assembly' ∧
      List.Forall₂
        (Bundle.Speaks locale
          (Body.SameText assembly.sources assembly'.sources))
        assembly.bundles assembly'.bundles := by
  rcases outline_ofDefinitions distinct accepted with ⟨admissible, outlines⟩
  refine ⟨_,
    ofDefinitions_of_admissible (fun _ => plain_speaking)
      (admissible_speaking admissible), ?_⟩
  rw [← List.forall₂_eq_eq_eq, List.forall₂_map_left_iff,
    List.forall₂_map_right_iff] at outlines
  show List.Forall₂ _ assembly.bundles
    ((speaking locale definitions).map bundleOf)
  apply List.forall₂_map_right_iff.mpr
  apply List.forall₂_map_right_iff.mpr
  apply forall₂_of_mem outlines
  intro bundle member definition inside same
  rcases List.mem_filter.mp inside with ⟨known, default⟩
  have named : bundle.name = definition.bundle := congrArg Bundle.name same
  have messages := congrArg Bundle.messages same
  rw [Bundle.outline, bundleOf, ← List.forall₂_eq_eq_eq,
    List.forall₂_map_left_iff, List.forall₂_map_right_iff] at messages
  refine ⟨named, ?_⟩
  rw [messages_spoken]
  apply List.forall₂_map_right_iff.mpr
  apply forall₂_of_mem messages
  intro message among one listed equal
  apply speaks_messageOf distinct accepted member among known
    ((Bool.not_eq_true' _).mp default) named
    listed equal
  intro entry brought
  refine List.mem_flatMap.mpr ⟨_, List.mem_map_of_mem inside,
    List.mem_flatMap.mpr ⟨_, ?_, brought⟩⟩
  exact List.mem_map_of_mem listed

omit accepted in
/-- A source of definitions that speak a locale is one of the full definitions
too. -/
theorem exists_source_of_speaks
    {locale : String} {assembly' : Assembly}
    (accepted' : ofDefinitions (speaking locale definitions) = .ok assembly')
    (speaks : List.Forall₂
      (Bundle.Speaks locale (Body.SameText assembly.sources assembly'.sources))
      assembly.bundles assembly'.bundles)
    (ids : (assembly'.sources.map Prod.fst).Nodup)
    {entry : String × String} (member : entry ∈ assembly'.sources) :
    ∃ id, (id, entry.2) ∈ assembly.sources := by
  have assembled :=
    assembled_ofDefinitions (fun _ => distinct_speaking distinct) accepted'
  rcases assembled.sources entry member with
    ⟨bundle', inside, message', among, spoken, own, -⟩
  rcases exists_left_of_mem speaks inside with ⟨bundle, -, beside⟩
  rcases exists_left_of_mem beside.messages among with ⟨message, -, spoke⟩
  have default : message'.default = .template entry.1 := by
    cases spoken with
    | none => exact Option.some.inj own
    | some other =>
        rw [Message.ownBody?, spoke.plain] at own
        cases own
  have body := spoke.body
  rw [default] at body
  revert body
  generalize message.body (some locale) = selected
  rintro (_ | ⟨brought, brought'⟩)
  rw [List.inj_on_of_nodup_map ids member brought' rfl]
  exact ⟨_, brought⟩

end Assembly

end Phrasebook
