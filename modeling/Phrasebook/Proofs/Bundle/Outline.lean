import Mathlib.Data.List.Forall2
import Phrasebook.Proofs.Bundle.Assembly

/-!
# The outline of an assembly

Default bundles are accepted when their names are valid and new and their keys
differ; nothing else about them matters, in particular no text.  Merging
overrides afterwards adds bodies for locales, and leaves the outline as it was:
the bundles, their messages with methods, keys and parameters, and the default
bodies.
-/

namespace Phrasebook

namespace Assembly

section Defaults

variable {definition : BundleDefinition}

/-- Messages whose keys are distinct are added as they are declared. -/
theorem addMessages_of_nodup
    {declared : Roster MessageDefinition} (messages : List Message)
    (sources : List (String × String))
    (keys :
      ((messages ++ declared.map (messageOf definition)).map
        Message.key).Nodup) :
    addMessages definition messages sources declared =
      .ok (messages ++ declared.map (messageOf definition),
        sources ++ defaultSources definition declared) := by
  induction declared generalizing messages sources with
  | nil => simp [addMessages, defaultSources]
  | cons one declared ih =>
      rcases one with ⟨method, message⟩
      have fresh : definition.keyFor method ∉ messages.map Message.key := by
        intro taken
        rw [List.map_append] at keys
        exact (List.nodup_append.mp keys).2.2 _ taken _ List.mem_cons_self rfl
      have free : (messages.any fun other =>
        other.key == definition.keyFor method) = false := by
        simpa using fresh
      rw [List.map_cons, List.append_cons] at keys ⊢
      rw [addMessages, free]
      simp only [Bool.false_eq_true, if_false]
      have brought : defaultSources definition ((method, message) :: declared) =
          sourceOf (messageOf definition (method, message)).default
            message.template ++
            defaultSources definition declared :=
        List.flatMap_cons
      rw [brought, ← List.append_assoc sources]
      exact ih _ _ keys

/-- Default definitions that can be added to an assembly in order. -/
def Admissible
    (names : List String) (definitions : List BundleDefinition) : Prop :=
  (names ++ definitions.map BundleDefinition.bundle).Nodup ∧
    ∀ definition ∈ definitions, isBundleName definition.bundle = true ∧
      ((bundleOf definition).messages.map Message.key).Nodup

/-- A valid default definition of a new bundle is added at the end. -/
theorem addDefault_of
    {assembly : Assembly} (valid : isBundleName definition.bundle = true)
    (fresh : definition.bundle ∉ assembly.bundles.map Bundle.name)
    (keys : ((bundleOf definition).messages.map Message.key).Nodup) :
    addDefault assembly definition =
      .ok ⟨assembly.bundles ++ [bundleOf definition],
        assembly.sources ++ defaultSources definition definition.messages⟩ := by
  have free : (assembly.bundles.any fun bundle =>
    bundle.name == definition.bundle) = false := by
    simpa using fresh
  have added : addMessages definition [] assembly.sources definition.messages =
      _ :=
    addMessages_of_nodup [] assembly.sources keys
  simp [addDefault, valid, free, added, bundleOf]

/-- The assembly of default definitions that are added to another one. -/
def withDefaults (assembly : Assembly) (definitions : List BundleDefinition) :
    Assembly :=
  ⟨assembly.bundles ++ definitions.map bundleOf,
    assembly.sources ++ definitions.flatMap fun one =>
      defaultSources one one.messages⟩

/-- Definitions are admissible when the first one is, and the others are after
it. -/
theorem admissible_cons
    {names : List String} {definitions : List BundleDefinition} :
    Admissible names (definition :: definitions) ↔
      (isBundleName definition.bundle = true ∧
        ((bundleOf definition).messages.map Message.key).Nodup) ∧
        Admissible (names ++ [definition.bundle]) definitions := by
  rw [Admissible, Admissible, List.map_cons, List.append_cons,
    List.forall_mem_cons]
  exact and_left_comm

/-- Default definitions are added in order exactly when they are admissible. -/
theorem foldlM_addDefault_iff
    {definitions : List BundleDefinition} {assembly assembly' : Assembly} :
    (assembly.bundles.map Bundle.name).Nodup →
      (definitions.foldlM addDefault assembly = .ok assembly' ↔
        Admissible (assembly.bundles.map Bundle.name) definitions ∧
          assembly' = assembly.withDefaults definitions) := by
  induction definitions generalizing assembly with
  | nil =>
      intro names
      have nothing : Admissible (assembly.bundles.map Bundle.name) [] := by
        refine ⟨?_, List.forall_mem_nil _⟩
        rw [List.map_nil, List.append_nil]
        exact names
      have same : assembly.withDefaults [] = assembly := by
        simp [withDefaults]
      rw [same, and_iff_right nothing, List.foldlM_nil]
      constructor
      · exact fun accepted => (Except.ok.inj accepted).symm
      · exact fun equal => congrArg Except.ok equal.symm
  | cons definition definitions ih =>
      intro names
      have later {next : Assembly}
          (fresh : definition.bundle ∉ assembly.bundles.map Bundle.name)
          (same : next = ⟨assembly.bundles ++ [bundleOf definition],
            assembly.sources ++
              defaultSources definition definition.messages⟩) :
          definitions.foldlM addDefault next = .ok assembly' ↔
            Admissible (assembly.bundles.map Bundle.name ++ [definition.bundle])
              definitions ∧
              assembly' =
                  assembly.withDefaults (definition :: definitions) := by
        have named : next.bundles.map Bundle.name =
            assembly.bundles.map Bundle.name ++ [definition.bundle] := by
          rw [same, List.map_append]
          rfl
        have distinct : (next.bundles.map Bundle.name).Nodup := by
          rw [named, ← List.concat_eq_append]
          exact names.concat fresh
        rw [ih distinct, named, same, withDefaults, withDefaults]
        simp [List.append_assoc]
      rw [List.foldlM_cons, admissible_cons, and_assoc]
      constructor
      · intro added
        cases first : addDefault assembly definition with
        | error error =>
            rw [first] at added
            cases added
        | ok next =>
            rw [first] at added
            rcases addDefault_ok first with ⟨valid, fresh, keys, same⟩
            exact ⟨⟨valid, keys⟩, (later fresh same).mp added⟩
      · rintro ⟨⟨valid, keys⟩, admissible⟩
        have fresh : definition.bundle ∉ assembly.bundles.map Bundle.name := by
          intro taken
          have distinct := (List.nodup_append.mp admissible.1.1).1
          exact (List.nodup_append.mp distinct).2.2 _ taken _
            List.mem_cons_self rfl
        rw [addDefault_of valid fresh keys]
        exact (later fresh rfl).mpr admissible

theorem foldlM_addDefault_empty
    {definitions : List BundleDefinition} {assembly : Assembly} :
    definitions.foldlM addDefault {} = .ok assembly ↔
      Admissible [] definitions ∧
        assembly = Assembly.withDefaults {} definitions := by
  have empty : (Assembly.bundles {}).map Bundle.name = [] := rfl
  rw [foldlM_addDefault_iff (empty.symm ▸ List.nodup_nil), empty]

end Defaults

end Assembly

/-- Lists that are related one by one are related by what follows for their
members. -/
theorem forall₂_of_mem
    {α β : Type} {related related' : α → β → Prop} {list : List α}
    {list' : List β} (all : List.Forall₂ related list list')
    (weaker : ∀ one ∈ list, ∀ one' ∈ list', related one one' →
      related' one one') :
    List.Forall₂ related' list list' := by
  induction all with
  | nil => exact .nil
  | cons first _ ih =>
      rcases List.forall_mem_cons.mp weaker with ⟨own, others⟩
      apply List.Forall₂.cons
      · exact own _ List.mem_cons_self first
      · exact ih fun one member one' member' =>
          others one member one' (List.mem_cons_of_mem _ member')

/-- A message without its bodies for locales. -/
def Message.outline (message : Message) : Message :=
  { message with localized := [] }

/-- A bundle without its locales and the bodies for them. -/
def Bundle.outline (bundle : Bundle) : Bundle :=
  { bundle with locales := [], messages := bundle.messages.map Message.outline }

namespace Assembly

theorem map_name_of_outline
    {bundles bases : List Bundle} (same : bundles.map Bundle.outline = bases) :
    bundles.map Bundle.name = bases.map Bundle.name := by
  rw [← same, List.map_map]
  rfl

theorem map_method_of_outline (bundle : Bundle) :
    bundle.messages.map Message.method =
      bundle.outline.messages.map Message.method := by
  rw [Bundle.outline, List.map_map]
  rfl

theorem outline_withDefaults {definitions : List BundleDefinition} :
    (Assembly.withDefaults {} definitions).bundles.map Bundle.outline =
      definitions.map bundleOf := by
  rw [withDefaults, List.nil_append, List.map_map]
  apply List.map_congr_left
  intro definition _
  simp [Bundle.outline, bundleOf, messageOf, Message.outline, Function.comp_def]

section Merged

variable {locale : String} {declared : Roster MessageDefinition}
  {target : Bundle}

theorem outline_overridden (name : String) (message : Message) :
    (overridden name locale declared message).outline = message.outline := by
  rw [overridden]
  split <;> rfl

theorem outline_merged :
    (merged target locale declared).outline = target.outline := by
  have same : Message.outline ∘ overridden target.name locale declared =
      Message.outline :=
    funext (outline_overridden target.name)
  simp [merged, Bundle.outline, same]

/-- A merge does not show in the outlines of all bundles. -/
theorem outline_mergedInto
    {bundles : List Bundle} (names : (bundles.map Bundle.name).Nodup)
    (inside : target ∈ bundles) :
    (mergedInto target locale declared bundles).map Bundle.outline =
      bundles.map Bundle.outline := by
  rw [mergedInto, List.map_map]
  apply List.map_congr_left
  intro bundle member
  dsimp only [Function.comp]
  split_ifs with same
  · rw [List.inj_on_of_nodup_map names member inside same, outline_merged]
  · rfl

end Merged

/-- Merging overrides keeps the outlines. -/
theorem outline_foldlM
    {definitions : List BundleDefinition} {bases : List Bundle}
    {assembly assembly' : Assembly} (names : (bases.map Bundle.name).Nodup)
    (methods : ∀ bundle ∈ bases, (bundle.messages.map Message.method).Nodup)
    (distinct : ∀ definition ∈ definitions,
      (definition.messages.map Prod.fst).Nodup)
    (same : assembly.bundles.map Bundle.outline = bases)
    (merged : definitions.foldlM addLocalized assembly = .ok assembly') :
    assembly'.bundles.map Bundle.outline = bases := by
  induction definitions generalizing assembly with
  | nil =>
      cases merged
      exact same
  | cons definition definitions ih =>
      rcases List.forall_mem_cons.mp distinct with ⟨own, others⟩
      rw [List.foldlM_cons] at merged
      cases first : addLocalized assembly definition with
      | error error =>
          rw [first] at merged
          cases merged
      | ok next =>
          rw [first] at merged
          have named : (assembly.bundles.map Bundle.name).Nodup := by
            rw [map_name_of_outline same]
            exact names
          have spelled : ∀ bundle ∈ assembly.bundles,
              (bundle.messages.map Message.method).Nodup := by
            intro bundle member
            rw [map_method_of_outline]
            apply methods
            rw [← same]
            exact List.mem_map_of_mem member
          rcases addLocalized_ok first spelled own with
            ⟨locale, target, extra, merges, rfl⟩
          exact ih others
            ((outline_mergedInto named merges.inside).trans same) merged

/-- What definitions are assembled to has the outline of the default bundles,
which were admissible. -/
theorem outline_ofDefinitions
    {definitions : List BundleDefinition} {assembly : Assembly}
    (distinct : ∀ definition ∈ definitions,
      (definition.messages.map Prod.fst).Nodup)
    (accepted : ofDefinitions definitions = .ok assembly) :
    Admissible [] (definitions.filter fun definition => !definition.localized) ∧
      assembly.bundles.map Bundle.outline =
        (definitions.filter fun definition => !definition.localized).map
          bundleOf := by
  rw [ofDefinitions] at accepted
  cases defaults : (definitions.filter fun definition =>
    !definition.localized).foldlM addDefault {} with
  | error error =>
      rw [defaults] at accepted
      cases accepted
  | ok middle =>
      rw [defaults] at accepted
      rcases foldlM_addDefault_empty.mp defaults with ⟨admissible, rfl⟩
      refine ⟨admissible, outline_foldlM ?_ ?_ ?_ ?_ accepted⟩
      · rw [List.map_map]
        exact admissible.1
      · intro bundle member
        rcases List.mem_map.mp member with ⟨definition, inside, rfl⟩
        rw [bundleOf, List.map_map]
        exact distinct definition (List.mem_filter.mp inside).1
      · exact fun definition member =>
          distinct definition (List.mem_filter.mp member).1
      · exact outline_withDefaults

/-- The parameters of a message are those that a default definition declares. -/
theorem exists_parameters_of_mem
    {definitions : List BundleDefinition} {assembly : Assembly}
    (distinct : ∀ definition ∈ definitions,
      (definition.messages.map Prod.fst).Nodup)
    (accepted : ofDefinitions definitions = .ok assembly)
    {bundle : Bundle} (member : bundle ∈ assembly.bundles)
    {message : Message} (among : message ∈ bundle.messages) :
    ∃ definition ∈ definitions, definition.localized = false ∧
      ∃ declared ∈ definition.messages,
        declared.2.parameters = message.parameters := by
  have outlined : bundle.outline ∈ assembly.bundles.map Bundle.outline :=
    List.mem_map_of_mem member
  rw [(outline_ofDefinitions distinct accepted).2] at outlined
  rcases List.mem_map.mp outlined with ⟨definition, inside, same⟩
  have listed : message.outline ∈ (bundleOf definition).messages := by
    rw [same]
    exact List.mem_map_of_mem among
  rcases List.mem_map.mp listed with ⟨declared, known, equal⟩
  rcases List.mem_filter.mp inside with ⟨defined, default⟩
  exact ⟨definition, defined, (Bool.not_eq_true' _).mp default, declared, known,
    congrArg Message.parameters equal⟩

/-- Admissible default definitions are assembled to their bundles and
sources. -/
theorem ofDefinitions_of_admissible
    {definitions : List BundleDefinition}
    (plain : ∀ definition ∈ definitions, definition.localized = false)
    (admissible : Admissible [] definitions) :
    ofDefinitions definitions = .ok (Assembly.withDefaults {} definitions) := by
  have all : definitions.filter (fun definition => !definition.localized) =
      definitions := by
    apply List.filter_eq_self.mpr
    intro definition member
    rw [plain definition member]
    rfl
  have none : definitions.filter BundleDefinition.localized = [] := by
    apply List.filter_eq_nil_iff.mpr
    intro definition member
    rw [plain definition member]
    exact Bool.false_ne_true
  have added : definitions.foldlM addDefault {} =
      .ok (Assembly.withDefaults {} definitions) :=
    foldlM_addDefault_empty.mpr ⟨admissible, rfl⟩
  rw [ofDefinitions, all, none, added]
  rfl

end Assembly

end Phrasebook
