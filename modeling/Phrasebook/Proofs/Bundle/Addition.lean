import Mathlib.Data.List.Nodup
import Phrasebook.Bundle.Assembly
import Phrasebook.Proofs.Dictionary

/-!
# What a definition adds

Adding a default bundle appends one bundle, with one message for each
declaration.  Merging a localized override gives the messages that it declares
one more body and leaves all else as it was.
-/

namespace Phrasebook

/-- The body of its own that a message has for a locale, or by default. -/
def Message.ownBody? (message : Message) : Option String → Option Body
  | none => some message.default
  | some locale => message.localized.get? locale

namespace Message

variable {message : Message} {locale : Option String} {body : Body}

theorem body_of_ownBody? (own : message.ownBody? locale = some body) :
    message.body locale = body := by
  cases locale with
  | none => exact Option.some.inj own
  | some locale => exact congrArg (Option.getD · message.default) own

theorem body_of_ownBody?_none (absent : message.ownBody? locale = none) :
    message.body locale = message.default := by
  cases locale with
  | none => rfl
  | some locale => exact congrArg (Option.getD · message.default) absent

/-- The body for a locale is a body of the message for that locale or by
default. -/
theorem exists_ownBody?_body (message : Message) (locale : Option String) :
    ∃ spoken, message.ownBody? spoken = some (message.body locale) := by
  cases own : message.ownBody? locale with
  | none => exact ⟨none, congrArg some (body_of_ownBody?_none own).symm⟩
  | some body =>
      exact ⟨locale, own.trans (congrArg some (body_of_ownBody? own).symm)⟩

end Message

namespace Assembly

/-- The template of a body has the id that it was made with. -/
theorem ofSource_eq_template
    {id other source : String}
    (template : Body.ofSource id source = .template other) :
    other = id := by
  rw [Body.ofSource] at template
  split at template
  · exact (Body.template.inj template).symm
  · cases template

theorem mem_sourceOf {id source : String} {entry : String × String} :
    entry ∈ sourceOf (Body.ofSource id source) source ↔
      Body.ofSource id source = .template id ∧ entry = (id, source) := by
  rw [Body.ofSource]
  split
  · simp [sourceOf]
  · simp [sourceOf]

/-- Where keys differ, a search by key finds the one that has it. -/
theorem find?_by_iff
    {α : Type} {key : α → String} {list : List α}
    (distinct : (list.map key).Nodup) {wanted : String} {found : α} :
    list.find? (fun one => key one == wanted) = some found ↔
      found ∈ list ∧ key found = wanted := by
  constructor
  · intro search
    have tested := List.find?_some search
    exact ⟨List.mem_of_find?_eq_some search, beq_iff_eq.mp tested⟩
  · rintro ⟨member, rfl⟩
    cases search : list.find? fun one => key one == key found with
    | none =>
        have missed := List.find?_eq_none.mp search found member
        exact (missed (beq_iff_eq.mpr rfl)).elim
    | some other =>
        have tested := List.find?_some search
        have inside := List.mem_of_find?_eq_some search
        rw [List.inj_on_of_nodup_map distinct inside member
          (beq_iff_eq.mp tested)]

section Default

/-- The message of a declaration in a default bundle. -/
def messageOf
    (definition : BundleDefinition) (declared : String × MessageDefinition) :
    Message where
  method := declared.1
  key := definition.keyFor declared.1
  parameters := declared.2.parameters
  default :=
    .ofSource (templateId definition.bundle none (definition.keyFor declared.1))
      declared.2.template

/-- The sources that declarations in a default bundle bring. -/
def defaultSources
    (definition : BundleDefinition) (declared : Roster MessageDefinition) :
    List (String × String) :=
  declared.flatMap fun one =>
    sourceOf (messageOf definition one).default one.2.template

/-- The bundle of a default definition. -/
def bundleOf (definition : BundleDefinition) : Bundle where
  name := definition.bundle
  defaultLocale := definition.locale
  messages := definition.messages.map (messageOf definition)

variable {definition : BundleDefinition} {assembly assembly' : Assembly}

/-- Adding messages appends them, and the sources of those that are
templates. -/
theorem addMessages_ok
    {messages messages' : List Message}
    {sources sources' : List (String × String)}
    {declared : Roster MessageDefinition}
    (added : addMessages definition messages sources declared =
      .ok (messages', sources')) :
    messages' = messages ++ declared.map (messageOf definition) ∧
      sources' = sources ++ defaultSources definition declared ∧
      ((messages.map Message.key).Nodup →
        (messages'.map Message.key).Nodup) := by
  induction declared generalizing messages sources with
  | nil =>
      cases added
      refine ⟨(List.append_nil _).symm, (List.append_nil _).symm, id⟩
  | cons one declared ih =>
      rcases one with ⟨method, message⟩
      rw [addMessages] at added
      dsimp only at added
      split at added
      · cases added
      · rename_i taken
        have fresh : definition.keyFor method ∉ messages.map Message.key := by
          intro member
          rcases List.mem_map.mp member with ⟨other, inside, same⟩
          exact taken
            (List.any_eq_true.mpr ⟨other, inside, beq_iff_eq.mpr same⟩)
        rcases ih added with ⟨rfl, rfl, keys⟩
        refine ⟨?_, ?_, ?_⟩
        · rw [List.append_assoc]
          rfl
        · rw [List.append_assoc]
          rfl
        · intro distinct
          apply keys
          rw [List.map_append]
          refine List.nodup_append.mpr ⟨distinct, List.nodup_singleton _, ?_⟩
          rintro key member other only rfl
          rcases List.mem_singleton.mp only with rfl
          exact fresh member

/-- A default definition adds its bundle, with a valid name that is new. -/
theorem addDefault_ok (added : addDefault assembly definition = .ok assembly') :
    isBundleName definition.bundle = true ∧
      definition.bundle ∉ assembly.bundles.map Bundle.name ∧
      ((bundleOf definition).messages.map Message.key).Nodup ∧
      assembly' =
        ⟨assembly.bundles ++ [bundleOf definition],
          assembly.sources ++
            defaultSources definition definition.messages⟩ := by
  rw [addDefault] at added
  split at added
  · cases added
  · rename_i valid
    split at added
    · cases added
    · rename_i taken
      split at added
      · cases added
      · rename_i messages sources declared
        cases added
        rcases addMessages_ok declared with ⟨rfl, rfl, keys⟩
        refine ⟨by simpa using valid, ?_, keys List.nodup_nil, rfl⟩
        intro member
        rcases List.mem_map.mp member with ⟨other, inside, same⟩
        exact taken (List.any_eq_true.mpr ⟨other, inside, beq_iff_eq.mpr same⟩)

end Default

section Localized

/-- A message with the body that an override declares for its method. -/
def overridden (bundle locale : String) (declared : Roster MessageDefinition)
    (message : Message) :
    Message :=
  match declared.get? message.method with
  | none => message
  | some definition =>
    { message with
      localized := message.localized.insert locale
        (.ofSource (templateId bundle (some locale) message.key)
          definition.template) }

variable {bundle locale : String} {declared : Roster MessageDefinition}
  {message : Message}

@[simp]
theorem method_overridden :
    (overridden bundle locale declared message).method = message.method := by
  unfold overridden
  split <;> rfl

@[simp]
theorem key_overridden :
    (overridden bundle locale declared message).key = message.key := by
  unfold overridden
  split <;> rfl

@[simp]
theorem default_overridden :
    (overridden bundle locale declared message).default = message.default := by
  unfold overridden
  split <;> rfl

/-- An override leaves the bodies for other locales alone. -/
theorem localized_overridden_of_ne
    {other : String} (different : other ≠ locale) :
    (overridden bundle locale declared message).localized.get? other =
      message.localized.get? other := by
  unfold overridden
  split
  · rfl
  · exact Dictionary.get?_insert_of_ne different _ _

/-- An override gives the message the declared text for the locale. -/
theorem localized_overridden_self {definition : MessageDefinition}
    (found : declared.get? message.method = some definition) :
    (overridden bundle locale declared message).localized.get? locale =
      some
        (.ofSource (templateId bundle (some locale) message.key)
          definition.template) := by
  unfold overridden
  rw [found]
  exact Dictionary.get?_insert_self _ _ _

theorem localized_overridden_absent
    (absent : declared.get? message.method = none) :
    overridden bundle locale declared message = message := by
  unfold overridden
  rw [absent]

theorem get?_of_mem {method : String} {definition : MessageDefinition}
    (distinct : (declared.map Prod.fst).Nodup)
    (member : (method, definition) ∈ declared) :
    declared.get? method = some definition :=
  Dictionary.get?_of_mem distinct member

theorem mem_of_get? {method : String} {definition : MessageDefinition}
    (found : declared.get? method = some definition) :
    (method, definition) ∈ declared :=
  Dictionary.mem_of_get? found

/-- One message localized, then the others: the same as all at once. -/
theorem overridden_localized
    {method key : String} {definition : MessageDefinition}
    (distinct : (((method, definition) :: declared).map Prod.fst).Nodup)
    (keyed : message.method = method → message.key = key) :
    overridden bundle locale declared
        (if message.method = method then
          { message with
            localized := message.localized.insert locale
              (.ofSource (templateId bundle (some locale) key)
                definition.template) }
        else message) =
      overridden bundle locale ((method, definition) :: declared) message := by
  by_cases same : message.method = method
  · have absent : declared.get? message.method = none := by
      rw [Roster.get?, List.lookup_eq_none_iff]
      intro other member
      rw [bne_iff_ne, same]
      intro equal
      exact (List.nodup_cons.mp distinct).1
        (List.mem_map.mpr ⟨other, member, equal.symm⟩)
    have first : Roster.get? message.method ((method, definition) :: declared) =
        some definition := by
      rw [Roster.get?, List.lookup_cons, beq_iff_eq.mpr same]
    rw [if_pos same, overridden, overridden, first, absent, ← keyed same]
  · have later :
        Roster.get? message.method ((method, definition) :: declared) =
          declared.get? message.method := by
      rw [Roster.get?, List.lookup_cons, beq_eq_false_iff_ne.mpr same]
      rfl
    rw [if_neg same, overridden, overridden, later]

/-- Localizing changes neither methods nor keys. -/
theorem exists_mem_localize
    {method : String} {body : Body} {messages : List Message}
    (holds : String → String → Prop) :
    (∃ message ∈ localize method locale body messages,
      holds message.method message.key) ↔
      ∃ message ∈ messages, holds message.method message.key := by
  have kept :
      ∀ message : Message,
        let changed :=
          if message.method = method then
            { message with localized := message.localized.insert locale body }
          else message
        changed.method = message.method ∧ changed.key = message.key := by
    intro message
    dsimp only
    split <;> exact ⟨rfl, rfl⟩
  constructor
  · rintro ⟨changed, member, held⟩
    rcases List.mem_map.mp member with ⟨message, inside, rfl⟩
    rw [(kept message).1, (kept message).2] at held
    exact ⟨message, inside, held⟩
  · rintro ⟨message, inside, held⟩
    refine ⟨_, List.mem_map_of_mem inside, ?_⟩
    rw [(kept message).1, (kept message).2]
    exact held

/-- Localizing changes no method. -/
theorem methods_localize
    (method : String) (body : Body) (messages : List Message) :
    (localize method locale body messages).map Message.method =
      messages.map Message.method := by
  rw [localize, List.map_map]
  refine List.map_congr_left ?_
  intro message _
  dsimp only [Function.comp]
  split <;> rfl

/-- Merging the messages of an override gives each of them its body for the
locale, and appends the sources of the templates. -/
theorem overrideMessages_ok
    {messages messages' : List Message}
    {sources sources' : List (String × String)}
    (merged : overrideMessages bundle locale messages sources declared =
      .ok (messages', sources'))
    (methods : (messages.map Message.method).Nodup)
    (distinct : (declared.map Prod.fst).Nodup) :
    messages' = messages.map (overridden bundle locale declared) ∧
      (∀ one ∈ declared, ∃ message ∈ messages, message.method = one.1) ∧
      ∃ extra, sources' = sources ++ extra ∧
        ∀ entry, entry ∈ extra ↔
          ∃ one ∈ declared, ∃ message ∈ messages, message.method = one.1 ∧
            entry ∈ sourceOf
              (.ofSource (templateId bundle (some locale) message.key)
                one.2.template) one.2.template := by
  induction declared generalizing messages sources with
  | nil =>
      cases merged
      refine ⟨(List.map_id _).symm, List.forall_mem_nil _, [],
        (List.append_nil _).symm, ?_⟩
      intro entry
      exact iff_of_false List.not_mem_nil fun ⟨_, member, _⟩ =>
        List.not_mem_nil member
  | cons one declared ih =>
      rcases one with ⟨method, definition⟩
      rw [overrideMessages] at merged
      cases search : messages.find? fun other => other.method == method with
      | none =>
          rw [search] at merged
          cases merged
      | some found =>
          rw [search] at merged
          rcases (find?_by_iff methods).mp search with ⟨member, named⟩
          have only : ∀ message ∈ messages, message.method = method →
              message = found := by
            intro message inside same
            exact List.inj_on_of_nodup_map methods inside member
              (same.trans named.symm)
          rcases ih merged (by rwa [methods_localize])
            (List.nodup_cons.mp distinct).2
            with ⟨rfl, present, extra, rfl, members⟩
          refine ⟨?_, ?_, _, List.append_assoc _ _ _, ?_⟩
          · rw [localize, List.map_map]
            refine List.map_congr_left ?_
            intro message inside
            exact overridden_localized distinct fun same =>
              congrArg Message.key (only message inside same)
          · refine List.forall_mem_cons.mpr ⟨⟨found, member, named⟩, ?_⟩
            intro one inside
            exact (exists_mem_localize fun named _ => named = one.1).mp
              (present one inside)
          · intro entry
            rw [List.mem_append, members, List.exists_mem_cons_iff]
            refine or_congr ?_ ?_
            · constructor
              · intro brought
                exact ⟨found, member, named, brought⟩
              · rintro ⟨message, inside, same, brought⟩
                rwa [only message inside same] at brought
            · refine exists_congr fun other => and_congr_right fun _ => ?_
              exact exists_mem_localize fun named key =>
                named = other.1 ∧
                  entry ∈ sourceOf
                    (.ofSource (templateId bundle (some locale) key)
                      other.2.template) other.2.template

/-- The body of its own that a message has stays, unless it is for the locale of
the override. -/
theorem ownBody?_overridden
    {other : Option String} (different : other ≠ some locale) :
    (overridden bundle locale declared message).ownBody? other =
      message.ownBody? other := by
  cases other with
  | none => exact congrArg some default_overridden
  | some other =>
      exact localized_overridden_of_ne fun same =>
        different (congrArg some same)

variable {definition : BundleDefinition} {assembly assembly' : Assembly}

/-- A body for the locale of an override, where there was none before, is one
that it declares. -/
theorem exists_of_ownBody?_overridden
    (absent : ∀ body, message.ownBody? (some locale) ≠ some body) {body : Body}
    (own : (overridden bundle locale declared message).ownBody? (some locale) =
      some body) :
    ∃ one, (message.method, one) ∈ declared ∧
      body =
        .ofSource (templateId bundle (some locale) message.key)
          one.template := by
  cases found : declared.get? message.method with
  | none =>
      rw [localized_overridden_absent found] at own
      exact (absent body own).elim
  | some one =>
      exact ⟨one, mem_of_get? found,
        Option.some.inj (own.symm.trans (localized_overridden_self found))⟩

/-- A bundle with the messages of an override. -/
def merged
    (target : Bundle) (locale : String) (declared : Roster MessageDefinition) :
    Bundle :=
  { target with
    messages := target.messages.map (overridden target.name locale declared)
    locales := target.locales ++ [locale] }

/-- Bundles with an override merged into one of them. -/
def mergedInto
    (target : Bundle) (locale : String) (declared : Roster MessageDefinition)
    (bundles : List Bundle) : List Bundle :=
  bundles.map fun other =>
    if other.name = target.name then merged target locale declared else other

section Merged

variable {target : Bundle} {bundles : List Bundle}

theorem methods_merged :
    (merged target locale declared).messages.map Message.method =
      target.messages.map Message.method := by
  rw [merged, List.map_map]
  exact List.map_congr_left fun message _ => method_overridden

theorem keys_merged :
    (merged target locale declared).messages.map Message.key =
      target.messages.map Message.key := by
  rw [merged, List.map_map]
  exact List.map_congr_left fun message _ => key_overridden

/-- Merging changes no name of a bundle. -/
theorem names_mergedInto :
    (mergedInto target locale declared bundles).map Bundle.name =
      bundles.map Bundle.name := by
  rw [mergedInto, List.map_map]
  refine List.map_congr_left ?_
  intro other _
  dsimp only [Function.comp]
  split
  · rename_i same
    exact same.symm
  · rfl

/-- After a merge every bundle is the merged one or one of before. -/
theorem mem_of_mem_mergedInto
    {bundle : Bundle}
    (member : bundle ∈ mergedInto target locale declared bundles) :
    bundle = merged target locale declared ∨ bundle ∈ bundles := by
  rcases List.mem_map.mp member with ⟨other, old, rfl⟩
  split
  · exact .inl rfl
  · exact .inr old

theorem merged_mem_mergedInto (inside : target ∈ bundles) :
    merged target locale declared ∈ mergedInto target locale declared bundles :=
  List.mem_map.mpr ⟨target, inside, if_pos rfl⟩

/-- What is true of a message of a bundle, up to bodies for the locale of an
override, is true after the override. -/
theorem exists_mem_mergedInto
    (holds : String → String → Option Body → Prop) {other : Option String}
    (names : (bundles.map Bundle.name).Nodup) (inside : target ∈ bundles)
    {bundle : Bundle} (member : bundle ∈ bundles) {message : Message}
    (among : message ∈ bundle.messages)
    (different : bundle = target → other ≠ some locale)
    (held : holds bundle.name message.method (message.ownBody? other)) :
    ∃ bundle ∈ mergedInto target locale declared bundles,
      ∃ message ∈ bundle.messages,
      holds bundle.name message.method (message.ownBody? other) := by
  refine ⟨_, List.mem_map_of_mem member, ?_⟩
  by_cases same : bundle.name = target.name
  · rcases List.inj_on_of_nodup_map names member inside same with rfl
    rw [if_pos same]
    refine ⟨_, List.mem_map_of_mem among, ?_⟩
    rw [method_overridden, ownBody?_overridden (different rfl)]
    exact held
  · rw [if_neg same]
    exact ⟨message, among, held⟩

end Merged

/-- A localized definition is merged into the bundle of its name: it brings a
locale that the bundle does not have, overrides messages of the bundle, and has
extra sources for the bodies. -/
structure Merges
    (assembly : Assembly) (definition : BundleDefinition) (locale : String)
    (target : Bundle)
    (extra : List (String × String)) : Prop where
  speaks : definition.locale = some locale
  inside : target ∈ assembly.bundles
  named : target.name = definition.bundle
  unspoken : locale ∉ target.locales
  present : ∀ one ∈ definition.messages, ∃ message ∈ target.messages,
    message.method = one.1
  members : ∀ entry, entry ∈ extra ↔
    ∃ one ∈ definition.messages, ∃ message ∈ target.messages,
      message.method = one.1 ∧
      entry ∈ sourceOf
        (.ofSource (templateId target.name (some locale) message.key)
          one.2.template) one.2.template

/-- A localized definition that is accepted merges into the bundle that it
names, and changes nothing else. -/
theorem addLocalized_ok
    (added : addLocalized assembly definition = .ok assembly')
    (methods : ∀ bundle ∈ assembly.bundles,
      (bundle.messages.map Message.method).Nodup)
    (distinct : (definition.messages.map Prod.fst).Nodup) :
    ∃ locale target extra, Merges assembly definition locale target extra ∧
      assembly' =
        ⟨mergedInto target locale definition.messages assembly.bundles,
          assembly.sources ++ extra⟩ := by
  rw [addLocalized] at added
  split at added
  · cases added
  · rename_i locale served
    split at added
    · cases added
    · rename_i target search
      have member := List.mem_of_find?_eq_some search
      have tested := List.find?_some search
      split at added
      · cases added
      · rename_i taken
        split at added
        · cases added
        · rename_i messages sources overriding
          cases added
          rcases overrideMessages_ok overriding (methods target member) distinct
            with ⟨rfl, present, extra, rfl, members⟩
          refine ⟨locale, target, extra, ?_, rfl⟩
          exact {
            speaks := served
            inside := member
            named := beq_iff_eq.mp tested
            unspoken := fun spoken => taken (.inr spoken)
            present := present
            members := members }

end Localized

end Assembly

end Phrasebook
