import Phrasebook.Proofs.Bundle.Outline

/-!
# Acceptable definitions

Definitions are acceptable when the default bundles have names that are bundle
names, each used once, and keys that differ within a bundle, and when each
localized override has a locale that nothing else of its bundle has, and a
default bundle that has all of its methods.  Nothing in this depends on the
order of the definitions.

Merging overrides checks each one against the bundles as they are by then.  What
counts in these bundles is their outline, which merging does not change, and the
locales of the overrides merged so far; so the checks along the way come to the
same as comparing the overrides with each other.
-/

namespace Phrasebook

/-- A bundle name: a lower case letter and then letters, digits and underscores,
all in ASCII. -/
def IsBundleName (name : String) : Prop :=
  ∃ first rest, name.toList = first :: rest ∧ ('a' ≤ first ∧ first ≤ 'z') ∧
    ∀ character ∈ rest, ('a' ≤ character ∧ character ≤ 'z') ∨
      ('A' ≤ character ∧ character ≤ 'Z') ∨
      ('0' ≤ character ∧ character ≤ '9') ∨ character = '_'

/-- The key that a definition gives to a message: the declared one, otherwise by
its strategy. -/
def BundleDefinition.declaredKey
    (definition : BundleDefinition) (one : String × MessageDefinition) :
    String :=
  one.2.key.getD (definition.defaultKey.apply one.1)

/-- An override has a place among others: its bundle and its locale. -/
def BundleDefinition.place (definition : BundleDefinition) :
    String × Option String :=
  (definition.bundle, definition.locale)

/-- The definitions can be assembled. -/
structure Acceptable (definitions : List BundleDefinition) : Prop where
  named : ∀ definition ∈ definitions, definition.localized = false →
    IsBundleName definition.bundle
  single :
    ((definitions.filter fun definition => !definition.localized).map
      BundleDefinition.bundle).Nodup
  keyed : ∀ definition ∈ definitions, definition.localized = false →
    (definition.messages.map definition.declaredKey).Nodup
  based : ∀ definition ∈ definitions, definition.localized = true →
    ∃ locale, definition.locale = some locale ∧
      ∃ base ∈ definitions, base.localized = false ∧
        base.bundle = definition.bundle ∧
        base.locale ≠ some locale ∧
        ∀ one ∈ definition.messages, one.1 ∈ base.messages.map Prod.fst
  apart :
    ((definitions.filter BundleDefinition.localized).map
      BundleDefinition.place).Nodup

theorem Acceptable.of_perm
    {definitions definitions' : List BundleDefinition}
    (acceptable : Acceptable definitions)
    (same : definitions.Perm definitions') : Acceptable definitions' where
  named := fun definition member =>
    acceptable.named definition (same.mem_iff.mpr member)
  single := ((same.filter _).map _).nodup_iff.mp acceptable.single
  keyed := fun definition member =>
    acceptable.keyed definition (same.mem_iff.mpr member)
  based := by
    intro definition member localized
    rcases acceptable.based definition (same.mem_iff.mpr member) localized with
      ⟨locale, speaks, base, inside, rest⟩
    exact ⟨locale, speaks, base, same.mem_iff.mp inside, rest⟩
  apart := ((same.filter _).map _).nodup_iff.mp acceptable.apart

namespace Assembly

/-- The tests for lower case letters and for digits are comparisons with two
bounds. -/
theorem inRange_iff {lowest highest character : Char} :
    (decide (character.val ≥ lowest.val) &&
      decide (character.val ≤ highest.val)) = true ↔
      lowest ≤ character ∧ character ≤ highest := by
  rw [Bool.and_eq_true, decide_eq_true_iff, decide_eq_true_iff]
  exact Iff.rfl

theorem isAlphanum_iff {character : Char} :
    character.isAlphanum = true ↔
      ('a' ≤ character ∧ character ≤ 'z') ∨
        ('A' ≤ character ∧ character ≤ 'Z') ∨
        ('0' ≤ character ∧ character ≤ '9') := by
  have upper : character.isUpper = true ↔ 'A' ≤ character ∧ character ≤ 'Z' :=
    decide_eq_true_iff
  have lower : character.isLower = true ↔ 'a' ≤ character ∧ character ≤ 'z' :=
    inRange_iff
  have digit : character.isDigit = true ↔ '0' ≤ character ∧ character ≤ '9' :=
    inRange_iff
  change ((character.isUpper || character.isLower) || character.isDigit) =
    true ↔ _
  rw [Bool.or_eq_true, Bool.or_eq_true, upper, lower, digit, or_assoc,
    or_left_comm]

theorem isBundleName_iff
    {name : String} : isBundleName name = true ↔ IsBundleName name := by
  rw [isBundleName, IsBundleName]
  cases name.toList with
  | nil => simp
  | cons first rest =>
      have lower : first.isLower = true ↔ 'a' ≤ first ∧ first ≤ 'z' :=
        inRange_iff
      simp only [Bool.and_eq_true, Bool.or_eq_true, List.all_eq_true,
        beq_iff_eq, isAlphanum_iff, lower, or_assoc]
      constructor
      · rintro ⟨lower, others⟩
        exact ⟨first, rest, rfl, lower, others⟩
      · rintro ⟨_, _, same, lower, others⟩
        cases same
        exact ⟨lower, others⟩

/-- A failure is not accepted. -/
theorem not_exists_ok {ε ρ : Type} {error : ε} : ¬ ∃ result :
    ρ, Except.error error = .ok result := by
  rintro ⟨_, accepted⟩
  cases accepted

section Overrides

variable {definition : BundleDefinition} {assembly : Assembly}

/-- Messages are overridden when all of their methods are there. -/
theorem exists_overrideMessages_iff
    (bundle locale : String) (messages : List Message)
    (sources : List (String × String)) (declared : Roster MessageDefinition) :
    (∃ result, overrideMessages bundle locale messages sources declared =
      .ok result) ↔
      ∀ one ∈ declared, one.1 ∈ messages.map Message.method := by
  induction declared generalizing messages sources with
  | nil => exact iff_of_true ⟨_, rfl⟩ (List.forall_mem_nil _)
  | cons one declared ih =>
      rcases one with ⟨method, message⟩
      rw [List.forall_mem_cons, overrideMessages]
      cases search : messages.find? fun other => other.method == method with
      | none =>
          refine iff_of_false not_exists_ok fun present => ?_
          rcases List.mem_map.mp present.1 with ⟨other, inside, same⟩
          exact List.find?_eq_none.mp search other inside (beq_iff_eq.mpr same)
      | some found =>
          have tested := List.find?_some search
          have present : method ∈ messages.map Message.method :=
            List.mem_map.mpr ⟨found, List.mem_of_find?_eq_some search,
              beq_iff_eq.mp tested⟩
          rw [and_iff_right present]
          dsimp only
          rw [ih, methods_localize]

/-- An override is merged when it fits to the bundle of its name as that is by
then. -/
theorem exists_addLocalized_iff
    (names : (assembly.bundles.map Bundle.name).Nodup) :
    (∃ assembly', addLocalized assembly definition = .ok assembly') ↔
      ∃ locale, definition.locale = some locale ∧
        ∃ target ∈ assembly.bundles, target.name = definition.bundle ∧
          target.defaultLocale ≠ some locale ∧
          locale ∉ target.locales ∧ ∀ one ∈ definition.messages,
            one.1 ∈ target.messages.map Message.method := by
  rw [addLocalized]
  cases speaks : definition.locale with
  | none => simp
  | some locale =>
      simp only [Option.some.injEq, exists_eq_left']
      cases search : assembly.bundles.find? fun bundle =>
        bundle.name == definition.bundle with
      | none =>
          refine iff_of_false not_exists_ok ?_
          rintro ⟨target, inside, same, -⟩
          exact List.find?_eq_none.mp search target inside (beq_iff_eq.mpr same)
      | some found =>
          rcases (find?_by_iff names).mp search with ⟨inside, named⟩
          have only {target : Bundle} (member : target ∈ assembly.bundles)
              (same : target.name = definition.bundle) : target = found :=
            List.inj_on_of_nodup_map names member inside (same.trans named.symm)
          dsimp only
          split
          case isTrue taken =>
            refine iff_of_false not_exists_ok ?_
            rintro ⟨target, member, same, free, unspoken, -⟩
            rcases only member same with rfl
            exact taken.elim free unspoken
          case isFalse untaken =>
            rcases not_or.mp untaken with ⟨free, unspoken⟩
            have overrides :=
              exists_overrideMessages_iff found.name locale found.messages
                assembly.sources definition.messages
            constructor
            · rintro ⟨assembly', added⟩
              refine ⟨found, inside, named, free, unspoken, overrides.mp ?_⟩
              split at added
              · cases added
              · exact ⟨_, by assumption⟩
            · rintro ⟨target, member, same, -, -, present⟩
              rcases only member same with rfl
              rcases overrides.mpr present with ⟨result, overridden⟩
              rw [overridden]
              exact ⟨_, rfl⟩

/-- The bundles after some overrides were merged: their outlines are those of
the default bundles, and their locales are those of the overrides. -/
structure MergedFrom (bases : List Bundle) (done : List BundleDefinition)
    (assembly : Assembly) : Prop where
  outlines : assembly.bundles.map Bundle.outline = bases
  locales : ∀ bundle ∈ assembly.bundles, ∀ locale,
    locale ∈ bundle.locales ↔
      (bundle.name, some locale) ∈ done.map BundleDefinition.place

/-- An override fits to the default bundles, whatever the other overrides
are. -/
def Fits (bases : List Bundle) (definition : BundleDefinition) : Prop :=
  ∃ locale, definition.locale = some locale ∧
    ∃ base ∈ bases, base.name = definition.bundle ∧ base.defaultLocale ≠
      some locale ∧
      ∀ one ∈ definition.messages, one.1 ∈ base.messages.map Message.method

variable {bases : List Bundle} {done rest : List BundleDefinition}

/-- The next override is merged when it fits and no earlier one has its
place. -/
theorem MergedFrom.exists_addLocalized_iff
    (merged : MergedFrom bases done assembly)
    (names : (bases.map Bundle.name).Nodup) (definition : BundleDefinition) :
    (∃ assembly', addLocalized assembly definition = .ok assembly') ↔
      Fits bases definition ∧
        definition.place ∉ done.map BundleDefinition.place := by
  have named : (assembly.bundles.map Bundle.name).Nodup := by
    rw [map_name_of_outline merged.outlines]
    exact names
  rw [Assembly.exists_addLocalized_iff named]
  constructor
  · rintro ⟨locale, speaks, target, inside, same, free, unspoken, present⟩
    refine ⟨⟨locale, speaks, target.outline, ?_, same, free, ?_⟩, ?_⟩
    · rw [← merged.outlines]
      exact List.mem_map_of_mem inside
    · rwa [← map_method_of_outline]
    · rwa [merged.locales target inside, same, ← speaks] at unspoken
  · rintro ⟨⟨locale, speaks, base, member, same, free, present⟩, fresh⟩
    rw [← merged.outlines] at member
    rcases List.mem_map.mp member with ⟨target, inside, rfl⟩
    refine ⟨locale, speaks, target, inside, same, free, ?_, ?_⟩
    · rw [merged.locales target inside,
        show target.name = definition.bundle from same, ← speaks]
      exact fresh
    · rwa [map_method_of_outline]

/-- Merging one more override. -/
theorem MergedFrom.addLocalized
    {assembly' : Assembly} (merged : MergedFrom bases done assembly)
    (names : (bases.map Bundle.name).Nodup)
    (methods : ∀ base ∈ bases, (base.messages.map Message.method).Nodup)
    (distinct : (definition.messages.map Prod.fst).Nodup)
    (added : addLocalized assembly definition = .ok assembly') :
    MergedFrom bases (done ++ [definition]) assembly' := by
  have named : (assembly.bundles.map Bundle.name).Nodup := by
    rw [map_name_of_outline merged.outlines]
    exact names
  have spelled : ∀ bundle ∈ assembly.bundles,
      (bundle.messages.map Message.method).Nodup := by
    intro bundle member
    rw [map_method_of_outline]
    apply methods
    rw [← merged.outlines]
    exact List.mem_map_of_mem member
  rcases addLocalized_ok added spelled distinct with
    ⟨locale, target, extra, merges, rfl⟩
  constructor
  case outlines =>
    exact (outline_mergedInto named merges.inside).trans merged.outlines
  case locales =>
    intro bundle member spoken
    have added : (bundle.name, some spoken) ∈
        (done ++ [definition]).map BundleDefinition.place ↔
        (bundle.name, some spoken) ∈ done.map BundleDefinition.place ∨
          bundle.name = target.name ∧ spoken = locale := by
      rw [List.map_append, List.mem_append, merges.named]
      simp [BundleDefinition.place, merges.speaks]
    rw [added]
    rcases List.mem_map.mp member with ⟨other, old, rfl⟩
    split_ifs with same
    · rcases List.inj_on_of_nodup_map named old merges.inside same with rfl
      change spoken ∈ other.locales ++ [locale] ↔
        (other.name, some spoken) ∈ _ ∨ other.name = other.name ∧ _
      rw [List.mem_append, merged.locales _ old, List.mem_singleton,
        and_iff_right rfl]
    · rw [merged.locales _ old]
      simp [same]

/-- Overrides are merged one after the other exactly when each of them fits and
their places differ. -/
theorem MergedFrom.exists_foldlM_iff
    (names : (bases.map Bundle.name).Nodup)
    (methods : ∀ base ∈ bases, (base.messages.map Message.method).Nodup)
    (distinct : ∀ definition ∈ rest, (definition.messages.map Prod.fst).Nodup)
    (merged : MergedFrom bases done assembly) :
    (∃ assembly', rest.foldlM Assembly.addLocalized assembly = .ok assembly') ↔
      (∀ definition ∈ rest, Fits bases definition) ∧
        (rest.map BundleDefinition.place).Nodup ∧
        ∀ definition ∈ rest,
          definition.place ∉ done.map BundleDefinition.place := by
  induction rest generalizing done assembly with
  | nil =>
      exact iff_of_true ⟨_, rfl⟩ ⟨List.forall_mem_nil _, List.nodup_nil,
        List.forall_mem_nil _⟩
  | cons definition rest ih =>
      rcases List.forall_mem_cons.mp distinct with ⟨own, others⟩
      have next := merged.exists_addLocalized_iff names definition
      rw [List.foldlM_cons, List.forall_mem_cons, List.forall_mem_cons,
        List.map_cons, List.nodup_cons]
      cases added : Assembly.addLocalized assembly definition with
      | error error =>
          rw [added] at next
          refine iff_of_false not_exists_ok ?_
          rintro ⟨⟨fits, -⟩, -, fresh, -⟩
          exact not_exists_ok (next.mpr ⟨fits, fresh⟩)
      | ok middle =>
          rw [added] at next
          rcases next.mp ⟨middle, rfl⟩ with ⟨fits, fresh⟩
          have later := ih others (merged.addLocalized names methods own added)
          have places : (∀ other ∈ rest,
              other.place ∉ (done ++ [definition]).map BundleDefinition.place) ↔
              (∀ other ∈ rest, other.place ∉ done.map BundleDefinition.place) ∧
                definition.place ∉ rest.map BundleDefinition.place := by
            simp only [List.map_append, List.map_cons, List.map_nil,
              List.mem_append, List.mem_singleton, not_or,
              forall_and, List.mem_map, not_exists, not_and, eq_comm]
          rw [places] at later
          rw [and_iff_right fits, and_iff_right fresh]
          refine Iff.trans later (and_congr_right fun _ => ?_)
          tauto

end Overrides

section Definitions

variable {definitions : List BundleDefinition} {definition : BundleDefinition}

/-- Where methods differ, the key of a method is that of its declaration. -/
theorem keyFor_of_mem
    (distinct : (definition.messages.map Prod.fst).Nodup)
    {one : String × MessageDefinition} (member : one ∈ definition.messages) :
    definition.keyFor one.1 = definition.declaredKey one := by
  rw [BundleDefinition.keyFor, get?_of_mem distinct member]
  rfl

theorem keys_bundleOf (distinct : (definition.messages.map Prod.fst).Nodup) :
    (bundleOf definition).messages.map Message.key =
      definition.messages.map definition.declaredKey := by
  rw [bundleOf, List.map_map]
  exact List.map_congr_left fun one member => keyFor_of_mem distinct member

theorem methods_bundleOf :
    (bundleOf definition).messages.map Message.method =
      definition.messages.map Prod.fst := by
  rw [bundleOf, List.map_map]
  rfl

theorem mem_defaults :
    definition ∈ definitions.filter (fun definition => !definition.localized) ↔
      definition ∈ definitions ∧ definition.localized = false := by
  rw [List.mem_filter, Bool.not_eq_true']

/-- An override fits to the bundles of the default definitions when one of these
is a base for it. -/
theorem fits_defaults_iff :
    Fits ((definitions.filter fun definition => !definition.localized).map
        bundleOf) definition ↔
      ∃ locale, definition.locale = some locale ∧
        ∃ base ∈ definitions, base.localized = false ∧
          base.bundle = definition.bundle ∧
          base.locale ≠ some locale ∧
          ∀ one ∈ definition.messages, one.1 ∈ base.messages.map Prod.fst := by
  refine exists_congr fun locale => and_congr_right fun _ => ?_
  constructor
  · rintro ⟨_, member, same, free, present⟩
    rcases List.mem_map.mp member with ⟨base, inside, rfl⟩
    rw [methods_bundleOf] at present
    rcases mem_defaults.mp inside with ⟨known, plain⟩
    exact ⟨base, known, plain, same, free, present⟩
  · rintro ⟨base, known, plain, same, free, present⟩
    refine ⟨bundleOf base,
      List.mem_map_of_mem (mem_defaults.mpr ⟨known, plain⟩), same, free, ?_⟩
    rwa [methods_bundleOf]

variable
  (distinct : ∀ definition ∈ definitions,
    (definition.messages.map Prod.fst).Nodup)

include distinct

theorem admissible_defaults_iff :
    Admissible [] (definitions.filter fun definition => !definition.localized) ↔
      ((definitions.filter fun definition => !definition.localized).map
        BundleDefinition.bundle).Nodup ∧
        ∀ definition ∈ definitions, definition.localized = false →
          IsBundleName definition.bundle ∧
            (definition.messages.map definition.declaredKey).Nodup := by
  rw [Admissible, List.nil_append]
  refine and_congr_right fun _ => forall_congr' fun definition => ?_
  rw [mem_defaults, and_imp]
  refine forall_congr' fun member => forall_congr' fun _ => ?_
  rw [isBundleName_iff, keys_bundleOf (distinct definition member)]

/-- Definitions are assembled exactly when they are acceptable. -/
theorem exists_ofDefinitions_iff :
    (∃ assembly, ofDefinitions definitions = .ok assembly) ↔
      Acceptable definitions := by
  let defaults := definitions.filter fun definition => !definition.localized
  let overrides := definitions.filter BundleDefinition.localized
  have split : (∃ assembly, ofDefinitions definitions = .ok assembly) ↔
      Admissible [] defaults ∧
        ∃ assembly,
            overrides.foldlM addLocalized (Assembly.withDefaults {} defaults) =
                .ok assembly := by
    rw [ofDefinitions]
    cases added : defaults.foldlM addDefault {} with
    | error error =>
        refine iff_of_false not_exists_ok ?_
        rintro ⟨admissible, _⟩
        cases added.symm.trans (foldlM_addDefault_empty.mpr ⟨admissible, rfl⟩)
    | ok middle =>
        rcases foldlM_addDefault_empty.mp added with ⟨admissible, rfl⟩
        exact (and_iff_right admissible).symm
  have merging (admissible : Admissible [] defaults) :
      (∃ assembly,
        overrides.foldlM addLocalized (Assembly.withDefaults {} defaults) =
          .ok assembly) ↔
        (∀ definition ∈ overrides, Fits (defaults.map bundleOf) definition) ∧
          (overrides.map BundleDefinition.place).Nodup := by
    have start : MergedFrom (defaults.map bundleOf) []
        (Assembly.withDefaults {} defaults) := by
      refine ⟨outline_withDefaults, ?_⟩
      intro bundle member locale
      rcases List.mem_map.mp member with ⟨definition, -, rfl⟩
      exact iff_of_false List.not_mem_nil List.not_mem_nil
    rw [start.exists_foldlM_iff]
    · simp
    · rw [List.map_map]
      exact admissible.1
    · intro base member
      rcases List.mem_map.mp member with ⟨definition, inside, rfl⟩
      rw [methods_bundleOf]
      exact distinct definition (List.mem_filter.mp inside).1
    · exact fun definition member =>
        distinct definition (List.mem_filter.mp member).1
  rw [split, and_congr_right merging, admissible_defaults_iff distinct]
  constructor
  · rintro ⟨⟨single, each⟩, fits, apart⟩
    exact {
      named := fun definition member plain => (each definition member plain).1
      single := single
      keyed := fun definition member plain => (each definition member plain).2
      based := fun definition member localized =>
        fits_defaults_iff.mp
          (fits definition (List.mem_filter.mpr ⟨member, localized⟩))
      apart := apart }
  · intro acceptable
    refine ⟨⟨acceptable.single, fun definition member plain => ?_⟩,
      fun definition member => ?_, acceptable.apart⟩
    · exact ⟨acceptable.named definition member plain,
        acceptable.keyed definition member plain⟩
    · rcases List.mem_filter.mp member with ⟨inside, localized⟩
      exact fits_defaults_iff.mpr (acceptable.based definition inside localized)

end Definitions

end Assembly

end Phrasebook
