import Phrasebook.Proofs.Bundle.Outline

/-!
# Definitions that speak one locale

Definitions can be reduced to one locale: the default bundles alone, in which
the text of a message is the one for the locale if there is one.  They are
accepted when the full definitions are.  What they are assembled to has the same
bundles and messages, and the default body of a message has the text that the
body for the locale has in the full definitions.
-/

namespace Phrasebook

/-- The text that definitions have for a method of a bundle in a locale. -/
def localizedText?
    (definitions : List BundleDefinition) (locale bundle method : String) :
    Option String :=
  definitions.findSome? fun definition =>
    if definition.localized && definition.bundle == bundle &&
      definition.locale == some locale then
      (definition.messages.get? method).map MessageDefinition.template
    else none

/-- A definition with other texts for some of its methods. -/
def BundleDefinition.spoken
    (texts : String → Option String) (definition : BundleDefinition) :
    BundleDefinition :=
  { definition with
    messages := definition.messages.map fun (method, message) =>
      (method,
        { message with template := (texts method).getD message.template }) }

/-- The default bundles alone, with the texts for a locale where there are
some. -/
def speaking (locale : String) (definitions : List BundleDefinition) :
    List BundleDefinition :=
  (definitions.filter fun definition => !definition.localized).map
      fun definition =>
    definition.spoken (localizedText? definitions locale definition.bundle)

section Definitions

variable {definitions : List BundleDefinition}
  {locale bundle method source : String}

theorem declares_of_localizedText?
    (found : localizedText? definitions locale bundle method = some source) :
    Declares definitions bundle method (some locale) source := by
  rcases List.exists_of_findSome?_eq_some found with ⟨definition, member, read⟩
  split_ifs at read with meant
  simp only [Bool.and_eq_true, beq_iff_eq] at meant
  rcases Option.map_eq_some_iff.mp read with ⟨message, declared, rfl⟩
  exact ⟨definition, member, meant.1.2, .localized meant.1.1 meant.2, message,
    Assembly.mem_of_get? declared, rfl⟩

/-- What is declared for a locale is found as its text, the last one if there
are several. -/
theorem exists_localizedText?
    (distinct : ∀ definition ∈ definitions,
      (definition.messages.map Prod.fst).Nodup)
    (declared : Declares definitions bundle method (some locale) source) :
    ∃ text, localizedText? definitions locale bundle method = some text := by
  rcases declared with ⟨definition, member, rfl, serves, message, among, rfl⟩
  apply Option.isSome_iff_exists.mp
  rw [localizedText?, List.findSome?_isSome_iff]
  refine ⟨definition, member, ?_⟩
  cases serves with
  | localized localized speaks =>
      simp [localized, speaks,
        Assembly.get?_of_mem (distinct definition member) among]

variable {texts : String → Option String} {definition : BundleDefinition}

theorem keyFor_spoken (method : String) :
    (definition.spoken texts).keyFor method = definition.keyFor method := by
  have key : ((definition.spoken texts).messages.get? method).bind
      MessageDefinition.key =
      (definition.messages.get? method).bind MessageDefinition.key := by
    rw [BundleDefinition.spoken]
    dsimp only
    induction definition.messages with
    | nil => rfl
    | cons one rest ih =>
        rw [Roster.get?, Roster.get?, List.map_cons, List.lookup_cons,
          List.lookup_cons]
        cases method == one.1 with
        | true => rfl
        | false => exact ih
  rw [BundleDefinition.keyFor, key]
  rfl

/-- Speaking a locale changes no method of a definition. -/
theorem methods_spoken :
    (definition.spoken texts).messages.map Prod.fst =
      definition.messages.map Prod.fst := by
  rw [BundleDefinition.spoken, List.map_map]
  rfl

theorem messages_spoken :
    (Assembly.bundleOf (definition.spoken texts)).messages =
      definition.messages.map fun one =>
        Assembly.messageOf (definition.spoken texts)
          (one.1,
            { one.2 with template := (texts one.1).getD one.2.template }) :=
  List.map_map

/-- Speaking a locale changes no key of a definition. -/
theorem keys_spoken :
    (Assembly.bundleOf (definition.spoken texts)).messages.map Message.key =
      (Assembly.bundleOf definition).messages.map Message.key := by
  have keys (definition : BundleDefinition) :
      (Assembly.bundleOf definition).messages.map Message.key =
        (definition.messages.map Prod.fst).map definition.keyFor := by
    rw [Assembly.bundleOf, List.map_map, List.map_map]
    rfl
  rw [keys, keys, methods_spoken]
  exact List.map_congr_left fun method _ => keyFor_spoken method

/-- The definitions that speak a locale are the default ones, with the texts for
this locale put in. -/
theorem mem_speaking :
    definition ∈ speaking locale definitions ↔
      ∃ base ∈ definitions, base.localized = false ∧
        definition =
          base.spoken (localizedText? definitions locale base.bundle) := by
  constructor
  · intro member
    rcases List.mem_map.mp member with ⟨base, inside, rfl⟩
    rcases List.mem_filter.mp inside with ⟨listed, plain⟩
    exact ⟨base, listed, (Bool.not_eq_true' _).mp plain, rfl⟩
  · rintro ⟨base, listed, plain, rfl⟩
    apply List.mem_map_of_mem
    exact List.mem_filter.mpr ⟨listed, (Bool.not_eq_true' _).mpr plain⟩

theorem plain_speaking (member : definition ∈ speaking locale definitions) :
    definition.localized = false := by
  rcases mem_speaking.mp member with ⟨base, -, plain, rfl⟩
  exact plain

theorem distinct_speaking
    (distinct : ∀ definition ∈ definitions,
      (definition.messages.map Prod.fst).Nodup)
    (member : definition ∈ speaking locale definitions) :
    (definition.messages.map Prod.fst).Nodup := by
  rcases mem_speaking.mp member with ⟨base, inside, -, rfl⟩
  rw [methods_spoken]
  exact distinct base inside

/-- Definitions that speak one locale are as admissible as the default ones. -/
theorem admissible_speaking
    (admissible :
      Assembly.Admissible [] (definitions.filter fun definition =>
        !definition.localized)) :
    Assembly.Admissible [] (speaking locale definitions) := by
  constructor
  · rw [speaking, List.map_map]
    exact admissible.1
  · intro definition member
    rcases List.mem_map.mp member with ⟨base, inside, rfl⟩
    rw [keys_spoken]
    exact admissible.2 base inside

end Definitions

end Phrasebook
