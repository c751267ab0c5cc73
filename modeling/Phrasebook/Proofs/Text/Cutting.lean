import Mathlib.Data.List.TakeWhile
import Phrasebook.Text.Cutting

/-!
# Cutting and trimming

A text is cut at the first separator, so what stands before it has none.
Trimming takes blanks away from both ends and nothing else: a text that neither
starts nor ends with a blank is what is left of it with any blanks around it.
-/

namespace Phrasebook

namespace Text

theorem splitFirst?_append_cons
    {separator : Char} {before : List Char} (absent : separator ∉ before)
    (after : List Char) :
    splitFirst? separator (before ++ separator :: after) =
      some (before, after) := by
  induction before with
  | nil => exact if_pos rfl
  | cons character before ih =>
      rcases not_or.mp (mt List.mem_cons.mpr absent) with ⟨different, absent⟩
      rw [List.cons_append, splitFirst?, if_neg (Ne.symm different), ih absent]
      rfl

/-- A text is not cut if and only if the separator is not in it. -/
theorem splitFirst?_eq_none {separator : Char} {text : List Char} :
    splitFirst? separator text = none ↔ separator ∉ text := by
  induction text with
  | nil => exact iff_of_true rfl List.not_mem_nil
  | cons character text ih =>
      rw [splitFirst?, List.mem_cons, not_or, ← ih]
      by_cases same : character = separator
      · simp [same]
      · simp [same, Ne.symm same]

/-- A tail without the separator stays behind it. -/
theorem splitFirst?_append
    {separator : Char} (text : List Char) {tail : List Char}
    (absent : separator ∉ tail) :
    splitFirst? separator (text ++ tail) =
      (splitFirst? separator text).map fun (before, after) =>
        (before, after ++ tail) := by
  induction text with
  | nil => exact splitFirst?_eq_none.mpr absent
  | cons character text ih =>
      rw [List.cons_append, splitFirst?, splitFirst?]
      by_cases same : character = separator
      · rw [if_pos same, if_pos same]
        rfl
      · rw [if_neg same, if_neg same, ih, Option.map_map, Option.map_map]
        rfl

/-- All characters of a text are blank. -/
def AllBlank (text : List Char) : Prop :=
  ∀ character ∈ text, isBlank character = true

/-- A text neither starts nor ends with a blank character. -/
structure Trimmed (text : List Char) : Prop where
  start : ∀ character ∈ text.head?, isBlank character = false
  finish : ∀ character ∈ text.getLast?, isBlank character = false

instance (text : List Char) : Decidable (AllBlank text) :=
  decidable_of_iff (text.all isBlank = true) List.all_eq_true

/-- The ends of a text are visible if and only if it is trimmed. -/
theorem trimmed_iff {text : List Char} :
    text.head?.all (fun character => !isBlank character) = true ∧
        text.getLast?.all (fun character => !isBlank character) = true ↔
      Trimmed text := by
  simp only [Option.all_eq_true, Bool.not_eq_true']
  exact ⟨fun ⟨start, finish⟩ => ⟨start, finish⟩, fun trimmed =>
    ⟨trimmed.start, trimmed.finish⟩⟩

instance (text : List Char) : Decidable (Trimmed text) :=
  decidable_of_iff _ trimmed_iff

theorem dropWhile_blank_of_head
    {text : List Char}
    (start : ∀ character ∈ text.head?, isBlank character = false) :
    text.dropWhile isBlank = text := by
  cases text with
  | nil => rfl
  | cons character text =>
      exact List.dropWhile_cons_of_neg (by simp [start character rfl])

/-- Blanks at the end are trimmed off. -/
theorem trimEndChars_append
    (text : List Char) {tail : List Char} (blank : AllBlank tail) :
    trimEndChars (text ++ tail) = trimEndChars text := by
  rw [trimEndChars, List.reverse_append, List.dropWhile_append_of_pos,
    trimEndChars]
  exact fun character member => blank character (List.mem_reverse.mp member)

/-- What is trimmed away from the end of a text are blanks. -/
theorem exists_trimmed (text : List Char) :
    ∃ tail, AllBlank tail ∧ text = trimEndChars text ++ tail := by
  refine ⟨(text.reverse.takeWhile isBlank).reverse, ?_, ?_⟩
  · exact fun character member =>
      List.mem_takeWhile_imp (List.mem_reverse.mp member)
  · rw [trimEndChars, ← List.reverse_append, List.takeWhile_append_dropWhile,
      List.reverse_reverse]

theorem trimChars_append
    (text : List Char) {tail : List Char} (blank : AllBlank tail) :
    trimChars (text ++ tail) = trimChars text := by
  rw [trimChars, trimChars, List.dropWhile_append]
  split
  · rename_i nothing
    rw [List.isEmpty_iff.mp nothing, List.dropWhile_eq_nil_iff.mpr blank]
  · exact trimEndChars_append _ blank

theorem Trimmed.trimChars {text : List Char} (trimmed : Trimmed text) :
    trimChars text = text := by
  rw [Text.trimChars, dropWhile_blank_of_head trimmed.start, trimEndChars,
    dropWhile_blank_of_head, List.reverse_reverse]
  rw [List.head?_reverse]
  exact trimmed.finish

/-- Blanks around a text are trimmed away. -/
theorem trimChars_padded
    {before text after : List Char} (trimmed : Trimmed text)
    (front : AllBlank before)
    (back : AllBlank after) : trimChars (before ++ text ++ after) = text := by
  rw [trimChars_append _ back, Text.trimChars,
    List.dropWhile_append_of_pos front]
  exact trimmed.trimChars

end Text

end Phrasebook
