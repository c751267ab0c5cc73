import Mathlib.Tactic.IntervalCases
import Phrasebook.Proofs.Decimal.Rounding
import Phrasebook.Proofs.Grammar.Integer
import Phrasebook.Resolver.BuiltIn

/-!
# Natural numbers in decimal

The decimal digits of a natural number are a name and a number of the grammar
alike.  As a name they are an index while the number fits in 64 bits; as a
number they are read as long as binary64 numbers reach, but past 64 bits what
they are read as is no index any more.  Both readings of a number therefore
agree.
-/

namespace Phrasebook

namespace Grammar

open Phrasebook.Text (digitValue ofDigits)
open Decimal (appendDigits wordLimit)
open Expression.Parser (isNameCharacter startsNumeral)

/-- The digits of a positive number do not begin with a zero. -/
theorem head?_toDigits_ne {value : Nat} (positive : 0 < value) :
    (Nat.toDigits 10 value).head? ≠ some '0' := by
  induction value using Nat.strongRecOn with
  | ind value ih =>
      rw [Nat.toDigits_eq_if (by decide)]
      split_ifs with small
      · revert positive
        interval_cases value <;> decide
      · have shorter : (Nat.toDigits 10 (value / 10)).head? ≠ some '0' :=
          ih _ (by omega) (by omega)
        rwa [List.head?_append_of_ne_nil _ Nat.toDigits_ne_nil]

/-- Decimal digits have no superfluous zero. -/
theorem length_toDigits_of_zero
    {value : Nat} (zero : (Nat.toDigits 10 value).head? = some '0') :
    (Nat.toDigits 10 value).length = 1 := by
  rcases Nat.eq_zero_or_pos value with rfl | positive
  · rw [Nat.toDigits_zero, List.length_singleton]
  · exact absurd zero (head?_toDigits_ne positive)

theorem isNameCharacter_of_isDigit
    {character : Char} (digit : character.isDigit = true) :
    isNameCharacter character = true := by
  simp [isNameCharacter, Char.isAlphanum, digit]

/-- The decimal digits of a natural number. -/
def Digits.ofNat (value : Nat) : Digits where
  characters := Nat.toDigits 10 value
  nonempty := Nat.toDigits_ne_nil
  digital _ member := Nat.isDigit_of_mem_toDigits (by decide) (by decide) member

theorem Digits.ofDigits_ofNat
    (value : Nat) : ofDigits 10 (Digits.ofNat value).values = value := by
  have read : Nat.ofDigitChars 10 (Nat.toDigits 10 value) 0 = value :=
    Nat.ofDigitChars_ten_toDigits
  rw [Nat.ofDigitChars] at read
  rw [ofDigits, Digits.values, List.foldl_map]
  simp only [Nat.mul_comm 10] at read
  exact read

/-- The number with the decimal digits of a natural number. -/
def NumberForm.ofNat (value : Nat) : NumberForm where
  negative := false
  whole := .ofNat value
  fraction := none
  exponent := none
  noSuperfluousZero := length_toDigits_of_zero

/-- The name with the decimal digits of a natural number. -/
def Name.ofNat (value : Nat) : Name where
  characters := Nat.toDigits 10 value
  nonempty := Nat.toDigits_ne_nil
  named _ member :=
    isNameCharacter_of_isDigit ((Digits.ofNat value).digital _ member)

theorem NumberForm.text_ofNat
    (value : Nat) : (NumberForm.ofNat value).text = Nat.toDigits 10 value :=
  List.append_nil _

theorem Name.text_ofNat
    (value : Nat) : (Name.ofNat value).text = toString value := by
  rw [Nat.toString_eq_repr, Nat.repr_eq_ofList_toDigits]
  rfl

section Names

open Resolver.BuiltIn (indexOfName?)

theorem plus_not_digit : Char.isDigit '+' = false := by
  decide

/-- A name of digits is an index while it fits in 64 bits. -/
theorem indexOfName?_ofNat (value : Nat) :
    indexOfName? (Name.ofNat value).text = if value < 2 ^ 64 then some value
      else none := by
  have digits := Digits.ofDigits_ofNat value
  have all : (Nat.toDigits 10 value).all Char.isDigit = true :=
    List.all_eq_true.mpr (Digits.ofNat value).digital
  have unsigned : ∀ rest, Nat.toDigits 10 value ≠ '+' :: rest := by
    intro rest signed
    have digit :=
      (Digits.ofNat value).digital '+' (by simp [Digits.ofNat, signed])
    simp [plus_not_digit] at digit
  rw [indexOfName?, Name.text, String.toList_ofList]
  split
  · rename_i rest signed
    exact absurd signed (unsigned rest)
  · change (if Nat.toDigits 10 value ≠ [] ∧
      (Nat.toDigits 10 value).all Char.isDigit = true then _ else none) = _
    rw [if_pos ⟨Nat.toDigits_ne_nil, all⟩]
    change (if ofDigits 10 (Digits.ofNat value).values <
      2 ^ 64 then some (ofDigits 10 (Digits.ofNat value).values) else none) = _
    rw [digits]

end Names

section Numbers

/-- The number that digits write behind a number. -/
def extended (start : Nat) (run : List Nat) : Nat :=
  run.foldl (fun number digit => number * 10 + digit) start

/-- A run of digits that goes on only makes a number larger. -/
theorem le_extended (run : List Nat) (start : Nat) :
    start * 10 ^ run.length ≤ extended start run := by
  induction run generalizing start with
  | nil => simp [extended]
  | cons digit run ih =>
      calc
        start * 10 ^ (digit :: run).length = start * 10 * 10 ^ run.length := by
          rw [List.length_cons, pow_succ', Nat.mul_assoc]
        _ ≤ (start * 10 + digit) * 10 ^ run.length :=
          Nat.mul_le_mul_right _ (Nat.le_add_right _ _)
        _ ≤ extended start (digit :: run) := ih (start * 10 + digit)

/-- Of the digits the most significant ones are kept. -/
theorem appendDigits_le (run : List Nat) (start : Nat) :
    (appendDigits start run).1 * 10 ^ (appendDigits start run).2.length ≤
      extended start run := by
  induction run generalizing start with
  | nil => simp [appendDigits, extended]
  | cons digit run ih =>
      rw [appendDigits]
      split_ifs
      · exact ih (start * 10 + digit)
      · exact le_extended (digit :: run) start

/-- A digit is dropped only from a number past 64 bits. -/
theorem appendDigits_of_le
    {run : List Nat} {start : Nat} (within : extended start run ≤ wordLimit) :
    appendDigits start run = (extended start run, []) := by
  induction run generalizing start with
  | nil => rfl
  | cons digit run ih =>
      have fits : start * 10 + digit ≤ wordLimit :=
        calc
          start * 10 + digit ≤ (start * 10 + digit) * 10 ^ run.length :=
            Nat.le_mul_of_pos_right _ (Nat.pow_pos (by decide))
          _ ≤ extended (start * 10 + digit) run := le_extended run _
          _ ≤ wordLimit := within
      rw [appendDigits, if_pos fits]
      exact ih within

/-- From a number past 64 bits a digit is dropped. -/
theorem le_of_appendDigits
    {run : List Nat} {start : Nat} (small : start ≤ wordLimit)
    (kept : (appendDigits start run).2 = []) :
    extended start run ≤ wordLimit := by
  induction run generalizing start with
  | nil => exact small
  | cons digit run ih =>
      rw [appendDigits] at kept
      split_ifs at kept with fits
      exact ih fits kept

theorem ofNumeral?_kept
    {digits : List Nat} {value : Nat}
    (kept : appendDigits 0 digits = (value, [])) :
    Number.ofNumeral? ⟨false, digits, none, none⟩ = some (.integer value) := by
  simp [Number.ofNumeral?, kept]

/-- Where digits are dropped, the number is a binary64 number. -/
theorem ofNumeral?_dropped
    {digits : List Nat} (dropped : (appendDigits 0 digits).2 ≠ []) :
    Number.ofNumeral? ⟨false, digits, none, none⟩ =
      (Decimal.scale? (appendDigits 0 digits).1
        (appendDigits 0 digits).2.length).map .float := by
  simp [Number.ofNumeral?, dropped, appendDigits]

/-- All numbers of 64 bits are read. -/
theorem two_pow_lt : 2 ^ 64 < 10 ^ 308 := by
  have fewer : 10 ^ 20 ≤ 10 ^ 308 :=
    Nat.pow_le_pow_right (by decide) (by decide)
  exact lt_of_lt_of_le (by decide) fewer

/-- A number below `10^308` is read from its digits.  What is read is an index
while it fits in 64 bits. -/
theorem exists_ofNumeral?_ofNat {value : Nat} (below : value < 10 ^ 308) :
    ∃ number, Number.ofNumeral? (NumberForm.ofNat value).numeral = some number ∧
      number.index? = if value < 2 ^ 64 then some value else none := by
  change ∃ number,
    Number.ofNumeral? ⟨false, (Digits.ofNat value).values, none, none⟩ =
      some number ∧ _
  have total : extended 0 (Digits.ofNat value).values = value :=
    Digits.ofDigits_ofNat value
  generalize (Digits.ofNat value).values = digits at total ⊢
  subst total
  have limit : extended 0 digits ≤ wordLimit ↔ extended 0 digits < 2 ^ 64 := by
    change extended 0 digits ≤ 18446744073709551615 ↔
      extended 0 digits < 18446744073709551616
    omega
  by_cases fits : extended 0 digits < 2 ^ 64
  · have read := ofNumeral?_kept (appendDigits_of_le (limit.mpr fits))
    refine ⟨_, read, ?_⟩
    rw [if_pos fits, Number.index?, if_pos (Int.natCast_nonneg _),
      Int.toNat_natCast]
  · have dropped : (appendDigits 0 digits).2 ≠ [] := by
      intro kept
      exact fits (limit.mp (le_of_appendDigits (Nat.zero_le _) kept))
    rcases Decimal.exists_scale?
      (lt_of_le_of_lt (appendDigits_le digits 0) below) with ⟨number, scaled⟩
    have read := ofNumeral?_dropped dropped
    rw [scaled] at read
    refine ⟨_, read, ?_⟩
    rw [if_neg fits, Number.index?]

end Numbers

end Grammar

end Phrasebook
