import Phrasebook.Json.Printer
import Phrasebook.Proofs.Grammar.Numeral

/-!
# The texts of integers

A numeral that stands for an integer is its decimal text: nothing was dropped,
there is no fraction and no exponent, and without superfluous zeros an integer
has only one text.  The induction is on the digits that are still unread, with
the number read so far in front of them.
-/

namespace Phrasebook

namespace Grammar

open Phrasebook.Text (digitValue)
open Decimal (appendDigits wordLimit)

theorem digitValue_lt {digit : Char} (isDigit : digit.isDigit = true) :
    digitValue digit < 10 := by
  have high : digit.toNat ≤ 57 := (Char.isDigit_iff_toNat.mp isDigit).2
  show digit.toNat - 48 < 10
  omega

/-- A digit is the character of its value. -/
theorem digitChar_digitValue {digit : Char} (isDigit : digit.isDigit = true) :
    Nat.digitChar (digitValue digit) = digit := by
  apply Char.toNat_inj.mp
  rw [Nat.toNat_digitChar_of_lt_ten (digitValue_lt isDigit)]
  have low : 48 ≤ digit.toNat := (Char.isDigit_iff_toNat.mp isDigit).1
  show 48 + (digit.toNat - 48) = digit.toNat
  omega

/-- Appending a digit to a positive number appends its character to the text of
the number. -/
theorem toDigits_append_digit
    {number : Nat} (positive : 0 < number) {digit : Char}
    (isDigit : digit.isDigit = true) :
    Nat.toDigits 10 (number * 10 + digitValue digit) =
      Nat.toDigits 10 number ++ [digit] := by
  have below := digitValue_lt isDigit
  calc
    Nat.toDigits 10 (number * 10 + digitValue digit)
        = Nat.toDigits 10 number ++ Nat.toDigits 10 (digitValue digit) := by
          rw [Nat.mul_comm,
            Nat.toDigits_append_toDigits (by decide) positive below]
    _ = Nat.toDigits 10 number ++ [digit] := by
          rw [Nat.toDigits_of_lt_base below, digitChar_digitValue isDigit]

/-- Where no digit is dropped, the text of the number goes on with the
digits. -/
theorem toDigits_appendDigits
    {run : List Char} (digital : ∀ character ∈ run, character.isDigit = true)
    {number total : Nat} (positive : 0 < number)
    (kept : appendDigits number (run.map digitValue) = (total, [])) :
    Nat.toDigits 10 number ++ run = Nat.toDigits 10 total := by
  induction run generalizing number with
  | nil =>
      cases kept
      exact List.append_nil _
  | cons digit run ih =>
      rcases List.forall_mem_cons.mp digital with ⟨isDigit, others⟩
      rw [List.map_cons, appendDigits] at kept
      split_ifs at kept with fits
      · have larger : 0 < number * 10 + digitValue digit := by omega
        rw [List.append_cons, ← toDigits_append_digit positive isDigit]
        exact ih others larger kept
      · cases kept

/-- The characters of a run of digits without a superfluous zero are the text of
their number. -/
theorem Digits.characters_eq_toDigits
    {run : Digits}
    (canonical : run.characters.head? = some '0' → run.characters.length = 1)
    {total : Nat} (kept : appendDigits 0 run.values = (total, [])) :
    run.characters = Nat.toDigits 10 total := by
  rcases run with ⟨characters, nonempty, digital⟩
  cases characters with
  | nil => exact (nonempty rfl).elim
  | cons first rest =>
      rcases List.forall_mem_cons.mp digital with ⟨isDigit, others⟩
      have small := digitValue_lt isDigit
      have fits : 0 * 10 + digitValue first ≤ wordLimit := by
        show 0 * 10 + digitValue first ≤ 18446744073709551615
        omega
      rw [Digits.values, List.map_cons, appendDigits, if_pos fits, Nat.zero_mul,
        Nat.zero_add] at kept
      by_cases zero : first = '0'
      · subst zero
        rcases List.length_eq_one_iff.mp (canonical rfl) with ⟨only, single⟩
        rcases List.cons.inj single with ⟨-, rfl⟩
        cases kept
        exact (Nat.toDigits_zero 10).symm
      · have positive : 0 < digitValue first :=
          Nat.pos_of_ne_zero fun equal =>
            zero ((Digits.digitValue_eq_zero isDigit).mp equal)
        have text := toDigits_appendDigits others positive kept
        rwa [Nat.toDigits_of_lt_base small, digitChar_digitValue isDigit]
          at text

theorem toList_toString_nat (value : Nat) :
    (toString (value : Int)).toList = Nat.toDigits 10 value := by
  show (Int.repr value).toList = _
  rw [Int.repr_eq_if, if_pos (Int.natCast_nonneg value), Int.toNat_natCast,
    Nat.repr_eq_ofList_toDigits, String.toList_ofList]

theorem toList_toString_neg {value : Nat} (positive : 1 ≤ value) :
    (toString (-(value : Int))).toList = '-' :: Nat.toDigits 10 value := by
  have negative : ¬ (0 : Int) ≤ -(value : Int) := by omega
  show (Int.repr (-(value : Int))).toList = _
  rw [Int.repr_eq_if, if_neg negative, Int.neg_neg, Int.toNat_natCast,
    Nat.repr_eq_ofList_toDigits]
  simp

/-- What a numeral of an integer is made of. -/
theorem ofNumeral?_integer
    {numeral : Number.Numeral} {value : Int}
    (held : Number.ofNumeral? numeral = some (.integer value)) :
    ∃ total, appendDigits 0 numeral.whole = (total, []) ∧
      numeral.fraction = none ∧ numeral.exponent = none ∧
      ((numeral.negative = false ∧ value = total) ∨
        (numeral.negative = true ∧ 1 ≤ total ∧ value = -(total : Int))) := by
  unfold Number.ofNumeral? at held
  dsimp only at held
  split at held
  · rename_i shape
    rcases shape with ⟨kept, noFraction, noExponent⟩
    refine ⟨(appendDigits 0 numeral.whole).1, Prod.ext rfl kept, noFraction,
      noExponent, ?_⟩
    cases sign : numeral.negative with
    | false =>
        rw [sign] at held
        cases held
        exact .inl ⟨rfl, rfl⟩
    | true =>
        rw [sign, if_neg nofun] at held
        split at held
        · rename_i fits
          cases held
          exact .inr ⟨rfl, fits.1, rfl⟩
        · rcases Option.map_eq_some_iff.mp held with ⟨_, -, isFloat⟩
          cases isFloat
  · rcases Option.map_eq_some_iff.mp held with ⟨_, -, isFloat⟩
    cases isFloat

/-- A form that stands for an integer is the text of the integer. -/
theorem NumberForm.text_eq_of_integer
    {form : NumberForm} {value : Int}
    (held : Number.ofNumeral? form.numeral = some (.integer value)) :
    form.text = (Number.text (.integer value)).toList := by
  rcases form with ⟨negative, whole, fraction, exponent, canonical⟩
  rcases ofNumeral?_integer held with
    ⟨total, kept, noFraction, noExponent, sign⟩
  rcases Option.map_eq_none_iff.mp noFraction with rfl
  rcases Option.map_eq_none_iff.mp noExponent with rfl
  have unsigned : whole.characters ++ [] = Nat.toDigits 10 total := by
    rw [List.append_nil, Digits.characters_eq_toDigits canonical kept]
  rcases sign with ⟨positive, rfl⟩ | ⟨minus, atLeastOne, rfl⟩
  · rcases positive with rfl
    show whole.characters ++ [] = (toString (total : Int)).toList
    rw [unsigned, toList_toString_nat]
  · rcases minus with rfl
    show '-' :: (whole.characters ++ []) = (toString (-(total : Int))).toList
    rw [unsigned, toList_toString_neg atLeastOne]

end Grammar

end Phrasebook
