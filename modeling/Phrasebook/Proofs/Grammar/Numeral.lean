import Phrasebook.Json.Reader
import Phrasebook.Proofs.Grammar.Token

/-!
# The grammar of numbers

The numbers of data texts: an optional minus, digits without a superfluous
leading zero, an optional fraction after a point, and an optional exponent after
`e` or `E` with an optional sign.  The reader of numerals accepts exactly the
texts of this grammar, and each text has one form.
-/

namespace Phrasebook

namespace Grammar

open Phrasebook.Text (digitValue ofDigits)
open Json.Reader (digits fraction? exponent? numeral?)
open Expression.Parser (isNumeralCharacter startsNumeral numeralValue?)

/-- A nonempty text of digits. -/
@[ext]
structure Digits where
  characters : List Char
  nonempty : characters ≠ []
  digital : ∀ character ∈ characters, character.isDigit = true

def Digits.values (run : Digits) : List Nat :=
  run.characters.map digitValue

/-- The sign of an exponent, which may be left out. -/
inductive Sign where
  | none
  | plus
  | minus
  deriving DecidableEq

def Sign.text : Sign → List Char
  | .none => []
  | .plus => ['+']
  | .minus => ['-']

/-- The mark of an exponent. -/
inductive Mark where
  | small
  | large

def Mark.character : Mark → Char
  | .small => 'e'
  | .large => 'E'

/-- An exponent with its mark. -/
structure Exponent where
  mark : Mark
  sign : Sign
  digits : Digits

/-- The number that digits write, negated after a minus. -/
def signed (negative : Bool) (values : List Nat) : Int :=
  if negative then -(ofDigits 10 values : Int) else ofDigits 10 values

namespace Exponent

def text (exponent : Exponent) : List Char :=
  exponent.mark.character :: (exponent.sign.text ++ exponent.digits.characters)

/-- The number that an exponent writes. -/
def value (exponent : Exponent) : Int :=
  signed (decide (exponent.sign = .minus)) exponent.digits.values

end Exponent

/-- The form of a number. -/
structure NumberForm where
  negative : Bool
  whole : Digits
  fraction : Option Digits
  exponent : Option Exponent
  noSuperfluousZero : whole.characters.head? = some '0' →
    whole.characters.length = 1

namespace NumberForm

/-- How a fraction is written, when there is one. -/
def fractionText : Option Digits → List Char
  | none => []
  | some digits => '.' :: digits.characters

/-- How an exponent is written, when there is one. -/
def exponentText : Option Exponent → List Char
  | none => []
  | some exponent => exponent.text

def signText : Bool → List Char
  | false => []
  | true => ['-']

/-- How a number of this form is written. -/
def text (form : NumberForm) : List Char :=
  signText form.negative ++
    (form.whole.characters ++
      (fractionText form.fraction ++ exponentText form.exponent))

def numeral (form : NumberForm) : Number.Numeral where
  negative := form.negative
  whole := form.whole.values
  fraction := form.fraction.map Digits.values
  exponent := form.exponent.map Exponent.value

end NumberForm

/-- Reading digits that are there takes a longest run of them. -/
theorem digits_iff {text rest : List Char} {values : List Nat} :
    digits text = (values, rest) ∧ values ≠ [] ↔
      ∃ run : Digits,
        values = run.values ∧ text = run.characters ++ rest ∧
          Stops Char.isDigit rest := by
  constructor
  · rintro ⟨read, nonempty⟩
    cases read
    refine ⟨⟨text.takeWhile Char.isDigit, ?_, fun _ member =>
      List.mem_takeWhile_imp member⟩, rfl,
      (List.takeWhile_append_dropWhile).symm, stops_dropWhile _ _⟩
    rintro empty
    exact nonempty (by rw [empty]; rfl)
  · rintro ⟨run, rfl, rfl, stops⟩
    rw [digits, takeWhile_run run.digital stops,
      dropWhile_run run.digital stops]
    refine ⟨rfl, ?_⟩
    intro empty
    exact run.nonempty (List.map_eq_nil_iff.mp empty)

namespace Digits

theorem exists_cons (run : Digits) :
    ∃ first rest, run.characters = first :: rest ∧ first.isDigit = true := by
  rcases List.exists_cons_of_ne_nil run.nonempty with ⟨first, rest, split⟩
  refine ⟨first, rest, split, run.digital first ?_⟩
  rw [split]
  exact List.mem_cons_self

/-- A run of digits does not begin with what is no digit. -/
theorem head_ne
    (run : Digits) {character : Char} (noDigit : character.isDigit = false)
    (rest rest' : List Char) :
    run.characters ++ rest ≠ character :: rest' := by
  rcases run.exists_cons with ⟨first, others, split, digit⟩
  intro same
  rw [split] at same
  rcases (List.cons.inj same).1 with rfl
  rw [digit] at noDigit
  cases noDigit

theorem digitValue_eq_zero {digit : Char} (isDigit : digit.isDigit = true) :
    digitValue digit = 0 ↔ digit = '0' := by
  constructor
  · intro zero
    have low := (Char.isDigit_iff_toNat.mp isDigit).1
    have difference : digit.toNat - '0'.toNat = 0 := zero
    exact Char.toNat_inj.mp
      (Nat.le_antisymm (Nat.sub_eq_zero_iff_le.mp difference) low)
  · rintro rfl
    rfl

theorem head?_values (run : Digits) :
    run.values.head? = some 0 ↔ run.characters.head? = some '0' := by
  rcases run.exists_cons with ⟨first, rest, split, digit⟩
  rw [values, split, List.map_cons, List.head?_cons, List.head?_cons,
    Option.some_inj, Option.some_inj, digitValue_eq_zero digit]

end Digits

/-- What stands behind a number's digits ends the run: an exponent does. -/
theorem stops_exponentText (exponent : Option Exponent) :
    Stops Char.isDigit (NumberForm.exponentText exponent) := by
  cases exponent with
  | none => exact stops_nil _
  | some exponent =>
      rcases exponent with ⟨_ | _, sign, run⟩ <;> exact stops_cons rfl

theorem exponentText_ne_point (exponent : Option Exponent) (rest : List Char) :
    NumberForm.exponentText exponent ≠ '.' :: rest := by
  intro same
  rcases exponent with _ | ⟨_ | _, sign, run⟩ <;> cases same

/-- What stands behind a number's digits ends the run: a fraction does. -/
theorem stops_fractionText
    (fraction : Option Digits) (exponent : Option Exponent) :
    Stops Char.isDigit
      (NumberForm.fractionText fraction ++
        NumberForm.exponentText exponent) := by
  cases fraction with
  | none => exact stops_exponentText exponent
  | some run => exact stops_cons rfl

/-- A fraction is read as the digits behind a point, in front of an exponent. -/
theorem fraction?_iff
    {text : List Char} {values : Option (List Nat)}
    {exponent : Option Exponent} :
    fraction? text = some (values, NumberForm.exponentText exponent) ↔
      ∃ fraction : Option Digits,
        values = fraction.map Digits.values ∧
          text = NumberForm.fractionText fraction ++
            NumberForm.exponentText exponent := by
  constructor
  · intro read
    unfold fraction? at read
    split at read
    · rename_i rest
      dsimp only at read
      split_ifs at read with empty
      rcases Prod.mk.inj (Option.some.inj read) with ⟨rfl, following⟩
      have taken : digits rest =
          ((digits rest).1, NumberForm.exponentText exponent) := by
        rw [← following]
      rcases digits_iff.mp ⟨taken, empty⟩ with ⟨run, equal, rfl, -⟩
      rw [equal]
      exact ⟨some run, rfl, rfl⟩
    · cases read
      exact ⟨none, rfl, rfl⟩
  · rintro ⟨fraction, rfl, rfl⟩
    cases fraction with
    | none =>
        change fraction? (NumberForm.exponentText exponent) = _
        unfold fraction?
        split
        · rename_i rest same
          exact (exponentText_ne_point exponent rest same).elim
        · rfl
    | some run =>
        rcases digits_iff.mpr ⟨run, rfl, rfl, stops_exponentText exponent⟩ with
          ⟨read, nonempty⟩
        change fraction?
          ('.' :: (run.characters ++ NumberForm.exponentText exponent)) = _
        rw [fraction?, read]
        exact if_neg nonempty

/-- The sign at the start of a text taken off, and whether it is a minus. -/
def unsigned : List Char → Bool × List Char
  | '-' :: rest => (true, rest)
  | '+' :: rest => (false, rest)
  | rest => (false, rest)

/-- What begins with an exponent mark is read as an exponent, and must have
digits. -/
theorem exponent?_cons (mark : Char) (rest : List Char) :
    exponent? (mark :: rest) =
      if mark == 'e' || mark == 'E' then
        if (digits (unsigned rest).2).1 = [] then none
        else
          some
            (some (signed (unsigned rest).1 (digits (unsigned rest).2).1),
              (digits (unsigned rest).2).2)
      else some (none, mark :: rest) :=
  rfl

theorem unsigned_digits (run : Digits) (rest : List Char) :
    unsigned (run.characters ++ rest) = (false, run.characters ++ rest) := by
  unfold unsigned
  split
  · rename_i same
    exact (run.head_ne rfl _ _ same).elim
  · rename_i same
    exact (run.head_ne rfl _ _ same).elim
  · rfl

theorem unsigned_sign (sign : Sign) (run : Digits) :
    unsigned (sign.text ++ run.characters) =
      (decide (sign = .minus), run.characters) := by
  cases sign with
  | none =>
      have plain := unsigned_digits run []
      rwa [List.append_nil] at plain
  | plus => rfl
  | minus => rfl

/-- A sign in front of the digits is read as it is written. -/
theorem exists_sign
    {text : List Char} {run : Digits}
    (rest_eq : (unsigned text).2 = run.characters) :
    ∃ sign : Sign,
      text = sign.text ++ run.characters ∧ (unsigned text).1 =
        decide (sign = .minus) := by
  unfold unsigned at rest_eq ⊢
  split at rest_eq
  · exact ⟨.minus, congrArg ('-' :: ·) rest_eq, rfl⟩
  · exact ⟨.plus, congrArg ('+' :: ·) rest_eq, rfl⟩
  · exact ⟨.none, rest_eq, rfl⟩

/-- An exponent is read from the texts that exponents have. -/
theorem exponent?_iff {text : List Char} {value : Option Int} :
    exponent? text = some (value, []) ↔
      ∃ exponent : Option Exponent,
        value = exponent.map Exponent.value ∧
          text = NumberForm.exponentText exponent := by
  constructor
  · intro read
    cases text with
    | nil =>
        cases read
        exact ⟨none, rfl, rfl⟩
    | cons mark rest =>
        rw [exponent?_cons] at read
        split_ifs at read with marks empty
        · rcases Prod.mk.inj (Option.some.inj read) with ⟨rfl, following⟩
          have taken :
              digits (unsigned rest).2 =
                  ((digits (unsigned rest).2).1, []) := by
            rw [← following]
          rcases digits_iff.mp ⟨taken, empty⟩ with ⟨run, equal, split, -⟩
          rw [List.append_nil] at split
          rcases exists_sign split with ⟨sign, rfl, minus⟩
          rw [equal, minus]
          rcases Bool.or_eq_true_iff.mp marks with small | large
          · rcases beq_iff_eq.mp small with rfl
            exact ⟨some ⟨.small, sign, run⟩, rfl, rfl⟩
          · rcases beq_iff_eq.mp large with rfl
            exact ⟨some ⟨.large, sign, run⟩, rfl, rfl⟩
        · cases read
  · rintro ⟨exponent, rfl, rfl⟩
    cases exponent with
    | none => rfl
    | some exponent =>
        rcases exponent with ⟨mark, sign, run⟩
        rcases digits_iff.mpr ⟨run, rfl, (List.append_nil _).symm,
          stops_nil _⟩ with ⟨read, nonempty⟩
        have marks : (mark.character == 'e' || mark.character == 'E') =
            true := by
          cases mark <;> rfl
        change exponent? (mark.character :: (sign.text ++ run.characters)) = _
        rw [exponent?_cons, unsigned_sign, if_pos marks, read, if_neg nonempty]
        rfl

/-- The minus at the start of a number taken off, and whether it is there. -/
def unnegated : List Char → Bool × List Char
  | '-' :: rest => (true, rest)
  | rest => (false, rest)

theorem unnegated_signText (negative : Bool) (run : Digits) (rest : List Char) :
    unnegated (NumberForm.signText negative ++ (run.characters ++ rest)) =
      (negative, run.characters ++ rest) := by
  cases negative with
  | true => rfl
  | false =>
      change unnegated (run.characters ++ rest) = _
      unfold unnegated
      split
      · rename_i same
        exact (run.head_ne rfl _ _ same).elim
      · rfl

theorem signText_unnegated (text : List Char) :
    text = NumberForm.signText (unnegated text).1 ++ (unnegated text).2 := by
  unfold unnegated
  split
  · rfl
  · rfl

/-- How a number is read: no digit is missing, and no zero leads. -/
theorem numeral?_eq (text : List Char) :
    numeral? text =
      if (digits (unnegated text).2).1 = [] ∨
          ((digits (unnegated text).2).1.head? = some 0 ∧
            (digits (unnegated text).2).1.length ≠ 1) then
        none
      else
        (fraction? (digits (unnegated text).2).2).bind fun fraction =>
          (exponent? fraction.2).bind fun exponent =>
            some
              (⟨(unnegated text).1, (digits (unnegated text).2).1, fraction.1,
                exponent.1⟩,
                exponent.2) :=
  rfl

/-- Reading numerals accepts exactly the texts of the grammar. -/
theorem numeral?_iff {text : List Char} {numeral : Number.Numeral} :
    numeral? text = some (numeral, []) ↔
      ∃ form : NumberForm, form.text = text ∧ form.numeral = numeral := by
  rw [numeral?_eq]
  constructor
  · intro read
    split_ifs at read with bad
    rcases not_or.mp bad with ⟨nonempty, noZero⟩
    rcases Option.bind_eq_some_iff.mp read with
      ⟨⟨fraction, rest⟩, readFraction, read⟩
    rcases Option.bind_eq_some_iff.mp read with
      ⟨⟨exponent, rest'⟩, readExponent, read⟩
    cases read
    rcases exponent?_iff.mp readExponent with ⟨exponent, rfl, rfl⟩
    rcases fraction?_iff.mp readFraction with ⟨fraction, rfl, following⟩
    have taken :
        digits (unnegated text).2 =
          ((digits (unnegated text).2).1, (digits (unnegated text).2).2) :=
      rfl
    rcases digits_iff.mp ⟨taken, nonempty⟩ with ⟨whole, values, split, -⟩
    rw [following] at split
    have small : whole.characters.head? = some '0' →
        whole.characters.length = 1 := by
      intro zero
      rw [values, Digits.head?_values, Digits.values, List.length_map] at noZero
      exact not_not.mp fun different => noZero ⟨zero, different⟩
    refine ⟨⟨(unnegated text).1, whole, fraction, exponent, small⟩, ?_, ?_⟩
    · rw [NumberForm.text, ← split]
      exact (signText_unnegated text).symm
    · rw [NumberForm.numeral, values]
  · rintro ⟨⟨negative, whole, fraction, exponent, small⟩, rfl, rfl⟩
    rcases digits_iff.mpr ⟨whole, rfl, rfl,
      stops_fractionText fraction exponent⟩
      with ⟨read, nonempty⟩
    have fine :
        ¬ (whole.values = [] ∨ whole.values.head? = some 0 ∧
            whole.values.length ≠ 1) := by
      rintro (empty | ⟨zero, different⟩)
      · exact nonempty empty
      · rw [Digits.values, List.length_map] at different
        exact different (small (whole.head?_values.mp zero))
    rw [NumberForm.text, unnegated_signText, read, if_neg fine,
      fraction?_iff.mpr ⟨fraction, rfl, rfl⟩,
      Option.bind_some, exponent?_iff.mpr ⟨exponent, rfl, rfl⟩]
    rfl

/-- A text begins with a run of digits in one way only. -/
theorem digits_unique
    {run run' : Digits} {rest rest' : List Char}
    (stops : Stops Char.isDigit rest) (stops' : Stops Char.isDigit rest')
    (same : run.characters ++ rest = run'.characters ++ rest') :
    run = run' ∧ rest = rest' := by
  rcases run_unique run.digital stops run'.digital stops' same with
    ⟨characters, rest_eq⟩
  exact ⟨Digits.ext characters, rest_eq⟩

theorem sign_unique
    {sign sign' : Sign} {run run' : Digits}
    (same : sign.text ++ run.characters = sign'.text ++ run'.characters) :
    sign = sign' ∧ run = run' := by
  have bare :
      ∀ (run : Digits) {character : Char} {rest : List Char},
        character.isDigit = false → run.characters ≠ character :: rest := by
    intro run character rest noDigit equal
    exact run.head_ne noDigit [] rest (by rwa [List.append_nil])
  cases sign with
  | none =>
      cases sign' with
      | none => exact ⟨rfl, Digits.ext same⟩
      | plus => exact (bare run rfl same).elim
      | minus => exact (bare run rfl same).elim
  | plus =>
      cases sign' with
      | none => exact (bare run' rfl same.symm).elim
      | plus => exact ⟨rfl, Digits.ext (List.cons.inj same).2⟩
      | minus => cases (List.cons.inj same).1
  | minus =>
      cases sign' with
      | none => exact (bare run' rfl same.symm).elim
      | plus => cases (List.cons.inj same).1
      | minus => exact ⟨rfl, Digits.ext (List.cons.inj same).2⟩

/-- Exponents with the same text are the same. -/
theorem exponentText_injective {exponent exponent' : Option Exponent}
    (same : NumberForm.exponentText exponent =
      NumberForm.exponentText exponent') :
    exponent = exponent' := by
  rcases exponent with _ | ⟨mark, sign, run⟩
  · rcases exponent' with _ | ⟨mark', sign', run'⟩
    · rfl
    · cases same
  · rcases exponent' with _ | ⟨mark', sign', run'⟩
    · cases same
    · rcases List.cons.inj same with ⟨marks, rest⟩
      obtain rfl : mark = mark' := by
        cases mark <;> cases mark' <;> first | rfl | cases marks
      rcases sign_unique rest with ⟨rfl, rfl⟩
      rfl

/-- Fractions and exponents with the same text are the same. -/
theorem fractionText_unique
    {fraction fraction' : Option Digits} {exponent exponent' : Option Exponent}
    (same :
      NumberForm.fractionText fraction ++ NumberForm.exponentText exponent =
        NumberForm.fractionText fraction' ++
          NumberForm.exponentText exponent') :
    fraction = fraction' ∧ exponent = exponent' := by
  cases fraction with
  | none =>
      cases fraction' with
      | none => exact ⟨rfl, exponentText_injective same⟩
      | some run' => exact (exponentText_ne_point exponent _ same).elim
  | some run =>
      cases fraction' with
      | none => exact (exponentText_ne_point exponent' _ same.symm).elim
      | some run' =>
          rcases digits_unique (stops_exponentText exponent)
            (stops_exponentText exponent')
            (List.cons.inj same).2 with ⟨rfl, rest⟩
          exact ⟨rfl, exponentText_injective rest⟩

/-- A number is written in one form. -/
theorem form_unique {form form' : NumberForm} (same : form.text = form'.text) :
    form = form' := by
  rcases form with ⟨negative, whole, fraction, exponent, small⟩
  rcases form' with ⟨negative', whole', fraction', exponent', small'⟩
  have split := congrArg unnegated same
  rw [NumberForm.text, NumberForm.text, unnegated_signText, unnegated_signText]
    at split
  rcases Prod.mk.inj split with ⟨rfl, body⟩
  rcases digits_unique (stops_fractionText fraction exponent)
    (stops_fractionText fraction' exponent') body with ⟨rfl, rest⟩
  rcases fractionText_unique rest with ⟨rfl, rfl⟩
  rfl

namespace Digits

/-- Digits go on in a number. -/
theorem numeric (run : Digits) :
    ∀ character ∈ run.characters, isNumeralCharacter character = true := by
  intro character member
  rw [isNumeralCharacter, run.digital character member]
  rfl

end Digits

theorem numeric_signText (negative : Bool) :
    ∀ character ∈ NumberForm.signText negative, isNumeralCharacter character =
      true := by
  cases negative <;> exact List.all_eq_true.mp rfl

theorem numeric_fractionText (fraction : Option Digits) :
    ∀ character ∈ NumberForm.fractionText fraction,
      isNumeralCharacter character = true := by
  cases fraction with
  | none => exact List.forall_mem_nil _
  | some run => exact List.forall_mem_cons.mpr ⟨rfl, run.numeric⟩

theorem numeric_exponentText (exponent : Option Exponent) :
    ∀ character ∈ NumberForm.exponentText exponent,
      isNumeralCharacter character = true := by
  cases exponent with
  | none => exact List.forall_mem_nil _
  | some exponent =>
      rcases exponent with ⟨mark, sign, run⟩
      have marked : isNumeralCharacter mark.character = true := by
        cases mark <;> rfl
      have signs : ∀ character ∈ sign.text, isNumeralCharacter character =
          true := by
        cases sign <;> exact List.all_eq_true.mp rfl
      exact List.forall_mem_cons.mpr ⟨marked,
        List.forall_mem_append.mpr ⟨signs, run.numeric⟩⟩

namespace NumberForm

/-- A number stands inside one run of the characters of numbers. -/
theorem numeric (form : NumberForm) :
    ∀ character ∈ form.text, isNumeralCharacter character = true := by
  refine List.forall_mem_append.mpr ⟨numeric_signText _, ?_⟩
  refine List.forall_mem_append.mpr ⟨form.whole.numeric, ?_⟩
  exact List.forall_mem_append.mpr ⟨numeric_fractionText _,
    numeric_exponentText _⟩

/-- A number is not empty, and begins with what may start a number. -/
theorem exists_cons (form : NumberForm) :
    ∃ first rest, form.text = first :: rest ∧ startsNumeral first = true := by
  rcases form with ⟨negative, whole, fraction, exponent, small⟩
  cases negative with
  | true => exact ⟨'-', _, rfl, rfl⟩
  | false =>
      rcases whole.exists_cons with ⟨first, rest, split, digit⟩
      refine ⟨first, rest ++ (fractionText fraction ++ exponentText exponent),
        ?_, ?_⟩
      · change whole.characters ++ _ = _
        rw [split]
        rfl
      · rw [startsNumeral, digit]
        rfl

end NumberForm

/-- The values of number literals: those of the texts of the grammar whose
number data can hold. -/
theorem numeralValue?_iff {text : List Char} {value : Json} :
    numeralValue? text = some value ↔
      ∃ (form : NumberForm) (number : Number),
        form.text = text ∧ Number.ofNumeral? form.numeral = some number ∧
          value = .number number := by
  rw [numeralValue?]
  constructor
  · intro read
    split at read
    · rename_i numeral readNumeral
      rcases numeral?_iff.mp readNumeral with ⟨form, rfl, rfl⟩
      rcases Option.map_eq_some_iff.mp read with ⟨number, held, rfl⟩
      exact ⟨form, number, rfl, held, rfl⟩
    · cases read
  · rintro ⟨form, number, rfl, held, rfl⟩
    rw [numeral?_iff.mpr ⟨form, rfl, rfl⟩]
    exact Option.map_eq_some_iff.mpr ⟨number, held, rfl⟩

end Grammar

end Phrasebook
