import Mathlib.Algebra.Order.Field.Power
import Mathlib.Algebra.Order.Field.Rat
import Mathlib.Data.Nat.Cast.Order.Field
import Mathlib.Tactic.FieldSimp
import Mathlib.Tactic.Linarith
import Mathlib.Tactic.NormNum
import Mathlib.Tactic.Positivity
import Mathlib.Tactic.Ring
import Mathlib.Tactic.SplitIfs
import Phrasebook.Decimal.Reading

/-!
# Rounding within range

A ratio is rounded in units of its last place, between `2^52` and `2^53` of
which make up the ratio unless it is very small.  So what a rounded ratio gains
is small against the ratio, and nothing below the last unit of the range
overflows.  Two roundings and a rounded product stay in range where a decimal is
below `10^308`: such a decimal is read as a number.
-/

namespace Phrasebook

namespace Binary64

/-- The value of a number without its sign. -/
def magnitude (number : Binary64) : ℚ :=
  number.significand * 2 ^ number.exponent

/-- The largest number. -/
def largest : ℚ :=
  (2 ^ 53 - 1) * 2 ^ (971 : Int)

theorem magnitude_nonneg (number : Binary64) : 0 ≤ number.magnitude := by
  rw [magnitude]
  positivity

variable {numerator denominator : Nat}

section Scaling

theorem scaledRatio_pos (positive : 0 < denominator) (exponent : Int) :
    0 < (scaledRatio numerator denominator exponent).2 := by
  rw [scaledRatio]
  split_ifs
  · exact Nat.mul_pos positive (Nat.pow_pos Nat.two_pos)
  · exact positive

/-- Scaling divides the value of a ratio by a power of two. -/
theorem scaledRatio_value (numerator denominator : Nat) (exponent : Int) :
    ((scaledRatio numerator denominator exponent).1 : ℚ) /
      (scaledRatio numerator denominator exponent).2 =
      numerator / denominator / 2 ^ exponent := by
  rw [scaledRatio]
  split_ifs with nonnegative
  · obtain ⟨power, rfl⟩ := Int.eq_ofNat_of_zero_le nonnegative
    simp [div_div]
  · obtain ⟨power, rfl⟩ : ∃ power : Nat, exponent = -(power : Int) :=
      ⟨exponent.natAbs, by omega⟩
    simp [div_eq_mul_inv]
    ring

/-- Rounding adds half a unit at most. -/
theorem roundHalfEven_le (positive : 0 < denominator) :
    (roundHalfEven numerator denominator : ℚ) ≤
      numerator / denominator + 1 / 2 := by
  have split : (numerator : ℚ) = denominator * (numerator / denominator : Nat) +
      (numerator % denominator : Nat) := by
    exact_mod_cast (Nat.div_add_mod numerator denominator).symm
  have unit : (0 : ℚ) < denominator := by exact_mod_cast positive
  have floor : ((numerator / denominator : Nat) : ℚ) ≤
      numerator / denominator := Nat.cast_div_le
  rw [roundHalfEven]
  split_ifs with below tie
  · linarith
  · linarith
  · -- The remainder is at least half the denominator.
    have half : (denominator : ℚ) ≤ 2 * (numerator % denominator : Nat) := by
      exact_mod_cast not_lt.mp below
    rw [div_add_div _ _ unit.ne' two_ne_zero, le_div_iff₀ (by linarith)]
    push_cast at *
    nlinarith

end Scaling

section Unit

/-- The exponent of the unit in which a ratio is rounded, unless the ratio is
very small. -/
def ownExponent (numerator denominator : Nat) : Int :=
  let guess : Int :=
    (Nat.log2 numerator : Int) - (Nat.log2 denominator : Int) - 52
  if (scaledRatio numerator denominator guess).1 <
      Nat.pow 2 52 * (scaledRatio numerator denominator guess).2 then guess - 1
        else guess

/-- What a ratio is rounded to in units of an exponent. -/
def roundedUnits (numerator denominator : Nat) (exponent : Int) : Nat :=
  roundHalfEven (scaledRatio numerator denominator exponent).1
    (scaledRatio numerator denominator exponent).2

theorem ofRatio?_eq (nonzero : numerator ≠ 0) :
    ofRatio? numerator denominator =
      let exponent := max (-1074) (ownExponent numerator denominator)
      if roundedUnits numerator denominator exponent = 2 ^ 53 then
        if 971 < exponent + 1 then none else some ⟨false, 2 ^ 52, exponent + 1⟩
      else if 971 < exponent then none
      else some ⟨false, roundedUnits numerator denominator exponent,
          exponent⟩ := by
  rw [ofRatio?, if_neg nonzero]
  generalize unit : max (-1074) (ownExponent numerator denominator) = exponent
  let carried : Nat × Int :=
    if roundedUnits numerator denominator exponent = 2 ^ 53
      then (2 ^ 52, exponent + 1)
    else (roundedUnits numerator denominator exponent, exponent)
  have whole :
      (if 971 < carried.2 then none else some (mk false carried.1 carried.2)) =
      if roundedUnits numerator denominator exponent = 2 ^ 53 then
        if 971 < exponent + 1 then none else some ⟨false, 2 ^ 52, exponent + 1⟩
      else if 971 < exponent then none
      else some ⟨false, roundedUnits numerator denominator exponent,
          exponent⟩ := by
    by_cases full : roundedUnits numerator denominator exponent = 2 ^ 53
    · simp only [carried, if_pos full]
    · simp only [carried, if_neg full]
  subst unit
  exact whole

/-- The binary logarithms of both parts enclose a ratio. -/
theorem log2_bounds (positive : 0 < numerator) (positive' : 0 < denominator) :
    (2 : ℚ) ^ ((numerator.log2 : Int) - denominator.log2 - 1) ≤
      numerator / denominator ∧
      (numerator : ℚ) / denominator <
        2 ^ ((numerator.log2 : Int) - denominator.log2 + 1) := by
  have low : (2 : ℚ) ^ numerator.log2 ≤ numerator := by
    exact_mod_cast Nat.log2_self_le positive.ne'
  have low' : (2 : ℚ) ^ denominator.log2 ≤ denominator := by
    exact_mod_cast Nat.log2_self_le positive'.ne'
  have high : (numerator : ℚ) < 2 ^ (numerator.log2 + 1) := by
    exact_mod_cast Nat.lt_log2_self
  have high' : (denominator : ℚ) < 2 ^ (denominator.log2 + 1) := by
    exact_mod_cast Nat.lt_log2_self
  have unit : (0 : ℚ) < denominator := by exact_mod_cast positive'
  rw [le_div_iff₀ unit, div_lt_iff₀ unit]
  constructor
  · calc
      (2 : ℚ) ^ ((numerator.log2 : Int) - denominator.log2 - 1) * denominator
          ≤ 2 ^ ((numerator.log2 : Int) - denominator.log2 - 1) *
              2 ^ (denominator.log2 + 1) := by
            gcongr
      _ = 2 ^ numerator.log2 := by
            rw [← zpow_natCast, ← zpow_natCast, ← zpow_add₀ two_ne_zero]
            congr 1
            push_cast
            ring
      _ ≤ numerator := low
  · calc
      (numerator : ℚ) < 2 ^ (numerator.log2 + 1) := high
      _ = 2 ^ ((numerator.log2 : Int) - denominator.log2 + 1) *
          2 ^ denominator.log2 := by
            rw [← zpow_natCast, ← zpow_natCast, ← zpow_add₀ two_ne_zero]
            congr 1
            push_cast
            ring
      _ ≤ 2 ^ ((numerator.log2 : Int) - denominator.log2 + 1) *
          denominator := by
            gcongr

/-- A ratio is made up of between `2^52` and `2^53` of its units. -/
theorem units_bounds (positive : 0 < numerator) (positive' : 0 < denominator) :
    (2 : ℚ) ^ (ownExponent numerator denominator + 52) ≤
      numerator / denominator ∧
      (numerator : ℚ) / denominator <
        2 ^ (ownExponent numerator denominator + 53) := by
  rcases log2_bounds positive positive' with ⟨low, high⟩
  rw [ownExponent]
  generalize guessed : (numerator.log2 : Int) - denominator.log2 - 52 = guess
  have value := scaledRatio_value numerator denominator guess
  have unit : (0 : ℚ) < (scaledRatio numerator denominator guess).2 := by
    exact_mod_cast scaledRatio_pos positive' guess
  have power : (0 : ℚ) < 2 ^ guess := by positivity
  -- The guess is one too high exactly when the ratio has less than `2^52` units
  -- of it.
  have few : (scaledRatio numerator denominator guess).1 <
      Nat.pow 2 52 * (scaledRatio numerator denominator guess).2 ↔
      (numerator : ℚ) / denominator < 2 ^ (guess + 52) := by
    rw [zpow_add₀ two_ne_zero, mul_comm ((2 : ℚ) ^ guess), ← div_lt_iff₀ power,
      ← value, div_lt_iff₀ unit]
    norm_cast
  split_ifs with guessedHigh
  · rw [few] at guessedHigh
    constructor
    · exact le_of_eq_of_le (by congr 1; omega) low
    · exact lt_of_lt_of_eq guessedHigh (by congr 1; omega)
  · rw [few, not_lt] at guessedHigh
    exact ⟨guessedHigh, lt_of_lt_of_eq high (by congr 1; omega)⟩

theorem roundedUnits_le
    (numerator : Nat) (positive : 0 < denominator) (exponent : Int) :
    (roundedUnits numerator denominator exponent : ℚ) ≤
      numerator / denominator / 2 ^ exponent + 1 / 2 := by
  rw [← scaledRatio_value]
  exact roundHalfEven_le (scaledRatio_pos positive exponent)

end Unit

section Range

/-- A ratio within the range is rounded to a number. -/
theorem exists_ofRatio?
    (positive' : 0 < denominator)
    (within : (numerator : ℚ) / denominator ≤ largest) :
    ∃ number, ofRatio? numerator denominator = some number := by
  rcases Nat.eq_zero_or_pos numerator with rfl | positive
  · exact ⟨zero, rfl⟩
  have own : ownExponent numerator denominator ≤ 971 := by
    by_contra beyond
    have bounds := (units_bounds positive positive').1
    have low : (2 : ℚ) ^ (1024 : Int) ≤
        2 ^ (ownExponent numerator denominator + 52) := by
      gcongr
      · norm_num
      · omega
    have few : largest < 2 ^ (1024 : Int) := by
      rw [show (1024 : Int) = 53 + 971 from rfl, zpow_add₀ two_ne_zero, largest]
      gcongr
      linarith
    linarith
  rw [ofRatio?_eq positive.ne']
  generalize unit : max (-1074) (ownExponent numerator denominator) = exponent
  have rounded := roundedUnits_le numerator positive' exponent
  dsimp only
  split_ifs with full beyond beyond
  · -- A full carry at the last exponent would need more than the range has.
    exfalso
    have last : exponent = 971 := by omega
    rw [full, last] at rounded
    have top : (numerator : ℚ) / denominator / 2 ^ (971 : Int) ≤
        2 ^ 53 - 1 := by
      rw [largest] at within
      rwa [div_le_iff₀ (by positivity)]
    generalize (numerator : ℚ) / denominator / 2 ^ (971 : Int) = units
      at rounded top
    push_cast at rounded
    linarith
  · exact ⟨_, rfl⟩
  · omega
  · exact ⟨_, rfl⟩

/-- Rounding a ratio that is no fraction gains a quarter of it at most. -/
theorem magnitude_le
    (positive' : 0 < denominator)
    (atLeastOne : (1 : ℚ) ≤ numerator / denominator) {number : Binary64}
    (rounded : ofRatio? numerator denominator = some number) :
    number.magnitude ≤ numerator / denominator * (5 / 4) := by
  have positive : 0 < numerator := by
    rcases Nat.eq_zero_or_pos numerator with rfl | positive
    · norm_num at atLeastOne
    · exact positive
  rcases units_bounds positive positive' with ⟨low, high⟩
  -- The unit is not the least one.
  have unit : max (-1074) (ownExponent numerator denominator) =
      ownExponent numerator denominator := by
    apply max_eq_right
    by_contra small
    have tiny : (2 : ℚ) ^ (ownExponent numerator denominator + 53) ≤
        2 ^ (0 : Int) := by
      gcongr
      · norm_num
      · omega
    rw [zpow_zero] at tiny
    linarith
  rw [ofRatio?_eq positive.ne', unit] at rounded
  generalize ownExponent numerator denominator = exponent at *
  have power : (0 : ℚ) < 2 ^ exponent := by positivity
  have units := roundedUnits_le numerator positive' exponent
  have gained : (roundedUnits numerator denominator exponent : ℚ) *
      2 ^ exponent ≤
      numerator / denominator * (5 / 4) := by
    calc
      (roundedUnits numerator denominator exponent : ℚ) * 2 ^ exponent
          ≤ (numerator / denominator / 2 ^ exponent + 1 / 2) *
              2 ^ exponent := by gcongr
      _ = numerator / denominator + 2 ^ exponent / 2 := by field_simp
      _ ≤ numerator / denominator * (5 / 4) := by
          rw [zpow_add₀ two_ne_zero] at low
          norm_num at low
          linarith
  dsimp only at rounded
  split_ifs at rounded with full
  · cases rounded
    rw [full] at gained
    rw [magnitude, zpow_add₀ two_ne_zero]
    push_cast at *
    linarith
  · cases rounded
    exact gained

theorem ratio_pos (number : Binary64) : 0 < number.ratio.2 := by
  rw [ratio]
  split_ifs
  · exact Nat.one_pos
  · exact Nat.pow_pos Nat.two_pos

theorem ratio_value (number : Binary64) :
    (number.ratio.1 : ℚ) / number.ratio.2 = number.magnitude := by
  rw [ratio, magnitude]
  split_ifs with nonnegative
  · obtain ⟨power, same⟩ := Int.eq_ofNat_of_zero_le nonnegative
    simp [same]
  · obtain ⟨power, same⟩ : ∃ power : Nat, number.exponent = -(power : Int) :=
      ⟨number.exponent.natAbs, by omega⟩
    simp [same, div_eq_mul_inv]

/-- A product within the range is rounded to a number. -/
theorem exists_mul?
    (left right : Binary64)
    (within : left.magnitude * right.magnitude ≤ largest) :
    ∃ number, left.mul? right = some number := by
  apply exists_ofRatio? (Nat.mul_pos left.ratio_pos right.ratio_pos)
  push_cast
  rwa [mul_div_mul_comm, ratio_value, ratio_value]

end Range

end Binary64

namespace Decimal

open Binary64

/-- Decimals below `10^308` stay within the range with a margin for two
roundings. -/
theorem margin {value : ℚ} (below : value < 10 ^ 308) :
    value * (25 / 16) ≤ largest := by
  have power : (0 : ℚ) < 2 ^ (971 : Int) := by positivity
  -- `10^28` is little more than `2^93`.
  have near : (10 : ℚ) ^ 28 ≤ 101 / 100 * 2 ^ 93 := by norm_num
  calc
    value * (25 / 16) ≤ 10 ^ (28 * 11) * (25 / 16) := by gcongr
    _ = (10 ^ 28) ^ 11 * (25 / 16) := by rw [pow_mul]
    _ ≤ (101 / 100 * 2 ^ 93) ^ 11 * (25 / 16) := by gcongr
    _ = (101 / 100) ^ 11 * (25 / 16) * 2 ^ 52 * 2 ^ (971 : Int) := by
        have powers : ((2 : ℚ) ^ 93) ^ 11 = 2 ^ 52 * 2 ^ (971 : Int) := by
          rw [← pow_mul, ← zpow_natCast, ← zpow_natCast, ← zpow_add₀
            two_ne_zero]
          rfl
        rw [mul_pow, powers]
        generalize (2 : ℚ) ^ (971 : Int) = unit
        ring
    _ ≤ largest := by
        rw [largest]
        gcongr
        norm_num

theorem dropped_lt
    {significand dropped limit : Nat} (positive : 0 < significand)
    (below : significand * 10 ^ dropped < 10 ^ limit) : dropped < limit := by
  apply (Nat.pow_lt_pow_iff_right (a := 10) (by decide)).mp
  exact lt_of_le_of_lt (Nat.le_mul_of_pos_left _ positive) below

/-- A natural number that is not too large is rounded with a gain of a quarter
at most. -/
theorem exists_ofNat
    {value : Nat} (positive : 0 < value) (below : value < 10 ^ 308) :
    ∃ number, ofRatio? value 1 = some number ∧
      number.magnitude ≤ value * (5 / 4) := by
  have whole : (value : ℚ) / (1 : Nat) = value := by simp
  have real : (value : ℚ) < 10 ^ 308 := by exact_mod_cast below
  have nonnegative : (0 : ℚ) ≤ value := by positivity
  have within : (value : ℚ) / (1 : Nat) ≤ largest := by
    have := margin real
    rw [whole]
    linarith
  rcases exists_ofRatio? Nat.one_pos within with ⟨number, rounded⟩
  have atLeastOne : (1 : ℚ) ≤ value / (1 : Nat) := by
    rw [whole]
    exact_mod_cast positive
  have gained := magnitude_le Nat.one_pos atLeastOne rounded
  rw [whole] at gained
  exact ⟨number, rounded, gained⟩

/-- A decimal below `10^308` is read as a number. -/
theorem exists_scale?
    {significand dropped : Nat}
    (below : significand * 10 ^ dropped < 10 ^ 308) :
    ∃ number, scale? significand dropped = some number := by
  rcases Nat.eq_zero_or_pos significand with rfl | positive
  · exact ⟨zero, rfl⟩
  have few := dropped_lt positive below
  have power : 0 < 10 ^ dropped := Nat.pow_pos (by decide)
  rcases exists_ofNat positive
      (lt_of_le_of_lt (Nat.le_mul_of_pos_right _ power) below) with
    ⟨first, rounded, gained⟩
  rcases exists_ofNat power
      (lt_of_le_of_lt (Nat.le_mul_of_pos_left _ positive) below) with
    ⟨second, rounded', gained'⟩
  have product : first.magnitude * second.magnitude ≤ largest := by
    have real : (significand : ℚ) * 10 ^ dropped < 10 ^ 308 := by
      exact_mod_cast below
    push_cast at gained'
    calc
      first.magnitude * second.magnitude
          ≤ significand * (5 / 4) * (10 ^ dropped * (5 / 4)) := by
            gcongr
            exact second.magnitude_nonneg
      _ = significand * 10 ^ dropped * (25 / 16) := by ring
      _ ≤ largest := margin real
  rcases exists_mul? first second product with ⟨number, multiplied⟩
  have fits : (dropped : Int) ≤ 308 := by omega
  have powerOfTen_eq : powerOfTen dropped = second := by
    rw [powerOfTen]
    exact congrArg (Option.getD · zero) rounded'
  rw [scale?, rounded]
  simp only [Option.bind_eq_bind, Option.bind_some]
  split_ifs
  · exact ⟨first, rfl⟩
  · exact ⟨number, by rw [Int.toNat_natCast, powerOfTen_eq, multiplied]⟩
  · omega

end Decimal

end Phrasebook
