/-!
# Binary64 numbers

Finite binary64 numbers are exact data here, with the three roundings that
reading decimals needs: of a ratio of natural numbers, of a product and of a
quotient. All of them go to the nearest number, ties to the even significand,
and report an overflow instead of an infinity.
-/

namespace Phrasebook

/-- The number `(-1)^negative * significand * 2^exponent`.

Normal numbers have `2^52 ≤ significand < 2^53`; numbers with a smaller
significand, zero among them, have the least exponent `-1074`. -/
structure Binary64 where
  negative : Bool
  significand : Nat
  exponent : Int
  deriving DecidableEq, Repr, Inhabited

namespace Binary64

def zero : Binary64 := ⟨false, 0, -1074⟩

/-- Both zeros, of either sign. -/
def isZero (number : Binary64) : Bool :=
  number.significand == 0

/-- The number with the opposite sign. -/
def negate (number : Binary64) : Binary64 :=
  { number with negative := !number.negative }

/-- Equality of values: the two zeros are equal, all other numbers have one
representation. -/
def sameValue (left right : Binary64) : Bool :=
  (left.isZero && right.isZero) || left == right

/-- The integer nearest to `numerator / denominator`, a tie going to the even
one. -/
def roundHalfEven (numerator denominator : Nat) : Nat :=
  let quotient := numerator / denominator
  let twice := 2 * (numerator % denominator)
  if twice < denominator then quotient
  else if twice = denominator ∧ quotient % 2 = 0 then quotient
  else quotient + 1

/-- `numerator / (denominator * 2^exponent)` as a ratio of natural numbers. -/
def scaledRatio (numerator denominator : Nat) (exponent : Int) : Nat × Nat :=
  if 0 ≤ exponent then (numerator, denominator * Nat.pow 2 exponent.toNat)
  else (numerator * Nat.pow 2 (-exponent).toNat, denominator)

/-- The nonnegative number nearest to `numerator / denominator`; none when that
overflows. -/
def ofRatio? (numerator denominator : Nat) : Option Binary64 :=
  if numerator = 0 then some zero
  else
    let guess : Int :=
      (Nat.log2 numerator : Int) - (Nat.log2 denominator : Int) - 52
    let (scaled, unit) := scaledRatio numerator denominator guess
    let exponent :=
      max (-1074) (if scaled < Nat.pow 2 52 * unit then guess - 1 else guess)
    let (scaled, unit) := scaledRatio numerator denominator exponent
    let rounded := roundHalfEven scaled unit
    let (significand, exponent) :=
      if rounded = Nat.pow 2 53 then (Nat.pow 2 52, exponent + 1)
        else (rounded, exponent)
    if 971 < exponent then none else some ⟨false, significand, exponent⟩

/-- The absolute value as a ratio of natural numbers. -/
def ratio (number : Binary64) : Nat × Nat :=
  if 0 ≤ number.exponent
    then (number.significand * Nat.pow 2 number.exponent.toNat, 1)
  else (number.significand, Nat.pow 2 (-number.exponent).toNat)

/-- The rounded product of two nonnegative numbers; none when it overflows. -/
def mul? (left right : Binary64) : Option Binary64 :=
  ofRatio? (left.ratio.1 * right.ratio.1) (left.ratio.2 * right.ratio.2)

/-- The rounded quotient of two nonnegative numbers; none when it overflows. -/
def div? (left right : Binary64) : Option Binary64 :=
  ofRatio? (left.ratio.1 * right.ratio.2) (left.ratio.2 * right.ratio.1)

end Binary64
end Phrasebook
