import Phrasebook.Decimal.Shortest
import Phrasebook.Decimal.Reading

/-!
# Numbers

Integers that fit in 64 bits, signed or unsigned, stay integers; every other
number is a binary64 number. An integer is never equal to a binary64 number, and
minus zero is the binary64 number.
-/

namespace Phrasebook

/-- An integer of 64 bits, signed or unsigned, or a binary64 number. -/
inductive Number where
  | integer (value : Int)
  | float (value : Binary64)
  deriving DecidableEq, Repr

namespace Number

/-- Equality of numbers: integers with integers, binary64 numbers with binary64
numbers. -/
def same : Number → Number → Bool
  | .integer left, .integer right => left == right
  | .float left, .float right => left.sameValue right
  | _, _ => false

/-- Zero of either form. -/
def isZero : Number → Bool
  | .integer value => value == 0
  | .float value => value.isZero

def text : Number → String
  | .integer value => toString value
  | .float value => value.text

/-- The number as an index: a nonnegative integer. -/
def index? : Number → Option Nat
  | .integer value => if 0 ≤ value then some value.toNat else none
  | .float _ => none

/-- The digits of a decimal: sign, integer digits, and the fraction and exponent
when written. -/
structure Numeral where
  negative : Bool
  whole : List Nat
  fraction : Option (List Nat)
  exponent : Option Int
  deriving DecidableEq, Repr

/-- The number that a numeral stands for; none when it is out of range. -/
def ofNumeral? (numeral : Numeral) : Option Number :=
  let (significand, dropped) := Decimal.appendDigits 0 numeral.whole
  if dropped = [] ∧ numeral.fraction = none ∧ numeral.exponent = none then
    if !numeral.negative then some (.integer significand)
    else if 1 ≤ significand ∧ significand ≤ Nat.pow 2 63
      then some (.integer (-(significand : Int)))
    else (Binary64.ofRatio? significand 1).map fun value => .float value.negate
  else
    let fraction := numeral.fraction.getD []
    let (significand, unread) := Decimal.appendDigits significand fraction
    let point : Int :=
      (dropped.length : Int) - ((fraction.length : Int) - unread.length)
    (Decimal.scale? significand (point + numeral.exponent.getD 0)).map
        fun value =>
      .float (if numeral.negative then value.negate else value)

end Number
end Phrasebook
