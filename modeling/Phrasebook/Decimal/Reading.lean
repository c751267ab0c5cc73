import Phrasebook.Decimal.Binary64

/-!
# Reading decimals

Of the digits of a number the longest prefix that fits in 64 bits is kept, each
digit dropped before the point counting as a factor of ten; the prefix is
rounded to a binary64 number and scaled by a power of ten, which is rounded too.
Scaling beyond the largest number is an error, below the least one it gives
zero.
-/

namespace Phrasebook
namespace Decimal

/-- The largest 64-bit natural number. -/
def wordLimit : Nat := Nat.pow 2 64 - 1

/-- Appends digits to a number while the result stays within 64 bits; also the
digits left over. -/
def appendDigits (significand : Nat) : List Nat → Nat × List Nat
  | [] => (significand, [])
  | digit :: rest =>
    if significand * 10 + digit ≤ wordLimit
      then appendDigits (significand * 10 + digit) rest
    else (significand, digit :: rest)

/-- The binary64 number nearest to `10^power`, for powers up to 308. -/
def powerOfTen (power : Nat) : Binary64 :=
  (Binary64.ofRatio? (Nat.pow 10 power) 1).getD Binary64.zero

/-- Divides by `10^308` a number of times, stopping at zero. -/
def scaleDown (times : Nat) (number : Binary64) : Binary64 :=
  match times with
  | 0 => number
  | times + 1 =>
    if number.isZero then number
    else scaleDown times ((number.div? (powerOfTen 308)).getD Binary64.zero)

/-- `significand * 10^exponent` as a nonnegative binary64 number; none when it
overflows. -/
def scale? (significand : Nat) (exponent : Int) : Option Binary64 := do
  let number ← Binary64.ofRatio? significand 1
  if number.isZero then some number
  else if 0 ≤ exponent then
    if exponent ≤ 308 then number.mul? (powerOfTen exponent.toNat) else none
  else
    let steps := (exponent.natAbs - 1) / 308
    let number := scaleDown steps number
    number.div? (powerOfTen (exponent.natAbs - 308 * steps))

end Decimal
end Phrasebook
