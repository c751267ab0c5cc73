/-!
# Digits

Decimal digits, and hexadecimal digits of either case, have values; a list of
values is a number in its base, the most significant digit first.
-/

namespace Phrasebook.Text

def digitValue (digit : Char) : Nat :=
  digit.toNat - '0'.toNat

/-- The value of a hexadecimal digit. -/
def hexDigit? (character : Char) : Option Nat :=
  if character.isDigit then some (digitValue character)
  else if 'a' ≤ character ∧
    character ≤ 'f' then some (character.toNat - 'a'.toNat + 10)
  else if 'A' ≤ character ∧
    character ≤ 'F' then some (character.toNat - 'A'.toNat + 10)
  else none

/-- The number that digits write in a base. -/
def ofDigits (base : Nat) (digits : List Nat) : Nat :=
  digits.foldl (fun number digit => number * base + digit) 0

end Phrasebook.Text
