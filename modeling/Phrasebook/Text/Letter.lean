import Phrasebook.Text.LetterTables

/-!
# Letter properties

Properties of characters after Unicode 17: alphanumeric, upper case, lower case,
cased and case-ignorable. The ASCII part of each is written out and the rest is
looked up in `LetterTables`.
-/

namespace Phrasebook.Text

/-- Membership in a boundary list: an odd number of boundaries is at or below
the code point. -/
def withinBoundaries (boundaries : List Nat) (code : Nat) : Bool :=
  (boundaries.takeWhile (· ≤ code)).length % 2 == 1

/-- Membership in a list of runs `(first, last, step)`. -/
def withinRuns (runs : List (Nat × Nat × Nat)) (code : Nat) : Bool :=
  runs.any fun (first, last, step) => first ≤ code && code ≤ last &&
    (code - first) % step == 0

/-- Alphabetic characters and numbers. -/
def isAlphanumeric (character : Char) : Bool :=
  if character.toNat < 0x80 then character.isAlphanum
  else withinBoundaries alphanumericBoundaries character.toNat

def isUppercase (character : Char) : Bool :=
  if character.toNat < 0x80 then character.isUpper
    else withinRuns uppercaseRuns character.toNat

def isLowercase (character : Char) : Bool :=
  if character.toNat < 0x80 then character.isLower
    else withinRuns lowercaseRuns character.toNat

/-- The property Cased: letters that have a case, also title case. -/
def isCased (character : Char) : Bool :=
  if character.toNat < 0x80 then character.isAlpha
  else withinBoundaries casedBoundaries character.toNat

/-- The property Case_Ignorable: characters that are passed over when the
letters around a sigma are looked for. -/
def isCaseIgnorable (character : Char) : Bool :=
  if character.toNat < 0x80
    then ['\'', '.', ':', '^', '\x60'].contains character
  else withinBoundaries caseIgnorableBoundaries character.toNat

end Phrasebook.Text
