import Phrasebook.Text.UnprintableTable
import Phrasebook.Text.Letter

/-!
# Quoted texts

Diagnostics show texts in double quotes. Quotes and backslashes are escaped, the
usual controls have letter escapes, and every other character that would not
show is written as `\u` with its code point in braces.
-/

namespace Phrasebook.Text

/-- A character that a quoted text spells by its code point. -/
def isUnprintable (character : Char) : Bool :=
  if character.toNat < 0x80 then character.toNat < 0x20 ||
    character.toNat == 0x7f
  else withinBoundaries unprintableBoundaries character.toNat

/-- One character inside double quotes. -/
def quotedForm (character : Char) : List Char :=
  match character with
  | '\x00' => ['\\', '0']
  | '\t' => ['\\', 't']
  | '\r' => ['\\', 'r']
  | '\n' => ['\\', 'n']
  | '"' => ['\\', '"']
  | '\\' => ['\\', '\\']
  | _ =>
    if isUnprintable character then
      ['\\', 'u', '\x7b'] ++ Nat.toDigits 16 character.toNat ++ ['\x7d']
    else [character]

def quoted (text : String) : String :=
  String.ofList (['"'] ++ text.toList.flatMap quotedForm ++ ['"'])

end Phrasebook.Text
