import Phrasebook.Json.Basic
import Phrasebook.Text.Quoted

/-!
# Texts of data values

A data value has two texts: `Json.text`, compact data text without blanks, and
`Json.debugText`, a diagnostic text that names the kind of every value.
-/

namespace Phrasebook
namespace Json

/-- One character inside a quoted text: quotes, backslashes and controls below
U+0020 are escaped.
-/
def escapedForm (character : Char) : List Char :=
  match character with
  | '"' => ['\\', '"']
  | '\\' => ['\\', '\\']
  | '\x08' => ['\\', 'b']
  | '\x0c' => ['\\', 'f']
  | '\n' => ['\\', 'n']
  | '\r' => ['\\', 'r']
  | '\t' => ['\\', 't']
  | _ =>
    if character.toNat < 0x20 then
      ['\\', 'u', '0', '0', Nat.digitChar (character.toNat / 16),
        Nat.digitChar (character.toNat % 16)]
    else [character]

def quotedText (text : String) : String :=
  String.ofList (['"'] ++ text.toList.flatMap escapedForm ++ ['"'])

mutual

/-- Compact text of a value. -/
def text : Json → String
  | .null => "null"
  | .bool true => "true"
  | .bool false => "false"
  | .number value => value.text
  | .string value => quotedText value
  | .array items => "[" ++ String.intercalate "," (itemTexts items) ++ "]"
  | .object entries =>
    "\x7b" ++ String.intercalate "," (entryTexts entries) ++ "\x7d"

/-- Compact texts of the items of an array. -/
def itemTexts : List Json → List String
  | [] => []
  | item :: rest => text item :: itemTexts rest

/-- Compact texts of the entries of an object. -/
def entryTexts : List (String × Json) → List String
  | [] => []
  | entry :: rest =>
    (quotedText entry.1 ++ ":" ++ text entry.2) :: entryTexts rest

end

mutual

/-- Diagnostic text of a value. -/
def debugText : Json → String
  | .null => "Null"
  | .bool true => "Bool(true)"
  | .bool false => "Bool(false)"
  | .number value => "Number(" ++ value.text ++ ")"
  | .string value => "String(" ++ Text.quoted value ++ ")"
  | .array items =>
    "Array [" ++ String.intercalate ", " (itemDebugTexts items) ++ "]"
  | .object entries =>
    "Object \x7b" ++ String.intercalate ", " (entryDebugTexts entries) ++ "\x7d"

/-- Diagnostic texts of the items of an array. -/
def itemDebugTexts : List Json → List String
  | [] => []
  | item :: rest => debugText item :: itemDebugTexts rest

/-- Diagnostic texts of the entries of an object. -/
def entryDebugTexts : List (String × Json) → List String
  | [] => []
  | entry :: rest =>
    (Text.quoted entry.1 ++ ": " ++ debugText entry.2) :: entryDebugTexts rest

end

/-- The text that stands for a value in rendered output: texts verbatim, nothing
for null, compact text for all else. -/
def plainText : Json → String
  | .string value => value
  | .null => ""
  | value => value.text

end Json
end Phrasebook
