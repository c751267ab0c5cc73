import Phrasebook.Document.Basic
import Phrasebook.Json.Printer

/-!
# The text of a document

The compact data text of a document, its entries in the order of writing.
-/

namespace Phrasebook
namespace Document

mutual

/-- Compact text of a document, without its tags; what is unreadable is written
as null. -/
def text : Document → String
  | .null => "null"
  | .bool true => "true"
  | .bool false => "false"
  | .number value => value.text
  | .string value => Json.quotedText value
  | .plain word => (wordValue word).text
  | .tagged _ content => text content
  | .sequence items => "[" ++ String.intercalate "," (itemTexts items) ++ "]"
  | .mapping entries =>
    "\x7b" ++ String.intercalate "," (entryTexts entries) ++ "\x7d"
  | .unreadable => "null"

/-- Compact texts of the items of a sequence. -/
def itemTexts : List Document → List String
  | [] => []
  | item :: rest => text item :: itemTexts rest

/-- Compact texts of the entries of a mapping. A key that is no text is written
as the text of its compact form. -/
def entryTexts : List (Document × Document) → List String
  | [] => []
  | entry :: rest =>
    let name := entry.1.string?.getD (text entry.1)
    (Json.quotedText name ++ ":" ++ text entry.2) :: entryTexts rest

end

end Document
end Phrasebook
