import Phrasebook.Json.Basic

/-!
# Documents

A document is kept as it was written: like a data value, but with the entries of
a mapping in the order of writing and with repeated keys, with tags, and with
plain words, whose kind depends on what they are read as. What is written well
but has no value is kept as unreadable, so that it does no harm where it is
passed over. Typed readers take their fields from a document; `Document.value?`
reads it as a data value.
-/

namespace Phrasebook

/-- A written document. `plain` is a word without quotes in a notation that does
without them, empty where nothing is written; `tagged` is a document behind a
tag; `unreadable` stands for a number out of range and for a text that is no
sequence of characters. -/
inductive Document where
  | null
  | bool (value : Bool)
  | number (value : Number)
  | string (value : String)
  | plain (word : String)
  | tagged (tag : String) (content : Document)
  | sequence (items : List Document)
  | mapping (entries : List (Document × Document))
  | unreadable
  deriving Repr, Inhabited

namespace Document

/-- The mapping with texts as keys. -/
def ofNamed (entries : List (String × Document)) : Document :=
  .mapping (entries.map fun (name, document) => (.string name, document))

/-- The plain words for null; nothing at all is one of them. -/
def nullWords : List String := ["", "~", "null", "Null", "NULL"]

/-- The full form of the standard tag with a name. -/
def standardTag (name : String) : String := "tag:yaml.org,2002:" ++ name

/-- The truth value of a plain word. -/
def wordBool? (word : String) : Option Bool :=
  if ["true", "True", "TRUE"].contains word then some true
  else if ["false", "False", "FALSE"].contains word then some false
  else none

/-- The data value of a plain word: null, a truth value or a text. -/
def wordValue (word : String) : Json :=
  match wordBool? word with
  | some value => .bool value
  | none => if nullWords.contains word then .null else .string word

/-- The text that a document consists of; a plain word of any kind is one. -/
def string? : Document → Option String
  | .string value => some value
  | .plain word => some word
  | .tagged _ content => content.string?
  | _ => none

/-- The entries of a mapping under the texts of their keys; none when a key is
no text. -/
def named? : List (Document × Document) → Option (List (String × Document))
  | [] => some []
  | (key, document) :: rest => do
    let name ← key.string?
    let named ← named? rest
    some ((name, document) :: named)

mutual

/-- The data value of a document, the last of repeated keys winning; none when a
part of it is unreadable or a key is no text. -/
def value? : Document → Option Json
  | .null => some .null
  | .bool value => some (.bool value)
  | .number value => some (.number value)
  | .string value => some (.string value)
  | .plain word => some (wordValue word)
  | .tagged _ content => value? content
  | .sequence items => (itemValues? items).map .array
  | .mapping entries => (entryValues? entries).map Json.ofPairs
  | .unreadable => none

def itemValues? : List Document → Option (List Json)
  | [] => some []
  | item :: rest => do
    let value ← value? item
    let values ← itemValues? rest
    some (value :: values)

/-- The data values of a list of entries under the texts of their keys. -/
def entryValues? : List (Document × Document) → Option (List (String × Json))
  | [] => some []
  | entry :: rest => do
    let name ← entry.1.string?
    let value ← value? entry.2
    let values ← entryValues? rest
    some ((name, value) :: values)

end

mutual

/-- The document that writes a data value. -/
def ofValue : Json → Document
  | .null => .null
  | .bool value => .bool value
  | .number value => .number value
  | .string value => .string value
  | .array items => .sequence (ofItems items)
  | .object entries => .mapping (ofEntries entries)

/-- The documents that write the items of an array. -/
def ofItems : List Json → List Document
  | [] => []
  | item :: rest => ofValue item :: ofItems rest

/-- The entries that write the entries of an object. -/
def ofEntries : List (String × Json) → List (Document × Document)
  | [] => []
  | entry :: rest => (.string entry.1, ofValue entry.2) :: ofEntries rest

end

end Document
end Phrasebook
