import Phrasebook.Document.Basic

/-!
# Records in documents

A record is written as a mapping, where unknown keys are passed over and a known
key may stand only once, or as a sequence of its field values in order, which
may stop early. A place where nothing is written counts as an empty mapping and
as an empty sequence.
-/

namespace Phrasebook

/-- The fields of a record in order, as far as they are written, and whether
they were given by position. -/
structure Record where
  positional : Bool
  fields : List (Option Document)

namespace Document

/-- Reads a document that may be null. Behind a tag only the null tag makes a
word null, and then the word has to be there. -/
def nullOr? {α : Type} (read : Document → Option α) :
    Document → Option (Option α)
  | .null => some none
  | .plain word => if nullWords.contains word then some none
      else (read (.plain word)).map some
  | .tagged tag (.plain word) =>
    if tag = standardTag "null" then
      if word ≠ "" ∧ nullWords.contains word then some none else none
    else (read (.plain word)).map some
  | document => (read document).map some

end Document

namespace Record

/-- The record with the given field names that a list of entries writes. -/
def ofEntries? (names : List String) (entries : List (Document × Document)) :
    Option Record := do
  let named ← Document.named? entries
  if names.all fun name =>
    (named.filter fun entry => entry.1 == name).length ≤ 1 then
    some ⟨false, names.map fun name => named.lookup name⟩
  else none

/-- The record with the given field names that a document writes as a
mapping. -/
def ofMapping? (names : List String) : Document → Option Record
  | .mapping entries => ofEntries? names entries
  | .plain "" => ofEntries? names []
  | .tagged _ content => ofMapping? names content
  | _ => none

/-- The record with the given field names that a document writes as a mapping or
as a sequence. -/
def ofDocument? (names : List String) : Document → Option Record
  | .sequence items =>
    if items.length ≤ names.length then
      some ⟨true,
        items.map some ++ List.replicate (names.length - items.length) none⟩
    else none
  | document => ofMapping? names document

/-- Whether a mapping has no key but the given ones; a sequence has none. -/
def namesOnly (names : List String) : Document → Bool
  | .mapping entries => entries.all fun entry =>
    entry.1.string?.any names.contains
  | .tagged _ content => namesOnly names content
  | _ => true

/-- The field at a place, if it is written. -/
def field (record : Record) (place : Nat) : Option Document :=
  (record.fields[place]?).join

/-- A field that must be written. -/
def required?
    {α : Type} (record : Record) (place : Nat) (read : Document → Option α) :
    Option α :=
  (record.field place).bind read

def default? {α : Type} (record : Record) (place : Nat) (absent : α)
    (read : Document → Option α) :
    Option α :=
  match record.field place with
  | none => some absent
  | some document => read document

/-- A field that may be null, and may be left out of a mapping but not of a
sequence. -/
def optional?
    {α : Type} (record : Record) (place : Nat) (read : Document → Option α) :
    Option (Option α) :=
  match record.field place with
  | none => if record.positional then none else some none
  | some document => document.nullOr? read

end Record

namespace Document

/-- The truth value that a document consists of. -/
def bool? : Document → Option Bool
  | .bool value => some value
  | .plain word => wordBool? word
  | .tagged _ content => content.bool?
  | _ => none

/-- The natural number of 64 bits that a document consists of. -/
def index? : Document → Option Nat
  | .number value => value.index?
  | _ => none

def items? : Document → Option (List Document)
  | .sequence items => some items
  | .plain "" => some []
  | .tagged _ content => content.items?
  | _ => none

/-- The entries of a mapping under the texts of their keys. -/
def entries? : Document → Option (List (String × Document))
  | .mapping entries => named? entries
  | .plain "" => some []
  | .tagged _ content => content.entries?
  | _ => none

def readAll? {α : Type} (read : Document → Option α) :
    List Document → Option (List α)
  | [] => some []
  | document :: rest => do
    let value ← read document
    let values ← readAll? read rest
    some (value :: values)

end Document
end Phrasebook
