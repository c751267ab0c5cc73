import Phrasebook.Dictionary
import Phrasebook.Json.Number

/-!
# Data values

Data values are null, booleans, numbers, texts, arrays and objects. The entries
of an object are a dictionary, sorted by key with each key once.
-/

namespace Phrasebook

/-- A data value. -/
inductive Json where
  | null
  | bool (value : Bool)
  | number (value : Number)
  | string (value : String)
  | array (items : List Json)
  | object (entries : List (String × Json))
  deriving Repr, Inhabited

namespace Json

mutual

/-- Equality of values, the two zeros of binary64 being equal. -/
def same : Json → Json → Bool
  | .null, .null => true
  | .bool left, .bool right => left == right
  | .number left, .number right => left.same right
  | .string left, .string right => left == right
  | .array left, .array right => sameItems left right
  | .object left, .object right => sameEntries left right
  | _, _ => false

/-- Equality of item lists, place by place. -/
def sameItems : List Json → List Json → Bool
  | [], [] => true
  | left :: lefts, right :: rights => same left right && sameItems lefts rights
  | _, _ => false

/-- Equality of entry lists, place by place. -/
def sameEntries : List (String × Json) → List (String × Json) → Bool
  | [], [] => true
  | left :: lefts, right :: rights =>
    left.1 == right.1 && same left.2 right.2 && sameEntries lefts rights
  | _, _ => false

end

/-- A natural number as a value. -/
def ofNat (number : Nat) : Json :=
  .number (.integer number)

/-- An object from a list of pairs, the last pair of a key winning. -/
def ofPairs (pairs : List (String × Json)) : Json :=
  .object (Dictionary.ofList pairs)

/-- The value of a key of an object; none for a missing key and for a value that
is no object. -/
def get? (key : String) : Json → Option Json
  | .object entries => Dictionary.get? key entries
  | _ => none

/-- The word for the kind of a value. -/
def kind : Json → String
  | .null => "null"
  | .bool _ => "bool"
  | .number _ => "number"
  | .string _ => "string"
  | .array _ => "array"
  | .object _ => "object"

end Json
end Phrasebook
