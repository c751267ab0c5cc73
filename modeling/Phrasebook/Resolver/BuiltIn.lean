import Phrasebook.Resolver.Basic
import Phrasebook.Text.Case
import Phrasebook.Text.Digit

/-!
# Built-in resolvers

Three of the built-in resolvers serve objects, arrays and texts; the fourth one
compares values and supplies fallbacks for bases of every kind and is asked
after them. None of them answers at top level.
-/

namespace Phrasebook.Resolver.BuiltIn

/-- Whether a list of characters stands somewhere inside another one. -/
def occursIn (needle : List Char) : List Char → Bool
  | [] => needle.isEmpty
  | character :: rest => needle.isPrefixOf (character :: rest) ||
      occursIn needle rest

/-- The number that a name writes in decimal digits, with or without a plus
sign, if it fits in 64 bits. -/
def indexOfName? (name : String) : Option Nat :=
  let digits := match name.toList with
    | '+' :: rest => rest
    | characters => characters
  if digits ≠ [] ∧ digits.all Char.isDigit then
    let number := Text.ofDigits 10 (digits.map Text.digitValue)
    if number < Nat.pow 2 64 then some number else none
  else none

/-- Keys of an object, and properties and methods of the whole object. -/
def ofEntries (entries : Dictionary Json) (request : Request) : Option Json :=
  let name := request.part.name
  let property := if request.part.isMethod then none else entries.get? name
  match property with
  | some value => some value
  | none =>
    match name, request.arguments with
    | "size", [] => some (.ofNat entries.length)
    | "isEmpty", [] => some (.bool entries.isEmpty)
    | "keys", [] => some (.array (entries.keys.map .string))
    | "get", [.string key] => some ((entries.get? key).getD .null)
    | "get", [_] => some .null
    | "containsKey", [.string key] => some (.bool (entries.contains key))
    | "containsKey", [_] => some (.bool false)
    | _, _ => none

/-- Items of an array by number, and properties and methods of the whole
array. -/
def ofItems (items : List Json) (request : Request) : Option Json :=
  let name := request.part.name
  let index := if request.part.isMethod then none else indexOfName? name
  match index with
  | some index => items[index]?
  | none =>
    match name, request.arguments with
    | "size", [] => some (.ofNat items.length)
    | "isEmpty", [] => some (.bool items.isEmpty)
    | "first", [] => items.head?
    | "last", [] => items.getLast?
    | "get", [.number index] => index.index?.bind fun index => items[index]?
    | "contains", [needle] =>
      some (.bool (items.any fun item => item.plainText == needle.plainText))
    | _, _ => none

/-- Properties and methods of a text. -/
def ofText (text : String) (request : Request) : Option Json :=
  match request.part.name, request.arguments with
  | "length", [] => some (.ofNat text.length)
  | "isEmpty", [] => some (.bool text.isEmpty)
  | "toUpperCase", [] => some (.string (Text.toUpper text))
  | "toLowerCase", [] => some (.string (Text.toLower text))
  | "contains", [needle] =>
    some (.bool (occursIn needle.plainText.toList text.toList))
  | _, _ => none

/-- Null and the empty text, for which `or` gives its fallback. -/
def isAbsent : Json → Bool
  | .null => true
  | .string text => text.isEmpty
  | _ => false

/-- Equal values, and values that render as the same text. -/
def looselyEqual (left right : Json) : Bool :=
  left.same right || left.plainText == right.plainText

/-- All values but null, false, zero, the texts `false` and `0`, and empty
texts, arrays and objects. -/
def isTruthy : Json → Bool
  | .null => false
  | .bool value => value
  | .number value => !value.isZero
  | .string text => !text.isEmpty && text != "false" && text != "0"
  | .array items => !items.isEmpty
  | .object entries => !entries.isEmpty

/-- Fallbacks, comparisons and truth on any base. -/
def ofAny (request : Request) : Option Json :=
  let base := request.base
  match request.part.name, request.arguments with
  | "or", [fallback] => some (if isAbsent base then fallback else base)
  | "eq", [other] => some (.bool (looselyEqual base other))
  | "ne", [other] => some (.bool (!looselyEqual base other))
  | "isTruthy", [] => some (.bool (isTruthy base))
  | _, _ => none

def asksObject (request : Request) : Bool :=
  !request.topLevel && match request.base with
    | .object _ => true
    | _ => false

def asksArray (request : Request) : Bool :=
  !request.topLevel && match request.base with
    | .array _ => true
    | _ => false

def asksText (request : Request) : Bool :=
  !request.topLevel && match request.base with
    | .string _ => true
    | _ => false

def objects : Resolver :=
  .ofValue 1 asksObject fun request =>
    match request.base with
    | .object entries => ofEntries entries request
    | _ => none

def arrays : Resolver :=
  .ofValue 1 asksArray fun request =>
    match request.base with
    | .array items => ofItems items request
    | _ => none

def texts : Resolver :=
  .ofValue 1 asksText fun request =>
    match request.base with
    | .string text => ofText text request
    | _ => none

/-- The resolver of fallbacks and comparisons, asked after the others. -/
def logic : Resolver :=
  .ofValue 0 (fun request => !request.topLevel) ofAny

/-- The built-in resolvers in the order of registration. -/
def all : List Resolver :=
  [objects, arrays, texts, logic]

end Phrasebook.Resolver.BuiltIn
