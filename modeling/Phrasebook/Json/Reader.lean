import Phrasebook.Document.Nesting
import Phrasebook.Text.Digit

/-!
# Reading data text

`Document.ofJsonText?` reads a whole text as one document: blanks are space,
tab, line feed and carriage return, and texts hold no raw control characters. A
text with the escape of half a surrogate pair and a number out of range are
unreadable, which is no fault of the document. Arrays and objects may nest at
any depth there; `Json.ofText?`, which reads the text as a data value, allows
`Json.nestingLimit` levels.
-/

namespace Phrasebook
namespace Json.Reader

open Phrasebook.Text (digitValue hexDigit? ofDigits)

/-- Space, tab, line feed and carriage return. -/
def isBlank (character : Char) : Bool :=
  character == ' ' || character == '\t' || character == '\n' ||
    character == '\r'

/-- The text after its leading blanks. -/
def skipBlanks (characters : List Char) : List Char :=
  characters.dropWhile isBlank

/-- Four hexadecimal digits at the start of a text. -/
def unit? : List Char → Option (Nat × List Char)
  | first :: second :: third :: fourth :: rest => do
    let high ← hexDigit? first
    let middle ← hexDigit? second
    let low ← hexDigit? third
    let last ← hexDigit? fourth
    some (ofDigits 16 [high, middle, low, last], rest)
  | _ => none

/-- The character that a `\u` escape stands for, which may take a second escape;
half a surrogate pair stands for none. -/
def escapedUnit?
    (characters : List Char) : Option (Option Char × List Char) := do
  let (unit, rest) ← unit? characters
  if 0xd800 ≤ unit ∧ unit ≤ 0xdbff then
    match rest with
    | '\\' :: 'u' :: after =>
      let (low, after) ← unit? after
      if 0xdc00 ≤ low ∧ low ≤ 0xdfff then
        some
          (some
            (Char.ofNat (0x10000 + (unit - 0xd800) * 0x400 + (low - 0xdc00))),
              after)
      else some (none, rest)
    | _ => some (none, rest)
  else if 0xdc00 ≤ unit ∧ unit ≤ 0xdfff then some (none, rest)
  else some (some (Char.ofNat unit), rest)

/-- The character that a letter escape stands for. -/
def escapedLetter? : Char → Option Char
  | '"' => some '"'
  | '\\' => some '\\'
  | '/' => some '/'
  | 'b' => some '\x08'
  | 'f' => some '\x0c'
  | 'n' => some '\n'
  | 'r' => some '\r'
  | 't' => some '\t'
  | _ => none

/-- The rest of a quoted text after its opening quote; `fuel` bounds its length
and `read` holds the characters read so far, last first, or none once one of
them was none. -/
def quotedRest?
    (fuel : Nat) (read : Option (List Char)) (characters : List Char) :
    Option (Document × List Char) :=
  match fuel, characters with
  | 0, _ => none
  | _, [] => none
  | fuel + 1, character :: rest =>
    if character == '"' then
      match read with
      | some read => some (.string (String.ofList read.reverse), rest)
      | none => some (.unreadable, rest)
    else if character == '\\' then
      match rest with
      | 'u' :: rest => do
        let (escaped, rest) ← escapedUnit? rest
        quotedRest? fuel (escaped.bind fun escaped =>
          read.map (escaped :: ·)) rest
      | letter :: rest => do
        let escaped ← escapedLetter? letter
        quotedRest? fuel (read.map (escaped :: ·)) rest
      | [] => none
    else if character.toNat < 0x20 then none
    else quotedRest? fuel (read.map (character :: ·)) rest

/-- A quoted text at the start of a text. -/
def quoted? : List Char → Option (Document × List Char)
  | '"' :: rest => quotedRest? (rest.length + 1) (some []) rest
  | _ => none

/-- Splits off the digits at the start of a text. -/
def digits (characters : List Char) : List Nat × List Char :=
  ((characters.takeWhile Char.isDigit).map digitValue,
    characters.dropWhile Char.isDigit)

/-- The digits of a number's fraction, when a point follows. -/
def fraction? : List Char → Option (Option (List Nat) × List Char)
  | '.' :: rest =>
    let (read, rest) := digits rest
    if read = [] then none else some (some read, rest)
  | rest => some (none, rest)

/-- The exponent of a number, when an exponent mark follows. -/
def exponent? : List Char → Option (Option Int × List Char)
  | mark :: rest =>
    if mark == 'e' || mark == 'E' then
      let (negative, rest) := match rest with
        | '-' :: rest => (true, rest)
        | '+' :: rest => (false, rest)
        | rest => (false, rest)
      let (read, rest) := digits rest
      if read = [] then none
      else some
        (some
          (if negative then -(ofDigits 10 read : Int) else ofDigits 10 read),
            rest)
    else some (none, mark :: rest)
  | [] => some (none, [])

/-- A numeral at the start of a text: no superfluous leading zero, and digits
after a point or an exponent mark. -/
def numeral?
    (characters : List Char) : Option (Number.Numeral × List Char) := do
  let (negative, rest) := match characters with
    | '-' :: rest => (true, rest)
    | rest => (false, rest)
  let (whole, rest) := digits rest
  if whole = [] ∨ (whole.head? = some 0 ∧ whole.length ≠ 1) then none
  else
    let (fraction, rest) ← fraction? rest
    let (exponent, rest) ← exponent? rest
    some (⟨negative, whole, fraction, exponent⟩, rest)

/-- A word at the start of a text. -/
def word? (word : String) (characters : List Char) : Option (List Char) :=
  if word.toList.isPrefixOf characters then some (characters.drop word.length)
    else none

/-- A document without parts at the start of a text. -/
def single? : List Char → Option (Document × List Char)
  | '"' :: rest => quoted? ('"' :: rest)
  | 'n' :: rest => (word? "ull" rest).map fun rest => (.null, rest)
  | 't' :: rest => (word? "rue" rest).map fun rest => (.bool true, rest)
  | 'f' :: rest => (word? "alse" rest).map fun rest => (.bool false, rest)
  | rest => (numeral? rest).map fun (numeral, rest) =>
    (((Number.ofNumeral? numeral).map .number).getD .unreadable, rest)

/-- The key of an entry with its colon at the start of a text. -/
def key? (characters : List Char) : Option (Document × List Char) := do
  let (key, rest) ← quoted? (skipBlanks characters)
  match skipBlanks rest with
  | ':' :: rest => some (key, rest)
  | _ => none

/-- An array or object that is not closed yet: its items or entries so far, last
first, and the key whose value is to follow. -/
inductive Opened where
  | array (items : List Document)
  | object (entries : List (Document × Document)) (key : Document)

/-- A document whose start may be read already: inside the collections `opened`,
innermost first, stands the document `closed` or one that is still to be read.
`fuel` bounds the steps, each of which takes a character. -/
def document? (fuel : Nat) (opened : List Opened) (closed : Option Document)
    (characters : List Char) : Option (Document × List Char) :=
  match fuel with
  | 0 => none
  | fuel + 1 =>
    match closed with
    | none =>
      match skipBlanks characters with
      | '[' :: rest =>
        match skipBlanks rest with
        | ']' :: rest => document? fuel opened (some (.sequence [])) rest
        | rest => document? fuel (.array [] :: opened) none rest
      | '\x7b' :: rest =>
        match skipBlanks rest with
        | '\x7d' :: rest => document? fuel opened (some (.mapping [])) rest
        | rest => do
          let (key, rest) ← key? rest
          document? fuel (.object [] key :: opened) none rest
      | rest => do
        let (document, rest) ← single? rest
        document? fuel opened (some document) rest
    | some document =>
      match opened with
      | [] => some (document, characters)
      | .array items :: opened =>
        match skipBlanks characters with
        | ',' :: rest =>
          document? fuel (.array (document :: items) :: opened) none rest
        | ']' :: rest =>
          document? fuel opened
            (some (.sequence (document :: items).reverse)) rest
        | _ => none
      | .object entries key :: opened =>
        match skipBlanks characters with
        | ',' :: rest => do
          let (next, rest) ← key? rest
          document? fuel (.object ((key, document) :: entries) next :: opened)
            none rest
        | '\x7d' :: rest =>
          document? fuel opened
            (some (.mapping ((key, document) :: entries).reverse)) rest
        | _ => none

end Json.Reader

/-- The document written as data text; none when the text is not one
document. -/
def Document.ofJsonText? (text : String) : Option Document :=
  let characters := text.toList
  match Json.Reader.document? (characters.length + 2) [] none characters with
  | some (document, rest) => if Json.Reader.skipBlanks rest = []
      then some document else none
  | none => none

/-- The number of levels of arrays and objects that a data value in a text may
have. -/
def Json.nestingLimit : Nat := 127

/-- The value written as data text; none when the text is not one value, nests
too deep or has an unreadable part. -/
def Json.ofText? (text : String) : Option Json :=
  (Document.ofJsonText? text).bind fun document =>
    if document.nestsWithin nestingLimit then document.value? else none

end Phrasebook
