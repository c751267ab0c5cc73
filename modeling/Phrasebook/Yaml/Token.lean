import Phrasebook.Text.Digit
import Phrasebook.Yaml.Character

/-!
# Tags and tokens

Tokens are what a text is made of; one of them, the tag, is a small language of
its own.
-/

/-! ## Tags

A tag is written in full between angle brackets, or as a handle and a suffix.
What a handle stands for may be declared before a document; `!` and `!!` stand
for something anyway. Octets of a tag may be written as a percent sign and two
digits; as a character of the tag an octet is the one with its code.
-/

namespace Phrasebook.Yaml

/-- A tag as it is written. -/
inductive Tag where
  | full (text : String)
  | short (handle suffix : String)
  deriving DecidableEq, Repr

/-- The handles that are declared, with what they stand for. -/
abbrev Handles := List (String × String)

/-- The handles of every document. -/
def standardHandles : Handles :=
  [("!", "!"), ("!!", "tag:yaml.org,2002:")]

/-- The text of a tag; none when its handle is not declared. -/
def Tag.text? (handles : Handles) : Tag → Option String
  | .full text => some text
  | .short handle suffix => (handles.lookup handle).map fun start =>
    start ++ suffix

/-- The characters of tags besides escapes; in some places they include flow
marks. -/
def isTagCharacter (marks : Bool) (character : Char) : Bool :=
  isWordCharacter character ||
    [';', '/', '?', ':', '@', '&', '=', '+', '$', '.', '!', '~', '*', '\'', '(',
      ')'].contains
      character ||
    (marks && (character == ',' || character == '[' || character == ']'))

/-- The number of octets that follow the first octet of a character. -/
def furtherOctets? (octet : Nat) : Option Nat :=
  if octet < 0x80 then some 0
  else if octet < 0xc0 then none
  else if octet < 0xe0 then some 1
  else if octet < 0xf0 then some 2
  else if octet < 0xf8 then some 3
  else none

/-- Reads on in the characters of a tag after the characters `read`, last first,
when the escapes of `expected` octets have to follow. -/
def tagCharacters? (marks : Bool) (expected : Nat) (read : List Char) :
    List Placed → Option (List Char × List Placed)
  | [] => if expected = 0 then some (read.reverse, []) else none
  | first :: rest =>
    if first.character == '%' then
      match rest with
      | high :: low :: rest => do
        let high ← Text.hexDigit? high.character
        let low ← Text.hexDigit? low.character
        let octet := Text.ofDigits 16 [high, low]
        let further ←
          match expected with
          | 0 => furtherOctets? octet
          | expected + 1 =>
            if 0x80 ≤ octet ∧ octet < 0xc0 then some expected else none
        tagCharacters? marks further (Char.ofNat octet :: read) rest
      | _ => none
    else if expected ≠ 0 then none
    else if isTagCharacter marks first.character then
      tagCharacters? marks 0 (first.character :: read) rest
    else some (read.reverse, first :: rest)

/-- A nonempty sequence of characters of a tag. -/
def tagText? (marks : Bool) (characters : List Placed) :
    Option (String × List Placed) :=
  match tagCharacters? marks 0 [] characters with
  | some ([], _) => none
  | some (read, rest) => some (String.ofList read, rest)
  | none => none

/-- The word at the start of a text. -/
def word (characters : List Placed) : List Char × List Placed :=
  ((characters.takeWhile fun next => isWordCharacter next.character).map
    Placed.character,
    characters.dropWhile fun next => isWordCharacter next.character)

/-- A tag after its exclamation mark. -/
def tagBody? (characters : List Placed) : Option (Tag × List Placed) :=
  if follows (· == '<') characters then do
    let (text, rest) ← tagText? true (characters.drop 1)
    if follows (· == '>') rest then some (.full text, rest.drop 1) else none
  else
    let (name, rest) := word characters
    if follows (· == '!') rest then do
      let (suffix, rest) ← tagText? false (rest.drop 1)
      some (.short (String.ofList ('!' :: name ++ ['!'])) suffix, rest)
    else do
      let (read, rest) ← tagCharacters? false 0 name.reverse rest
      some (if read = [] then .full "!" else .short "!" (String.ofList read),
        rest)

/-- A tag after its exclamation mark. A gap or, inside flow collections, a comma
ends it. -/
def tag? (flow : Bool) (characters : List Placed) :
    Option (Tag × List Placed) := do
  let (tag, rest) ← tagBody? characters
  if gapFollows rest || (flow && follows (· == ',') rest) then some (tag, rest)
    else none

/-- The name of an anchor after its mark. A gap or one of a few indicators ends
it. -/
def anchorName? (characters : List Placed) : Option (String × List Placed) :=
  let (name, rest) := word characters
  let ended := gapFollows rest ||
    follows (fun next =>
      ['?', ':', ',', ']', '\x7d', '%', '@', '\x60'].contains next) rest
  if name ≠ [] ∧ ended then some (String.ofList name, rest) else none

/-- What a line at the head of a document declares: the version of the notation,
or what a handle stands for. -/
inductive Directive where
  | version (major minor : Nat)
  | handle (handle start : String)
  deriving DecidableEq, Repr

/-- A number of at most nine digits. -/
def versionNumber? (characters : List Placed) : Option (Nat × List Placed) :=
  let digits := characters.takeWhile fun next => next.character.isDigit
  if 1 ≤ digits.length ∧ digits.length ≤ 9 then
    some
      (Text.ofDigits 10 (digits.map fun digit =>
        Text.digitValue digit.character),
      characters.drop digits.length)
  else none

/-- The handle that a directive declares: one exclamation mark, or two around a
word that may be empty. -/
def declaredHandle?
    (characters : List Placed) : Option (String × List Placed) :=
  if follows (· == '!') characters then
    let (name, rest) := word (characters.drop 1)
    if follows (· == '!') rest
      then some (String.ofList ('!' :: name ++ ['!']), rest.drop 1)
    else if name = [] then some ("!", rest)
    else none
  else none

/-- A directive after its percent sign, up to the end of its line. -/
def directive?
    (characters : List Placed) : Option (Directive × List Placed) := do
  let (name, rest) := word characters
  if gapFollows rest then
    let (directive, rest) ←
      match String.ofList name with
      | "YAML" => do
        let (major, rest) ← versionNumber? (skipBlanks rest)
        if follows (· == '.') rest then
          let (minor, rest) ← versionNumber? (rest.drop 1)
          some (Directive.version major minor, rest)
        else none
      | "TAG" => do
        let (handle, rest) ← declaredHandle? (skipBlanks rest)
        if follows isBlank rest then
          let (start, rest) ← tagText? true (skipBlanks rest)
          if gapFollows rest then some (Directive.handle handle start, rest)
            else none
        else none
      | _ => none
    let rest ← lineRest? rest
    some (directive, rest)
  else none

/-! ## Tokens

The tokens of a text: the marks of its structure, some of which are written and
some follow from the indentation of lines, and its scalars with their
properties.
-/

/-- How a scalar is written. -/
inductive ScalarStyle where
  | plain
  | quoted
  | literal
  | folded
  deriving DecidableEq, Repr

/-- A token. Anchors and the aliases that refer to them go by numbers. -/
inductive Token where
  | directive (directive : Directive)
  | documentStart
  | documentEnd
  | blockSequenceStart
  | blockMappingStart
  | blockEnd
  | flowSequenceStart
  | flowSequenceEnd
  | flowMappingStart
  | flowMappingEnd
  | blockEntry
  | flowEntry
  | key
  | value
  | alias (anchor : Nat)
  | anchor (anchor : Nat)
  | tag (tag : Tag)
  | scalar (style : ScalarStyle) (text : String)
  deriving DecidableEq, Repr

end Phrasebook.Yaml
