/-!
# Characters of YAML text

The characters of a text with their places. Any of five ways to end a line
counts as one break: carriage return, line feed, both together, and the
next-line character become a line feed, while the line and paragraph separators
stay what they are. Blanks are space and tab only.
-/

namespace Phrasebook.Yaml

/-- A character of a text: its line and its column, both from zero, and the
number of bytes before it. -/
structure Placed where
  character : Char
  line : Nat
  column : Nat
  offset : Nat
  deriving DecidableEq, Repr

/-- The characters that may stand in a text. -/
def isReadable (character : Char) : Bool :=
  let code := character.toNat
  code == 0x09 || code == 0x0a || code == 0x0d || code == 0x85 ||
    (0x20 ≤ code && code ≤ 0x7e) ||
    (0xa0 ≤ code && code ≤ 0xfffd) || 0x10000 ≤ code

/-- The characters that end a line. -/
def isBreak (character : Char) : Bool :=
  character == '\n' || character == '\r' || character == '\u0085' ||
    character == '\u2028' ||
    character == '\u2029'

def breakForm (character : Char) : Char :=
  if character == '\r' || character == '\u0085' then '\n' else character

/-- Space and tab. -/
def isBlank (character : Char) : Bool :=
  character == ' ' || character == '\t'

/-- The brackets, braces and commas of flow collections. -/
def isFlowMark (character : Char) : Bool :=
  character == ',' || character == '[' || character == ']' ||
    character == '\x7b' ||
    character == '\x7d'

/-- Letters and digits of ASCII, the underscore and the hyphen. -/
def isWordCharacter (character : Char) : Bool :=
  character.isAlphanum || character == '_' || character == '-'

namespace Placed

/-- Gives characters their places from a line, a column and an offset on;
`placed` holds the characters before them, last first. -/
def ofCharacters (placed : List Placed) (line column offset : Nat) :
    List Char → List Placed
  | [] => placed.reverse
  | '\r' :: '\n' :: rest =>
    ofCharacters (⟨'\n', line, column, offset⟩ :: placed) (line + 1) 0
      (offset + 2) rest
  | character :: rest =>
    let next := offset + character.utf8Size
    if isBreak character then
      ofCharacters (⟨breakForm character, line, column, offset⟩ :: placed)
        (line + 1) 0 next rest
    else ofCharacters (⟨character, line, column, offset⟩ :: placed) line
      (column + 1) next rest

/-- The characters of a text in their places; none when one may not stand in a
text. -/
def ofText? (text : String) : Option (List Placed) :=
  if text.toList.all isReadable then some (ofCharacters [] 0 0 0 text.toList)
    else none

end Placed

/-- Whether a blank, a break or the end of the text comes first. -/
def gapFollows : List Placed → Bool
  | [] => true
  | next :: _ => isBlank next.character || isBreak next.character

/-- Whether a break or the end of the text comes first. -/
def lineEnds : List Placed → Bool
  | [] => true
  | next :: _ => isBreak next.character

/-- Whether a character with a property comes first. -/
def follows (test : Char → Bool) : List Placed → Bool
  | [] => false
  | next :: _ => test next.character

/-- Whether a line starts here with a character three times and a gap. -/
def isLineOf (character : Char) : List Placed → Bool
  | first :: second :: third :: rest =>
    first.column == 0 && first.character == character &&
      second.character == character &&
      third.character == character && gapFollows rest
  | _ => false

/-- Whether a line starts here that marks the start or the end of a document. -/
def isDocumentMark (characters : List Placed) : Bool :=
  isLineOf '-' characters || isLineOf '.' characters

/-- The text after its leading blanks. -/
def skipBlanks (characters : List Placed) : List Placed :=
  characters.dropWhile fun next => isBlank next.character

/-- The text from the next break on. -/
def skipLine (characters : List Placed) : List Placed :=
  characters.dropWhile fun next => !isBreak next.character

/-- The text after the rest of a line that holds blanks and a comment only. -/
def lineRest? (characters : List Placed) : Option (List Placed) :=
  let rest := skipBlanks characters
  let rest := if follows (· == '#') rest then skipLine rest else rest
  if lineEnds rest then some (rest.drop 1) else none

/-! ## Gaps

Between the words of a text that goes on over several lines stand gaps. A gap
within a line stands for its blanks. A gap over lines is folded: its blanks do
not count, a single line feed is a space, and of several breaks the first one is
dropped if it is a line feed.
-/

/-- A gap, its characters last first: blanks within a line, or the breaks of a
gap over lines, the first one apart; an escaped break counts as none. -/
inductive Gap where
  | blanks (characters : List Char)
  | breaks (first : Option Char) (further : List Char)
  deriving DecidableEq, Repr

namespace Gap

def none : Gap := .blanks []

/-- Whether a gap goes over lines. -/
def isBroken : Gap → Bool
  | .blanks _ => false
  | .breaks _ _ => true

/-- A gap with one more blank or break. -/
def add (character : Char) : Gap → Gap
  | .blanks characters =>
    if isBreak character then .breaks (some character) []
      else .blanks (character :: characters)
  | .breaks first further =>
    if isBreak character then .breaks first (character :: further)
      else .breaks first further

/-- The characters that a gap stands for, last first. -/
def folded : Gap → List Char
  | .blanks characters => characters
  | .breaks (some '\n') [] => [' ']
  | .breaks (some '\n') further => further
  | .breaks first further => further ++ first.toList

end Gap
end Phrasebook.Yaml
