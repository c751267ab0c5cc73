/-!
# Cutting texts

Texts are cut at their blanks, into lines, and in two at a separator.
-/

/-! ## Blank characters

Two classes are in use: `isBlank`, the Unicode property White_Space, for
trimming texts that people write, and `isAsciiBlank`, the five ASCII blanks,
between the tokens of an expression.
-/

namespace Phrasebook.Text

/-- The characters with the Unicode property White_Space. -/
def isBlank (character : Char) : Bool :=
  let code := character.toNat
  (9 ≤ code && code ≤ 13) || code == 0x20 || code == 0x85 || code == 0xa0 ||
    code == 0x1680 ||
    (0x2000 ≤ code && code ≤ 0x200a) || code == 0x2028 || code == 0x2029 ||
      code == 0x202f ||
    code == 0x205f || code == 0x3000

/-- Space, tab, line feed, form feed and carriage return. -/
def isAsciiBlank (character : Char) : Bool :=
  character == ' ' || character == '\t' || character == '\n' ||
    character == '\x0c' || character == '\r'

def trimEndChars (characters : List Char) : List Char :=
  (characters.reverse.dropWhile isBlank).reverse

/-- Drops the blank characters at both ends. -/
def trimChars (characters : List Char) : List Char :=
  trimEndChars (characters.dropWhile isBlank)

/-- Drops the blank characters at the end of a text. -/
def trimEnd (text : String) : String :=
  String.ofList (trimEndChars text.toList)

/-- Drops the blank characters at both ends of a text. -/
def trim (text : String) : String :=
  String.ofList (trimChars text.toList)

/-! ## Lines and separators

Texts are cut into lines, and in two at the first separator.
-/

/-- The lines of a text. A line feed or the end of the text ends a line, and a
carriage return before it belongs to the ending. -/
def lines (text : String) : List (List Char) :=
  (text.toList.splitOn '\n').map fun line =>
    if line.getLast? = some '\r' then line.dropLast else line

/-- The characters before and after the first separator, if there is one. -/
def splitFirst? (separator : Char) : List Char → Option (List Char × List Char)
  | [] => none
  | character :: rest =>
    if character = separator then some ([], rest)
    else (splitFirst? separator rest).map fun (before, after) =>
      (character :: before, after)

end Phrasebook.Text
