import Phrasebook.Text.Digit
import Phrasebook.Yaml.Character

/-!
# Quoted scalars

Texts in single quotes, in which a quote is written twice, and in double quotes,
in which a backslash starts an escape. Both may go on over several lines, but
not over the mark of a document.
-/

namespace Phrasebook.Yaml

/-- The character that an escape letter stands for. -/
def escapedLetter? : Char → Option Char
  | '0' => some '\x00'
  | 'a' => some '\x07'
  | 'b' => some '\x08'
  | 't' => some '\t'
  | '\t' => some '\t'
  | 'n' => some '\n'
  | 'v' => some '\x0b'
  | 'f' => some '\x0c'
  | 'r' => some '\r'
  | 'e' => some '\x1b'
  | ' ' => some ' '
  | '"' => some '"'
  | '/' => some '/'
  | '\\' => some '\\'
  | 'N' => some '\u0085'
  | '_' => some '\u00a0'
  | 'L' => some '\u2028'
  | 'P' => some '\u2029'
  | _ => none

/-- The number of hexadecimal digits after an escape letter. -/
def escapeDigits? : Char → Option Nat
  | 'x' => some 2
  | 'u' => some 4
  | 'U' => some 8
  | _ => none

/-- The character with a code written in some characters, which have to be
hexadecimal digits. -/
def coded? (characters : List Placed) : Option Char := do
  let values ← characters.mapM fun digit => Text.hexDigit? digit.character
  let code := Text.ofDigits 16 values
  if code.isValidChar then some (Char.ofNat code) else none

/-- The character of an escape after its backslash, and the length of the
escape. -/
def escaped? : List Placed → Option (Char × Nat)
  | [] => none
  | letter :: rest =>
    match escapeDigits? letter.character with
    | some count =>
      if (rest.take count).length = count then
        (coded? (rest.take count)).map fun character => (character, count + 1)
      else none
    | none => (escapedLetter? letter.character).map fun character =>
      (character, 1)

/-- Reads on in a text in single quotes after the characters `read`, last first,
and the gap after them. -/
def singleQuotedFrom? (gap : Gap) (read : List Char) :
    List Placed → Option (String × List Placed)
  | [] => none
  | next :: rest =>
    if isDocumentMark (next :: rest) then none
    else if isBlank next.character || isBreak next.character then
      singleQuotedFrom? (gap.add next.character) read rest
    else if next.character == '\'' then
      match rest with
      | second :: after =>
        if second.character == '\'' then
          singleQuotedFrom? .none ('\'' :: (gap.folded ++ read)) after
        else some (String.ofList (gap.folded ++ read).reverse, second :: after)
      | [] => some (String.ofList (gap.folded ++ read).reverse, [])
    else singleQuotedFrom? .none (next.character :: (gap.folded ++ read)) rest

/-- Reads on in a text in double quotes after the characters `read`, last first,
and the gap after them. An escaped break starts a gap over lines of its own. -/
def doubleQuotedFrom?
    (gap : Gap) (read : List Char) (characters : List Placed) :
    Option (String × List Placed) :=
  match characters with
  | [] => none
  | next :: rest =>
    if isDocumentMark (next :: rest) then none
    else if isBlank next.character || isBreak next.character then
      doubleQuotedFrom? (gap.add next.character) read rest
    else if next.character == '"'
      then some (String.ofList (gap.folded ++ read).reverse, rest)
    else if next.character == '\\' then
      if follows isBreak rest then
        doubleQuotedFrom? (.breaks none []) (gap.folded ++ read) (rest.drop 1)
      else
        match escaped? rest with
        | some (character, length) =>
          doubleQuotedFrom? .none (character :: (gap.folded ++ read))
            (rest.drop length)
        | none => none
    else doubleQuotedFrom? .none (next.character :: (gap.folded ++ read)) rest
termination_by characters.length
decreasing_by all_goals simp only [List.length_drop, List.length_cons]; omega

/-- A text in quotes with its opening quote at the start of a text. -/
def quoted? : List Placed → Option (String × List Placed)
  | [] => none
  | quote :: rest =>
    if quote.character == '\'' then singleQuotedFrom? .none [] rest
    else if quote.character == '"' then doubleQuotedFrom? .none [] rest
    else none

end Phrasebook.Yaml
