import Phrasebook.Text.Digit
import Phrasebook.Yaml.Character

/-!
# Block scalars

Texts written as indented lines after a bar, which keeps their breaks, or after
an angle bracket, which folds them. The head of a block scalar may tell its
indentation and what becomes of the breaks at its end.
-/

namespace Phrasebook.Yaml

/-- What becomes of the breaks at the end of a block scalar: all are dropped,
one is kept, or all are kept. -/
inductive Chomping where
  | strip
  | clip
  | keep
  deriving DecidableEq, Repr

/-- The head of a block scalar: what becomes of the breaks at its end, and its
indentation beyond that of the block around it if it is told. -/
structure BlockHead where
  chomping : Chomping := .clip
  indentation : Option Nat := none
  deriving DecidableEq, Repr

def Chomping.ofSign? : Char → Option Chomping
  | '+' => some .keep
  | '-' => some .strip
  | _ => none

/-- The head at the start of a text: a sign and a digit other than zero in any
order, each of which may be left out. -/
def blockHead? : List Placed → Option (BlockHead × List Placed)
  | [] => some ({}, [])
  | first :: rest =>
    match Chomping.ofSign? first.character, rest with
    | some chomping, second :: after =>
      if second.character.isDigit then
        if second.character = '0' then none
        else some (⟨chomping, some (Text.digitValue second.character)⟩, after)
      else some ({ chomping }, second :: after)
    | some chomping, [] => some ({ chomping }, [])
    | none, rest =>
      if first.character.isDigit then
        if first.character = '0' then none
        else
          let indentation := some (Text.digitValue first.character)
          match rest with
          | second :: after =>
            match Chomping.ofSign? second.character with
            | some chomping => some (⟨chomping, indentation⟩, after)
            | none => some ({ indentation }, second :: after)
          | [] => some ({ indentation }, [])
      else some ({}, first :: rest)

/-- The breaks before the next line with something on it, last first, the
largest column that their lines reach, and the text from there on. Lines reach
up to the indentation, or as far as they like when it is not known; a tab may
not stand for it. -/
def blockBreaks?
    (indentation : Option Nat) (breaks : List Char) (largest : Nat) :
    List Placed → Option (List Char × Nat × List Placed)
  | [] => some (breaks, largest, [])
  | next :: rest =>
    let before := indentation.all fun indentation => next.column < indentation
    if before && next.character == ' '
      then blockBreaks? indentation breaks largest rest
    else if before && next.character == '\t' then none
    else if isBreak next.character then
      blockBreaks? indentation (next.character :: breaks)
        (max largest next.column) rest
    else some (breaks, max largest next.column, next :: rest)

/-- The break that a line ends with, if the text does not end there. -/
def lineBreak : List Placed → List Char
  | [] => []
  | next :: _ => [next.character]

/-- The lines of a block scalar so far: their characters, last first, the break
after the last line, and whether that line starts with a blank. -/
structure BlockLines where
  read : List Char := []
  lastBreak : List Char := []
  startsBlank : Bool := false

namespace BlockLines

/-- The break between two lines and the breaks of the empty lines between them,
last first. Folding makes a single line feed between two lines that start with
no blank a space and drops it before empty lines. -/
def join (folds startsBlank : Bool) (breaks : List Char) (lines : BlockLines) :
    List Char :=
  if folds && lines.lastBreak == ['\n'] && !lines.startsBlank &&
    !startsBlank then
    if breaks.isEmpty then [' '] else breaks
  else breaks ++ lines.lastBreak

/-- Adds a line after the breaks of some empty lines. -/
def add (folds : Bool) (breaks : List Char) (line after : List Placed)
    (lines : BlockLines) :
    BlockLines :=
  let startsBlank := follows isBlank line
  let before := lines.join folds startsBlank breaks ++ lines.read
  { read := (line.map Placed.character).reverse ++ before
    lastBreak := lineBreak after
    startsBlank }

/-- The text of the lines with the breaks at its end, of which the last ones are
of empty lines. -/
def text (chomping : Chomping) (breaks : List Char) (lines : BlockLines) :
    String :=
  String.ofList <| List.reverse <|
    match chomping with
    | .strip => lines.read
    | .clip => lines.lastBreak ++ lines.read
    | .keep => breaks ++ (lines.lastBreak ++ lines.read)

end BlockLines

/-- Reads on in the lines of a block scalar at an indentation. `fuel` bounds the
number of lines and `breaks` are the breaks of the empty lines before the
text. -/
def blockFrom?
    (fuel : Nat) (folds : Bool) (chomping : Chomping) (indentation : Nat)
    (breaks : List Char) (lines : BlockLines) (characters : List Placed) :
    Option (String × List Placed) :=
  match fuel with
  | 0 => none
  | fuel + 1 =>
    match characters with
    | [] => some (lines.text chomping breaks, [])
    | next :: _ =>
      if next.column = indentation then do
        let line := characters.takeWhile fun next => !isBreak next.character
        let after := skipLine characters
        let lines := lines.add folds breaks line after
        let (breaks, _, rest) ← blockBreaks? (some indentation) [] 0
          (after.drop 1)
        blockFrom? fuel folds chomping indentation breaks lines rest
      else some (lines.text chomping breaks, characters)

/-- A block scalar after its bar or angle bracket. `least` is the least column
of its lines; the indentation that the head tells counts from the column before
it. -/
def block? (folds : Bool) (least : Nat) (characters : List Placed) :
    Option (String × List Placed) := do
  let (head, rest) ← blockHead? characters
  let rest ← lineRest? rest
  let told := head.indentation.map fun indentation => least - 1 + indentation
  let (breaks, largest, rest) ← blockBreaks? told [] 0 rest
  let indentation := told.getD (max largest (max least 1))
  blockFrom? (rest.length + 1) folds head.chomping indentation breaks {} rest

end Phrasebook.Yaml
