import Phrasebook.Text.CaseTables
import Phrasebook.Text.Letter

/-!
# Case conversion

Case conversion is the full one of Unicode. One character may become several
(`ß` becomes `SS`), and a capital sigma becomes a final sigma when a cased
letter stands before it and none after it, case-ignorable characters being
passed over on both sides.
-/

namespace Phrasebook.Text

/-- The image of a code point in a list of mapping runs. -/
def mappedByRuns (runs : List (Nat × Nat × Nat × Nat)) (code : Nat) :
    Option Nat :=
  (runs.find? fun (first, last, step, _) =>
    first ≤ code && code ≤ last && (code - first) % step == 0).map fun (first,
        _, _, image) =>
      image + (code - first)

def upperForm (character : Char) : List Char :=
  if character.toNat < 0x80 then [character.toUpper]
  else match upperExpansions.lookup character.toNat with
    | some expansion => expansion.map Char.ofNat
    | none =>
      [((mappedByRuns upperRuns character.toNat).map Char.ofNat).getD character]

/-- The lower-case form of one character, without regard to its neighbours. -/
def lowerForm (character : Char) : List Char :=
  if character.toNat < 0x80 then [character.toLower]
  else if character == '\u0130' then ['i', '\u0307']
  else
    [((mappedByRuns lowerRuns character.toNat).map Char.ofNat).getD character]

/-- The first character that is not case-ignorable is cased. -/
def meetsCased (characters : List Char) : Bool :=
  match characters.dropWhile isCaseIgnorable with
  | [] => false
  | character :: _ => isCased character

/-- Lower-case form of the characters that follow `before` (given last
first). -/
def lowerAfter (before : List Char) : List Char → List Char
  | [] => []
  | character :: rest =>
    let form :=
      if character == 'Σ' then
        if meetsCased before && !meetsCased rest then ['ς'] else ['σ']
      else lowerForm character
    form ++ lowerAfter (character :: before) rest

def toUpper (text : String) : String :=
  String.ofList (text.toList.flatMap upperForm)

def toLower (text : String) : String :=
  String.ofList (lowerAfter [] text.toList)

end Phrasebook.Text

/-! ## Words of an identifier

An identifier splits into words. Characters that are not alphanumeric separate
words. Inside a run of alphanumeric characters a word ends between a lower-case
and an upper-case letter, and before the last capital of a run of capitals when
a lower-case letter follows it; digits continue whatever stands before them.
-/

namespace Phrasebook.Text.Words

/-- The case of the word read so far; characters without a case leave it
unchanged. -/
inductive Mode where
  | start
  | lower
  | upper
  deriving DecidableEq, Repr

/-- The mode after one more character, when no word ends there. -/
def Mode.after (mode : Mode) (character : Char) : Mode :=
  if isLowercase character then .lower else if isUppercase character then .upper
    else mode

/-- Words of a run of alphanumeric characters; `word` holds the characters of
the current one, last first. -/
def splitRun (mode : Mode) (word : List Char) : List Char → List (List Char)
  | [] => []
  | [character] => [(character :: word).reverse]
  | character :: next :: rest =>
    let following := mode.after character
    if following = .lower ∧ isUppercase next then
      (character :: word).reverse :: splitRun .start [] (next :: rest)
    else if mode = .upper ∧ isUppercase character ∧ isLowercase next then
      word.reverse :: splitRun .start [character] (next :: rest)
    else splitRun following (character :: word) (next :: rest)

/-- Runs of alphanumeric characters, without empty ones. -/
def runs (characters : List Char) : List (List Char) :=
  (characters.splitOnP fun character => !isAlphanumeric character).filter
    (· ≠ [])

def split (identifier : String) : List (List Char) :=
  (runs identifier.toList).flatMap (splitRun .start [])

/-- A word in lower case; a capital sigma at its end becomes a final sigma. -/
def lowered : List Char → List Char
  | [] => []
  | ['Σ'] => ['ς']
  | character :: rest => lowerForm character ++ lowered rest

/-- The words of an identifier in lower case, joined by a separator. -/
def joined (separator : Char) (identifier : String) : String :=
  String.ofList (List.intercalate [separator] ((split identifier).map lowered))

end Phrasebook.Text.Words
