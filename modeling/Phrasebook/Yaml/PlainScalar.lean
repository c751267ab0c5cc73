import Phrasebook.Yaml.Character

/-!
# Plain scalars

Words without quotes. They end at a colon before a gap, at a comment, at the
mark of a document, in blocks before a line that is indented less than they have
to be, and inside flow collections at brackets, braces and commas.
-/

namespace Phrasebook.Yaml

/-- The characters that start no plain scalar in any place. -/
def isIndicator (character : Char) : Bool :=
  isFlowMark character ||
    ['#', '&', '*', '!', '|', '>', '\'', '"', '%', '@', '\x60'].contains
      character

/-- Whether a plain scalar starts here. A dash starts one when no blank follows,
a question mark and a colon do so in blocks when no gap follows. -/
def startsPlain (flow : Bool) : List Placed → Bool
  | [] => false
  | first :: rest =>
    if first.character == '-' then !follows isBlank rest
    else if first.character == '?' || first.character == ':' then !flow &&
      !gapFollows rest
    else !isIndicator first.character && !gapFollows [first]

/-- The marks that may not follow the colon of a word inside flow
collections. -/
def isColonFault (character : Char) : Bool :=
  isFlowMark character || character == '?'

/-- A plain scalar that was read: its text, whether it is followed by the end of
its line, and the text after the gap that follows it. -/
structure PlainScalar where
  text : String
  endsLine : Bool
  rest : List Placed

/-- Reads on in a plain scalar after the characters `read`, last first, and the
gap after them. `minimum` is the least column of its further lines; tabs may not
stand for it. -/
def plainFrom? (flow : Bool) (minimum : Nat) (gap : Gap) (start : Bool)
    (read : List Char) :
    List Placed → Option PlainScalar
  | [] => some ⟨String.ofList read.reverse, gap.isBroken, []⟩
  | next :: rest =>
    let ended : PlainScalar :=
      ⟨String.ofList read.reverse, gap.isBroken, next :: rest⟩
    if isBlank next.character || isBreak next.character then
      if gap.isBroken && next.column < minimum && next.character == '\t'
        then none
      else plainFrom? flow minimum (gap.add next.character) true read rest
    else if start && (isDocumentMark (next :: rest) || next.character == '#' ||
        (!flow && next.column < minimum)) then
      some ended
    else if flow && next.character == ':' && follows isColonFault rest then none
    else if (next.character == ':' && gapFollows rest) ||
      (flow && isFlowMark next.character) then
      some ended
    else plainFrom? flow minimum .none false
      (next.character :: (gap.folded ++ read)) rest

/-- Reads a plain scalar from its first character on. -/
def plain? (flow : Bool) (minimum : Nat) (characters : List Placed) :
    Option PlainScalar :=
  plainFrom? flow minimum .none false [] characters

end Phrasebook.Yaml
