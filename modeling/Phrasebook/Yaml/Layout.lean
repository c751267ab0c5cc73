import Phrasebook.Yaml.BlockScalar
import Phrasebook.Yaml.PlainScalar
import Phrasebook.Yaml.QuotedScalar
import Phrasebook.Yaml.Token

/-!
# The layout of a text

`Token.ofText?` reads the tokens of a text. Blocks start and end with the
indentation of lines, and what turns out to be a key is marked as one only when
the colon after it is found. Until then it is a candidate: it stands on one line
with its colon, at most `Candidate.reach` bytes before it, and a candidate at
the indentation of the block around it has to become a key.
-/

namespace Phrasebook.Yaml

/-- A place where a key may have started: whether it has to be a key, the number
of tokens before it, and its first character. -/
structure Candidate where
  required : Bool
  number : Nat
  start : Placed
  deriving DecidableEq, Repr

/-- The largest number of bytes from the start of a key to its colon. -/
def Candidate.reach : Nat := 1024

/-- Whether a candidate can still be a key when a character is met. -/
def Candidate.reaches (met : Placed) (candidate : Candidate) : Bool :=
  candidate.start.line == met.line && met.offset ≤
    candidate.start.offset + reach

/-- The state in the middle of a text: the text to come, the tokens before it,
the columns of the open blocks, innermost first, whether a key may start, the
candidate of the innermost flow collection or of the blocks and those of the
collections around it, and the numbers of the anchors.
-/
structure Layout where
  rest : List Placed
  tokens : Array Token := #[]
  blocks : List Nat := []
  keyAllowed : Bool := true
  candidate : Option Candidate := none
  outer : List (Option Candidate) := []
  anchors : List (String × Nat) := []

namespace Layout

/-- Whether the place is inside a flow collection. -/
def inFlow (layout : Layout) : Bool := !layout.outer.isEmpty

/-- The least column of the content of the innermost block. -/
def least (layout : Layout) : Nat :=
  match layout.blocks with
  | [] => 0
  | column :: _ => column + 1

/-- Adds a token and goes on with a text. -/
def emit (token : Token) (rest : List Placed) (layout : Layout) : Layout :=
  { layout with tokens := layout.tokens.push token, rest }

/-- Says whether a key may start next. -/
def allowing (keyAllowed : Bool) (layout : Layout) :
    Layout := { layout with keyAllowed }

/-- Goes to the next token: past blanks and comments, and past byte order marks
at the start of lines. Tabs are passed only where no key may start; in blocks a
key may start on every new line. -/
def skipGap (inFlow keyAllowed inComment : Bool) :
    List Placed → Bool × List Placed
  | [] => (keyAllowed, [])
  | next :: rest =>
    if isBreak next.character
      then skipGap inFlow (keyAllowed || !inFlow) false rest
    else if inComment then skipGap inFlow keyAllowed true rest
    else if next.character == ' ' ||
        (next.character == '\t' && (inFlow || !keyAllowed)) ||
        (next.character == '\ufeff' && next.column == 0) then
      skipGap inFlow keyAllowed false rest
    else if next.character == '#' then skipGap inFlow keyAllowed true rest
    else (keyAllowed, next :: rest)

/-- Ends the blocks that have to end before a column; inside flow collections
none does. -/
def endBlocks (ends : Nat → Bool) (layout : Layout) : Layout :=
  if layout.inFlow then layout
  else
    let ended := (layout.blocks.takeWhile ends).length
    { layout with
      tokens := layout.tokens ++ (List.replicate ended Token.blockEnd).toArray
      blocks := layout.blocks.drop ended }

/-- Starts a block at a column, with its token after a number of tokens, unless
the innermost block stands there already. Inside flow collections no block
starts. -/
def startBlock (token : Token) (column number : Nat) (layout : Layout) :
    Layout :=
  if layout.inFlow || column < layout.least then layout
  else
    { layout with
      tokens := layout.tokens.insertIdxIfInBounds number token
      blocks := column :: layout.blocks }

/-- The candidate when a character is met, given up when it cannot reach it;
none when it has to be a key. -/
def keep? (met : Placed) : Option Candidate → Option (Option Candidate)
  | none => some none
  | some candidate =>
    if candidate.reaches met then some (some candidate)
    else if candidate.required then none
    else some none

/-- Gives up the candidate; none when it has to be a key. -/
def giveUp? (layout : Layout) : Option Layout :=
  if layout.candidate.any Candidate.required then none
    else some { layout with candidate := none }

/-- Makes a character the start of a candidate if a key may start there. -/
def propose? (start : Placed) (layout : Layout) : Option Layout :=
  if layout.keyAllowed then do
    let layout ← layout.giveUp?
    let required := !layout.inFlow && layout.blocks.head? == some start.column
    some { layout with candidate := some ⟨required, layout.tokens.size, start⟩ }
  else some layout

/-- Reads a mark that starts a flow collection. -/
def openFlow?
    (token : Token) (start : Placed) (rest : List Placed) (layout : Layout) :
    Option Layout := do
  let layout ← layout.propose? start
  let inner :=
    { layout with candidate := none, outer := layout.candidate :: layout.outer }
  some ((inner.emit token rest).allowing true)

/-- Reads a mark that ends a flow collection. -/
def closeFlow? (token : Token) (rest : List Placed) (layout : Layout) :
    Option Layout := do
  let layout ← layout.giveUp?
  let layout :=
    match layout.outer with
    | [] => layout
    | candidate :: outer => { layout with candidate, outer }
  some ((layout.emit token rest).allowing false)

/-- Reads a dash before the item of a block sequence. -/
def item? (start : Placed) (rest : List Placed) (layout : Layout) :
    Option Layout :=
  if layout.inFlow || layout.keyAllowed then do
    let layout ← (layout.startBlock .blockSequenceStart start.column
      layout.tokens.size).giveUp?
    some ((layout.emit .blockEntry rest).allowing true)
  else none

/-- Reads a question mark before a key. -/
def key? (start : Placed) (rest : List Placed) (layout : Layout) :
    Option Layout :=
  if layout.inFlow || layout.keyAllowed then do
    let layout ← (layout.startBlock .blockMappingStart start.column
      layout.tokens.size).giveUp?
    some ((layout.emit .key rest).allowing !layout.inFlow)
  else none

/-- Reads a colon before a value. The candidate becomes a key, which may start a
block mapping. -/
def value? (start : Placed) (rest : List Placed) (layout : Layout) :
    Option Layout :=
  match layout.candidate with
  | some candidate =>
    let marked := { layout with
      tokens := layout.tokens.insertIdxIfInBounds candidate.number .key
      candidate := none }
    let layout :=
      marked.startBlock .blockMappingStart candidate.start.column
        candidate.number
    some ((layout.emit .value rest).allowing false)
  | none =>
    if layout.inFlow || layout.keyAllowed then
      let layout :=
        layout.startBlock .blockMappingStart start.column layout.tokens.size
      some ((layout.emit .value rest).allowing !layout.inFlow)
    else none

/-- Numbers an anchor by the number of different names before it. A name that
comes again takes a new number, which is also the number of the next new
name. -/
def anchor? (start : Placed) (rest : List Placed) (layout : Layout) :
    Option Layout := do
  let layout ← layout.propose? start
  let (name, rest) ← anchorName? rest
  let number := layout.anchors.length
  let anchors := (name, number) :: layout.anchors.filter fun other =>
    other.1 ≠ name
  some (({ layout with anchors }.emit (.anchor number) rest).allowing false)

/-- Reads an alias, whose anchor has to come before it. -/
def alias? (start : Placed) (rest : List Placed) (layout : Layout) :
    Option Layout := do
  let layout ← layout.propose? start
  let (name, rest) ← anchorName? rest
  let number ← layout.anchors.lookup name
  some ((layout.emit (.alias number) rest).allowing false)

def tag? (start : Placed) (rest : List Placed) (layout : Layout) :
    Option Layout := do
  let layout ← layout.propose? start
  let (tag, rest) ← Yaml.tag? layout.inFlow rest
  some ((layout.emit (.tag tag) rest).allowing false)

/-- Reads a block scalar after its first character. -/
def block? (folds : Bool) (rest : List Placed) (layout : Layout) :
    Option Layout := do
  let layout ← layout.giveUp?
  let (text, rest) ← Yaml.block? folds layout.least rest
  some
    ((layout.emit (.scalar (if folds then .folded else .literal) text)
      rest).allowing true)

/-- Reads a quoted scalar. -/
def quoted? (start : Placed) (rest : List Placed) (layout : Layout) :
    Option Layout := do
  let layout ← layout.propose? start
  let (text, rest) ← Yaml.quoted? (start :: rest)
  some ((layout.emit (.scalar .quoted text) rest).allowing false)

/-- Reads a plain scalar. A key may start after it when its line ends there. -/
def plain? (start : Placed) (rest : List Placed) (layout : Layout) :
    Option Layout := do
  let layout ← layout.propose? start
  let scalar ← Yaml.plain? layout.inFlow layout.least (start :: rest)
  some
    ((layout.emit (.scalar .plain scalar.text) scalar.rest).allowing
      scalar.endsLine)

/-- Reads a token that ends all blocks: a directive or the mark of a
document. -/
def outermost? (start : Placed) (rest : List Placed) (layout : Layout) :
    Option Layout := do
  let layout ← (layout.endBlocks fun _ => true).giveUp?
  let (token, rest) ←
    if start.character == '%' then
      (directive? rest).map fun (directive, rest) =>
        (Token.directive directive, rest)
    else if start.character == '-' then some (.documentStart, rest.drop 2)
    else some (.documentEnd, rest.drop 2)
  some ((layout.emit token rest).allowing false)

/-- Reads the token that starts with a character. -/
def token? (start : Placed) (rest : List Placed) (layout : Layout) :
    Option Layout :=
  if (start.column == 0 && start.character == '%') ||
    isDocumentMark (start :: rest) then
    layout.outermost? start rest
  else
    let separate := layout.inFlow || gapFollows rest
    match start.character with
    | '[' => layout.openFlow? .flowSequenceStart start rest
    | '\x7b' => layout.openFlow? .flowMappingStart start rest
    | ']' => layout.closeFlow? .flowSequenceEnd rest
    | '\x7d' => layout.closeFlow? .flowMappingEnd rest
    | ',' => layout.giveUp?.map fun layout =>
      (layout.emit .flowEntry rest).allowing true
    | '*' => layout.alias? start rest
    | '&' => layout.anchor? start rest
    | '!' => layout.tag? start rest
    | '\'' => layout.quoted? start rest
    | '"' => layout.quoted? start rest
    | character =>
      if character == '-' && gapFollows rest then layout.item? start rest
      else if character == '?' && separate then layout.key? start rest
      else if character == ':' && separate then layout.value? start rest
      else if (character == '|' || character == '>') && !layout.inFlow then
        layout.block? (character == '>') rest
      else if startsPlain layout.inFlow (start :: rest)
        then layout.plain? start rest
      else none

/-- Reads on up to the end of the text, where no candidate may be left that has
to be a key; `fuel` bounds the number of tokens. -/
def tokens? (fuel : Nat) (layout : Layout) : Option (Array Token) :=
  match fuel with
  | 0 => none
  | fuel + 1 =>
    let (keyAllowed, rest) :=
      skipGap layout.inFlow layout.keyAllowed false layout.rest
    match rest with
    | [] =>
      let required := (layout.candidate :: layout.outer).any fun candidate =>
        candidate.any Candidate.required
      if required then none else some (layout.endBlocks fun _ => true).tokens
    | start :: rest => do
      let candidate ← keep? start layout.candidate
      let outer ← layout.outer.mapM (keep? start)
      let layout := { layout with rest, keyAllowed, candidate, outer }
      let layout ← (layout.endBlocks fun column => start.column < column).token?
        start rest
      tokens? fuel layout

end Layout

/-- The tokens of a text; none when it cannot be cut into tokens. -/
def Token.ofText? (text : String) : Option (List Token) := do
  let rest ← Placed.ofText? text
  let tokens ← Layout.tokens? (rest.length + 1) { rest }
  some tokens.toList

end Phrasebook.Yaml
