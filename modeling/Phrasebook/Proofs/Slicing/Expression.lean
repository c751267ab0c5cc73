import Phrasebook.Proofs.Grammar.Reading
import Phrasebook.Proofs.Slicing.Cursor

/-!
# Expressions at byte positions

The parser of expressions as a program that moves a byte position through its
source.  It peeks at single bytes, and takes names, numbers, the text behind an
opening quote and the rest that an error quotes as pieces of the source.  A call
for an expression or for arguments says how many such calls it stands in.

The program follows the parser of characters call by call, with the same errors.
A call stands in no more calls than there are bytes before it: each call for
arguments has a name and a parenthesis before it.  The induction is on the fuel,
of which twice the length of the text that is left is enough: between two calls
for an expression, or two rounds of a loop, at least two characters are passed.
-/

namespace Phrasebook

namespace Slicing

open Phrasebook.Text (isAsciiBlank)
open Expression.Parser
  (isNameCharacter isNumeralCharacter startsNumeral skipBlanks name? quotedBody?
    numeralValue? keyword?
    keywordBefore?)
open Segmentation (bytes bytes_append)
open Grammar
  (taken? outcome shorter_of_outcome readName shorter_of_readName readQuoted
    readNumeral readNamed readFrom
    readPart readAfterPart readOthers readArguments outcome_expression_nil
      outcome_expression_cons outcome_parts
    outcome_argumentList outcome_arguments outcome_parse)

def isQuote (character : Char) : Bool :=
  character == '\'' || character == '"'

theorem isQuote_iff {character : Char} :
    isQuote character = true ↔ character = '\'' ∨ character = '"' := by
  rw [isQuote, Bool.or_eq_true, beq_iff_eq, beq_iff_eq]

/-- The text of a quoted literal behind its opening quote, and the number of
bytes before the closing one.  The value is what was read so far, from as many
bytes as the offset says. -/
def unquote? (quote : Char) (value : String) (offset : Nat) :
    List Char → Option (String × Nat)
  | [] => none
  | '\\' :: [] => none
  | '\\' :: escaped :: rest =>
    unquote? quote (value.push escaped)
      (offset + '\\'.utf8Size + escaped.utf8Size) rest
  | character :: rest =>
    if character = quote then some (value, offset)
    else unquote? quote (value.push character)
      (offset + character.utf8Size) rest

section Program

variable (source : String) (origin : Origin)

def identifier : Reader String := do
  let start ← get
  skipWhile source isNameCharacter
  let stop ← get
  if start = stop then
    throw ("expected a name at offset " ++ toString start ++ " in `" ++
      source ++ "`")
  else
    slice source start stop

def quoted (quote : UInt8) : Reader Expression := do
  let start ← get
  let body ← slice source (start + 1) source.utf8ByteSize
  match unquote? (Char.ofNat quote.toNat) "" 0 body.toList with
  | some (value, offset) =>
    set (start + 1 + offset + 1)
    return .literal (.string value) origin
  | none => throw ("unterminated string literal in `" ++ source ++ "`")

def numeral : Reader Expression := do
  let start ← get
  skipWhile source isNumeralCharacter
  let raw ← slice source start (← get)
  match numeralValue? raw.toList with
  | some value => return .literal value origin
  | none => throw ("invalid number literal `" ++ raw ++ "`")

/-- The value of a name that is a keyword, unless a path goes on behind it. -/
def keyword (name : String) : Reader (Option Json) := do
  if ← sees source fun next => next == '.' || next == '(' then
    return none
  else
    return keyword? name

/-- A path, when its parts from after the first name on are read by another
program. -/
def path (parts : String → Reader (List Part)) : Reader Expression := do
  let name ← identifier source
  if ← sees source (· == ':') then
    advance
    let member ← identifier source
    return .path (some name) (← parts member) origin
  else
    match ← keyword source name with
    | some value => return .literal value origin
    | none => return .path none (← parts name) origin

/-- A part behind its name, when arguments are read by another program. -/
def part (arguments : Reader (List Expression)) (name : String) :
    Reader Part := do
  if ← sees source (· == '(') then
    advance
    return .method name (← arguments)
  else
    return .property name

mutual

/-- An expression at the position.  The fuel bounds the calls, rounds of a loop
among them, that stand in one another; the depth counts those for an expression
or for arguments. -/
def expression : Nat → Nat → Reader Expression
  | 0, _ => exhausted
  | fuel + 1, depth =>
    call source depth do
      skipWhile source isAsciiBlank
      match ← peek source with
      | none => throw ("empty expression in `" ++ source ++ "`")
      | some byte =>
        if onByte isQuote byte then quoted source origin byte
        else if onByte startsNumeral byte then numeral source origin
        else path source origin (parts fuel depth)

/-- The parts of a path from after the name of the first one. -/
def parts : Nat → Nat → String → Reader (List Part)
  | 0, _, _ => exhausted
  | fuel + 1, depth, name => do
    let part ← part source (arguments fuel (depth + 1)) name
    if ← sees source (· == '.') then
      advance
      return part :: (← parts fuel depth (← identifier source))
    else
      return [part]

/-- The arguments of a method from after the opening parenthesis to the closing
one. -/
def arguments : Nat → Nat → Reader (List Expression)
  | 0, _ => exhausted
  | fuel + 1, depth =>
    call source depth do
      skipWhile source isAsciiBlank
      if ← sees source (· == ')') then
        advance
        return []
      else
        argumentList fuel depth

/-- A nonempty argument list to its closing parenthesis. -/
def argumentList : Nat → Nat → Reader (List Expression)
  | 0, _ => exhausted
  | fuel + 1, depth => do
    let first ← expression fuel (depth + 1)
    skipWhile source isAsciiBlank
    if ← sees source (· == ',') then
      advance
      return first :: (← argumentList fuel depth)
    else if ← sees source (· == ')') then
      advance
      return [first]
    else
      throw ("expected `,` or `)` in `" ++ source ++ "`")

end

/-- The whole of a source as one expression. -/
def wholeExpression (fuel : Nat) : Reader Expression := do
  let read ← expression source origin fuel 0
  skipWhile source isAsciiBlank
  let position ← get
  if position < source.utf8ByteSize then
    let rest ← slice source position source.utf8ByteSize
    throw ("unexpected `" ++ rest ++ "` in expression `" ++ source ++ "`")
  else
    return read

/-- Parses the content of a placeholder. -/
def parseExpression (fuel : Nat) : Traced (Except String Expression) := do
  return (← (wholeExpression source origin fuel).run.run 0).1

end Program

section Tokens

variable {source : String} {origin : Origin} {text rest : List Char}

theorem ascii_blank : Ascii isAsciiBlank := by
  intro character blank
  simp only [isAsciiBlank, Bool.or_eq_true, beq_iff_eq] at blank
  rcases blank with (((rfl | rfl) | rfl) | rfl) | rfl <;> decide

theorem ascii_alphanum : Ascii Char.isAlphanum := by
  intro character alphanumeric
  have upper (letter : character.isUpper = true) : character.toNat ≤ 0x7f :=
    (of_decide_eq_true letter).2.trans (by decide)
  have lower (letter : character.isLower = true) : character.toNat ≤ 0x7f :=
    (of_decide_eq_true ((Bool.and_eq_true _ _).mp letter).2).trans (by decide)
  have digit (digit : character.isDigit = true) : character.toNat ≤ 0x7f :=
    (of_decide_eq_true ((Bool.and_eq_true _ _).mp digit).2).trans (by decide)
  change ((character.isUpper || character.isLower) || character.isDigit) = true
    at alphanumeric
  rw [Bool.or_eq_true, Bool.or_eq_true] at alphanumeric
  rcases alphanumeric with (letter | letter) | number
  · exact upper letter
  · exact lower letter
  · exact digit number

theorem ascii_numeral : Ascii isNumeralCharacter := by
  intro character numeral
  simp only [isNumeralCharacter, Bool.or_eq_true, beq_iff_eq] at numeral
  rcases numeral with ((((digit | rfl) | rfl) | rfl) | rfl) | rfl
  · exact ascii_alphanum character
      (by rw [Char.isAlphanum, digit, Bool.or_true])
  all_goals decide

theorem ascii_name : Ascii isNameCharacter := by
  intro character named
  simp only [isNameCharacter, Bool.or_eq_true, beq_iff_eq] at named
  rcases named with (alphanumeric | rfl) | rfl
  · exact ascii_alphanum character alphanumeric
  all_goals decide

theorem ascii_startsNumeral : Ascii startsNumeral :=
  fun character starts =>
    ascii_numeral character
      (Expression.Parser.isNumeralCharacter_of_startsNumeral starts)

theorem ascii_quote : Ascii isQuote := by
  intro character quote
  rcases isQuote_iff.mp quote with rfl | rfl <;> decide

theorem reads_blanks (inside : text <:+ source.toList) :
    Reads source (skipWhile source isAsciiBlank) text
      (.ok ((), skipBlanks text)) :=
  Reads.skipWhile inside ascii_blank

theorem byteCount_eq (text : List Char) :
    ExpressionError.byteCount text = (bytes text).length := by
  rw [ExpressionError.byteCount, ← Segmentation.length_bytes,
    String.toList_ofList]

/-- The message names the offset in bytes and the source. -/
theorem message_expectedName (source : String) (text : List Char) :
    (ExpressionError.expectedName text).message source =
      "expected a name at offset " ++ toString (place source text) ++ " in `" ++
        source ++ "`" := by
  have offset :
      ExpressionError.byteCount source.toList - ExpressionError.byteCount text =
          place source text := by
    rw [byteCount_eq, byteCount_eq, Segmentation.length_bytes, place]
  rw [← offset]
  rfl

/-- The longest run of characters that pass a test is taken as a piece. -/
theorem reads_run
    (inside : text <:+ source.toList) (test : Char → Bool) (here : List Char) :
    Reads source
      (liftM
        (slice source (place source text)
          (place source (text.dropWhile test))) : Reader String) here
      (.ok (String.ofList (text.takeWhile test), here)) := by
  have split : text.takeWhile test ++
      text.dropWhile test <:+ source.toList := by
    rwa [List.takeWhile_append_dropWhile]
  have read := Reads.slice split here
  rwa [List.takeWhile_append_dropWhile] at read

/-- A name is read by bytes as by characters. -/
theorem reads_identifier (inside : text <:+ source.toList) :
    Reads source (identifier source) text (readName text) := by
  rw [identifier]
  refine (Reads.get source text).step ?_
  refine (Reads.skipWhile inside ascii_name).step ?_
  refine (Reads.get source _).step ?_
  have absent (stays : text.dropWhile isNameCharacter = text) :
      Reads source
        (if place source text =
          place source (text.dropWhile isNameCharacter) then
          throw ("expected a name at offset " ++ toString (place source text) ++
            " in `" ++ source ++ "`")
        else slice source (place source text)
          (place source (text.dropWhile isNameCharacter)))
        (text.dropWhile isNameCharacter) (.error (.expectedName text)) := by
    rw [stays, if_pos rfl, ← message_expectedName]
    exact Reads.throw source (.expectedName text) text
  cases text with
  | nil => exact absent rfl
  | cons first rest =>
      by_cases named : isNameCharacter first = true
      · have shorter : ((first :: rest).dropWhile isNameCharacter).length <
            (first :: rest).length := by
          rw [List.dropWhile_cons_of_pos named, List.length_cons]
          exact Nat.lt_succ_of_le (Text.length_dropWhile_le _ _)
        have further := place_lt inside (List.dropWhile_suffix _) shorter
        have read :
            readName (first :: rest) =
              .ok (String.ofList ((first :: rest).takeWhile isNameCharacter),
                (first :: rest).dropWhile isNameCharacter) := by
          rw [readName, name?, if_pos named, List.takeWhile_cons_of_pos named,
            List.dropWhile_cons_of_pos named]
          rfl
        rw [read, if_neg further.ne]
        exact reads_run inside isNameCharacter _
      · have read : readName (first :: rest) =
            .error (.expectedName (first :: rest)) := by
          rw [readName, name?, if_neg named]
          rfl
        rw [read]
        exact absent (List.dropWhile_cons_of_neg named)

/-- A numeral is read by bytes as by characters. -/
theorem reads_numeral (inside : text <:+ source.toList) :
    Reads source (numeral source origin) text (readNumeral origin text) := by
  rw [numeral]
  refine (Reads.get source text).step ?_
  refine (Reads.skipWhile inside ascii_numeral).step ?_
  refine (Reads.get source _).step ?_
  refine (reads_run inside isNumeralCharacter _).step ?_
  rw [readNumeral, String.toList_ofList]
  cases numeralValue? (text.takeWhile isNumeralCharacter) with
  | none =>
      exact Reads.throw source
        (.invalidNumber (text.takeWhile isNumeralCharacter)) _
  | some value => exact Reads.pure source _ _

/-- A keyword in front of a dot or of a call is a name. -/
theorem keywordBefore?_eq (name : String) (text : List Char) :
    keywordBefore? name text =
      if text.head?.any (fun next => next == '.' || next == '(') then none
        else keyword? name := by
  unfold keywordBefore?
  split
  · rfl
  · rfl
  · rename_i noDot noCall
    cases text with
    | nil => rfl
    | cons first rest =>
        have dot : first ≠ '.' := fun same => noDot rest (by rw [same])
        have call : first ≠ '(' := fun same => noCall rest (by rw [same])
        simp [dot, call]

theorem reads_keyword (inside : text <:+ source.toList) (name : String) :
    Reads source (keyword source name) text
      (.ok (keywordBefore? name text, text)) := by
  have ascii : Ascii fun next => next == '.' || next == '(' := by
    intro character either
    simp only [Bool.or_eq_true, beq_iff_eq] at either
    rcases either with rfl | rfl <;> decide
  rw [keyword, keywordBefore?_eq]
  refine (Reads.sees inside ascii).step ?_
  split_ifs
  · exact Reads.pure source none text
  · exact Reads.pure source (keyword? name) text

theorem unquote?_plain {quote character : Char} (value : String) (offset : Nat)
    (ordinary : character ≠ '\\') :
    unquote? quote value offset (character :: rest) =
      if character = quote then some (value, offset)
      else unquote? quote (value.push character) (offset + character.utf8Size)
        rest := by
  rw [unquote?]
  · exact fun equal => (ordinary equal).elim
  · exact fun _ _ equal => (ordinary equal).elim

/-- One item of a quoted text adds its character to the value. -/
theorem unquote?_item
    {quote : Char} {item : Grammar.QuotedItem} (value : String) (offset : Nat)
    (fits : item.Fits quote) (rest : List Char) :
    unquote? quote value offset (item.text ++ rest) =
      unquote? quote (value.push item.character)
        (offset + (bytes item.text).length) rest := by
  have size (character : Char) : (bytes [character]).length =
      character.utf8Size := by
    rw [Segmentation.bytes_singleton, String.length_utf8EncodeChar]
  cases item with
  | plain character =>
      change unquote? quote value offset (character :: rest) =
        unquote? quote (value.push character)
          (offset + (bytes [character]).length) rest
      rw [unquote?_plain value offset fits.1, if_neg fits.2, size]
  | escaped character =>
      change unquote? quote value offset ('\\' :: character :: rest) =
        unquote? quote (value.push character)
          (offset + (bytes (['\\'] ++ [character])).length) rest
      rw [unquote?, bytes_append, List.length_append, size, size, Nat.add_assoc]

theorem unquote?_items
    {quote : Char} (isQuote : quote ≠ '\\') (value : String) (offset : Nat)
    {items : List Grammar.QuotedItem} (fits : ∀ item ∈ items, item.Fits quote)
    (rest : List Char) :
    unquote? quote value offset
      (items.flatMap Grammar.QuotedItem.text ++ quote :: rest) =
      some (value ++ String.ofList (items.map Grammar.QuotedItem.character),
        offset + (bytes (items.flatMap Grammar.QuotedItem.text)).length) := by
  induction items generalizing value offset with
  | nil =>
      change unquote? quote value offset (quote :: rest) = _
      rw [unquote?_plain value offset isQuote, if_pos rfl]
      simp [bytes]
  | cons item items ih =>
      rcases List.forall_mem_cons.mp fits with ⟨first, others⟩
      rw [List.flatMap_cons, List.append_assoc,
        unquote?_item value offset first, ih _ _ others, bytes_append,
        List.length_append, Nat.add_assoc, List.map_cons, String.push_eq_append,
        String.append_assoc, ← String.ofList_cons]

/-- Unquoting fails where the reading does. -/
theorem unquote?_eq_none {quote : Char} (value : String) (offset : Nat)
    (absent : quotedBody? quote text = none) :
    unquote? quote value offset text = none := by
  fun_induction quotedBody? quote text generalizing value offset with
  | case1 => rfl
  | case2 => rfl
  | case3 escaped following ih =>
      exact ih _ _ (Option.map_eq_none_iff.mp absent)
  | case4 following ordinary => cases absent
  | case5 character following noEnd noEscape different ih =>
      have ordinary : character ≠ '\\' := by
        intro equal
        cases following with
        | nil => exact noEnd equal rfl
        | cons escaped following => exact noEscape escaped following equal rfl
      rw [unquote?_plain value offset ordinary, if_neg different]
      exact ih _ _ (Option.map_eq_none_iff.mp absent)

/-- A quoted text is read by bytes as by characters. -/
theorem reads_quoted
    {quote : Char} {byte : UInt8} (inside : quote :: text <:+ source.toList)
    (isQuote : quote = '\'' ∨ quote = '"')
    (first : Char.ofNat byte.toNat = quote) :
    Reads source (quoted source origin byte) (quote :: text)
      (readQuoted origin quote text) := by
  have narrow : quote.toNat ≤ 0x7f := by
    rcases isQuote with rfl | rfl <;> decide
  have ordinary : quote ≠ '\\' := by
    rcases isQuote with rfl | rfl <;> decide
  have inside' : text ++ [] <:+ source.toList := by
    rw [List.append_nil]
    exact (List.suffix_cons quote text).trans inside
  have body := Reads.slice inside' (quote :: text)
  rw [List.append_nil, place_nil, ← place_narrow inside narrow] at body
  rw [quoted, first]
  refine (Reads.get source (quote :: text)).step (body.step ?_)
  rw [String.toList_ofList, readQuoted]
  cases found : taken? (quotedBody? quote text) with
  | none =>
      rw [unquote?_eq_none "" 0 (Option.map_eq_none_iff.mp found)]
      exact Reads.throw source .unterminatedString _
  | some taken =>
      rcases taken with ⟨value, rest⟩
      rcases (Grammar.quotedBody?_iff ordinary).mp found with
        ⟨items, fits, rfl, rfl⟩
      have behindText := place_narrow inside narrow
      have behindItems := place_append ((List.suffix_cons _ _).trans inside)
      have closing : quote :: rest <:+ source.toList :=
        ((List.suffix_append _ _).trans (List.suffix_cons _ _)).trans inside
      have behindQuote := place_narrow closing narrow
      have stop :
          place source
            (quote ::
              (items.flatMap Grammar.QuotedItem.text ++ quote :: rest)) + 1 +
          (0 + (bytes (items.flatMap Grammar.QuotedItem.text)).length) + 1 =
              place source rest := by
        omega
      rw [unquote?_items ordinary "" 0 fits, String.empty_append]
      dsimp only
      rw [stop]
      refine (Reads.set ?_).step (Reads.pure source _ rest)
      exact ((List.suffix_cons _ _).trans (List.suffix_append _ _)).trans
        (List.suffix_cons _ _)

end Tokens

section Refinement

variable {source : String} {origin : Origin} {fuel depth : Nat}
  {text : List Char}

/-- With some fuel, the programs follow the readings of all texts that are short
enough.  A call is not deeper than its position.

The constants order the calls that pass no character: from arguments to their
list, and from the list to its first expression. -/
structure Follows (source : String) (origin : Origin) (fuel : Nat) : Prop where
  expression : ∀ {text : List Char} {depth : Nat},
    2 * text.length < fuel → text <:+ source.toList →
      depth ≤ place source text →
      Reads source (expression source origin fuel depth) text
        (outcome (Expression.Parser.expression origin text))
  parts : ∀ {text : List Char} {depth : Nat} (name : String),
    2 * text.length + 1 < fuel → text <:+ source.toList →
      depth < place source text →
      Reads source (parts source origin fuel depth name) text
        (outcome (Expression.Parser.parts origin name text))
  arguments : ∀ {text : List Char} {depth : Nat},
    2 * text.length + 2 < fuel → text <:+ source.toList →
      depth < place source text →
      Reads source (arguments source origin fuel depth) text
        (outcome (Expression.Parser.arguments origin text))
  argumentList : ∀ {text : List Char} {depth : Nat},
    2 * text.length + 1 < fuel → text <:+ source.toList →
      depth < place source text →
      Reads source (argumentList source origin fuel depth) text
        (outcome (Expression.Parser.argumentList origin text))

namespace Follows

/-- A path is read by bytes as by characters, if this is so of what it is made
of. -/
theorem path
    (follows : Follows source origin fuel) (enough : 2 * text.length < fuel + 1)
    (inside : text <:+ source.toList) (deep : depth ≤ place source text) :
    Reads source
      (path source origin (Slicing.parts source origin fuel depth)) text
      ((readName text).bind fun named => readNamed origin named.1 named.2) := by
  refine (reads_identifier inside).bind ?_
  intro name after named further
  have shorter := shorter_of_readName named
  have inside' := further.trans inside
  have deep' : depth < place source after :=
    deep.trans_lt (place_lt inside further shorter)
  refine Reads.branch inside' (by decide) ?_ ?_
  · rintro behind rfl
    have inside'' := (List.suffix_cons _ behind).trans inside'
    refine (reads_identifier inside'').bind ?_
    intro member rest named' further'
    have shorter' := shorter_of_readName named'
    have deep'' : depth < place source rest := by
      have := place_narrow inside' (by decide)
      have := place_lt inside'' further' shorter'
      omega
    rw [List.length_cons] at shorter
    exact (follows.parts member (by omega) (further'.trans inside'') deep'').map
      _
  · intro noColon
    rw [readNamed]
    · refine (reads_keyword inside' name).step ?_
      cases keywordBefore? name after with
      | some value => exact Reads.pure source _ after
      | none => exact (follows.parts name (by omega) inside' deep').map _
    · exact noColon

/-- A part is read by bytes as by characters, if its arguments are. -/
theorem part
    (follows : Follows source origin fuel) (enough : 2 * text.length < fuel)
    (name : String)
    (inside : text <:+ source.toList) (deep : depth < place source text) :
    Reads source
      (part source (Slicing.arguments source origin fuel (depth + 1)) name) text
      (readPart origin name text) := by
  refine Reads.branch inside (by decide) ?_ ?_
  · rintro behind rfl
    -- The arguments are one call deeper, and the parenthesis is one more byte.
    have deep' : depth + 1 < place source behind := by
      have := place_narrow inside (by decide)
      omega
    rw [List.length_cons] at enough
    exact
      (follows.arguments (by omega) ((List.suffix_cons _ behind).trans inside)
        deep').map _
  · intro noCall
    rw [readPart]
    · exact Reads.pure source _ text
    · exact noCall

/-- One more unit of fuel reads an expression by bytes as by characters. -/
theorem expression_step
    (follows : Follows source origin fuel) (enough : 2 * text.length < fuel + 1)
    (inside : text <:+ source.toList) (deep : depth ≤ place source text) :
    Reads source (Slicing.expression source origin (fuel + 1) depth) text
      (outcome (Expression.Parser.expression origin text)) := by
  rw [Slicing.expression]
  refine Reads.call inside deep (fun _ _ => shorter_of_outcome) ?_
  refine (reads_blanks inside).step ?_
  have blanks : skipBlanks text <:+ text := List.dropWhile_suffix _
  refine (Reads.peek (blanks.trans inside)).step ?_
  cases start : skipBlanks text with
  | nil =>
      rw [outcome_expression_nil origin start]
      exact Reads.throw source .empty []
  | cons first rest =>
      rw [start] at blanks
      have inside' := blanks.trans inside
      have enough' := blanks.length_le
      have deep' : depth ≤ place source (first :: rest) := by
        have := place_suffix inside blanks
        omega
      rcases exists_first first rest with ⟨byte, others, encoded, peeked⟩
      rw [outcome_expression_cons origin start, peeked, readFrom]
      dsimp only
      simp only [onByte_first ascii_quote encoded,
        onByte_first ascii_startsNumeral encoded, isQuote_iff]
      split_ifs with quote numeral
      · have same : Char.ofNat byte.toNat = first := by
          rw [toNat_first (ascii_quote first (isQuote_iff.mpr quote)) encoded,
            Char.ofNat_toNat]
        exact reads_quoted inside' quote same
      · exact reads_numeral inside'
      · exact follows.path (by omega) inside' deep'

/-- One more unit of fuel reads the parts by bytes as by characters. -/
theorem parts_step
    (follows : Follows source origin fuel)
    (enough : 2 * text.length + 1 < fuel + 1) (name : String)
    (inside : text <:+ source.toList) (deep : depth < place source text) :
    Reads source (Slicing.parts source origin (fuel + 1) depth name) text
      (outcome (Expression.Parser.parts origin name text)) := by
  rw [Slicing.parts, outcome_parts]
  refine (follows.part (by omega) name inside deep).bind ?_
  intro part after _ further
  have inside' := further.trans inside
  refine Reads.branch inside' (by decide) ?_ ?_
  · rintro behind rfl
    have inside'' := (List.suffix_cons _ behind).trans inside'
    refine (reads_identifier inside'').bind ?_
    intro next rest named further'
    have shorter := shorter_of_readName named
    have longer := further.length_le
    have deep' : depth < place source rest := by
      have :=
        place_suffix inside
          (further'.trans ((List.suffix_cons _ behind).trans further))
      omega
    rw [List.length_cons] at longer
    exact (follows.parts next (by omega) (further'.trans inside'') deep').map _
  · intro noDot
    rw [readAfterPart]
    · exact Reads.pure source _ after
    · exact noDot

/-- One more unit of fuel reads an argument list by bytes as by characters. -/
theorem argumentList_step
    (follows : Follows source origin fuel)
    (enough : 2 * text.length + 1 < fuel + 1)
    (inside : text <:+ source.toList) (deep : depth < place source text) :
    Reads source (Slicing.argumentList source origin (fuel + 1) depth) text
      (outcome (Expression.Parser.argumentList origin text)) := by
  rw [Slicing.argumentList, outcome_argumentList]
  refine (follows.expression (by omega) inside deep).bind ?_
  intro first after read further
  have shorter := shorter_of_outcome read
  have blanks : skipBlanks after <:+ after := List.dropWhile_suffix _
  have inside' := blanks.trans (further.trans inside)
  refine (reads_blanks (further.trans inside)).step ?_
  refine Reads.branch inside' (by decide) ?_ ?_
  · intro behind comma
    rw [comma] at blanks inside' ⊢
    have deep' : depth < place source behind := by
      have :=
        place_suffix inside
          (((List.suffix_cons _ behind).trans blanks).trans further)
      omega
    have longer := blanks.length_le
    rw [List.length_cons] at longer
    exact
      (follows.argumentList (by omega)
        ((List.suffix_cons _ behind).trans inside') deep').map _
  · intro noComma
    refine Reads.branch inside' (by decide) ?_ ?_
    · intro behind closing
      rw [closing]
      exact Reads.pure source [first] behind
    · intro noClosing
      rw [readOthers]
      · exact Reads.throw source .expectedSeparator _
      · exact noClosing
      · exact noComma

/-- One more unit of fuel reads the arguments by bytes as by characters. -/
theorem arguments_step
    (follows : Follows source origin fuel)
    (enough : 2 * text.length + 2 < fuel + 1)
    (inside : text <:+ source.toList) (deep : depth < place source text) :
    Reads source (Slicing.arguments source origin (fuel + 1) depth) text
      (outcome (Expression.Parser.arguments origin text)) := by
  rw [Slicing.arguments]
  refine Reads.call inside deep.le (fun _ _ => shorter_of_outcome) ?_
  have blanks : skipBlanks text <:+ text := List.dropWhile_suffix _
  have inside' := blanks.trans inside
  rw [outcome_arguments]
  refine (reads_blanks inside).step ?_
  refine Reads.branch inside' (by decide) ?_ ?_
  · intro behind closing
    rw [closing]
    exact Reads.pure source [] behind
  · intro noClosing
    have enough' := blanks.length_le
    have deep' : depth < place source (skipBlanks text) := by
      have := place_suffix inside blanks
      omega
    rw [readArguments]
    · exact follows.argumentList (by omega) inside' deep'
    · exact noClosing

end Follows

/-- Each program follows its reading as soon as its callees do with one unit of
fuel less. -/
theorem follows (source : String) (origin : Origin) (fuel : Nat) :
    Follows source origin fuel := by
  induction fuel with
  | zero =>
      exact ⟨fun none => absurd none (Nat.not_lt_zero _),
        fun _ none => absurd none (Nat.not_lt_zero _),
        fun none => absurd none (Nat.not_lt_zero _),
        fun none => absurd none (Nat.not_lt_zero _)⟩
  | succ fuel follows =>
      exact ⟨follows.expression_step,
        fun name enough => follows.parts_step enough name,
        follows.arguments_step, follows.argumentList_step⟩

/-- The program of a whole expression follows the parser. -/
theorem reads_wholeExpression
    (source : String) (origin : Origin)
    (enough : 2 * source.toList.length < fuel) :
    Reads source (wholeExpression source origin fuel) source.toList
      ((Expression.parse source origin).map fun read => (read, [])) := by
  have inside := List.suffix_refl source.toList
  rw [wholeExpression, outcome_parse]
  refine ((follows source origin fuel).expression enough inside
    (Nat.zero_le _)).bind ?_
  intro read after _ further
  have blanks : skipBlanks after <:+ source.toList :=
    (List.dropWhile_suffix _).trans further
  refine (reads_blanks further).step ?_
  refine (Reads.get source _).step ?_
  dsimp only
  cases rest : skipBlanks after with
  | nil =>
      rw [place_nil, if_neg (Nat.lt_irrefl _)]
      exact Reads.pure source read []
  | cons first behind =>
      rw [rest] at blanks
      -- What the error quotes is the piece from here to the end of the source.
      have more := place_lt blanks List.nil_suffix (Nat.zero_lt_succ _)
      have piece : (first :: behind) ++ [] <:+ source.toList := by
        rwa [List.append_nil]
      have taken := Reads.slice piece (first :: behind)
      rw [List.append_nil, place_nil] at taken
      rw [place_nil] at more
      rw [if_pos more]
      exact taken.step (Reads.throw source (.unexpected (first :: behind)) _)

/-- Parsing the content of a placeholder at byte positions does what the parser
of characters does. -/
theorem safe_parseExpression
    (source : String) (origin : Origin)
    (enough : 2 * source.utf8ByteSize < fuel) :
    Safe source.utf8ByteSize (parseExpression source origin fuel)
      ((Expression.parse source origin).mapError
        (ExpressionError.message source)) := by
  have longer := length_le_bytes source.toList
  rw [Segmentation.length_bytes] at longer
  have enough' : 2 * source.toList.length < fuel := by omega
  have reads := reads_wholeExpression source origin enough'
  rw [parseExpression]
  cases parsed : Expression.parse source origin with
  | ok read =>
      rw [parsed] at reads
      have run := reads.2
      rw [place_source] at run
      exact run.bind (Safe.pure _ _)
  | error error =>
      rw [parsed] at reads
      rcases reads with ⟨stop, run⟩
      rw [place_source] at run
      exact run.bind (Safe.pure _ _)

end Refinement

end Slicing

end Phrasebook
