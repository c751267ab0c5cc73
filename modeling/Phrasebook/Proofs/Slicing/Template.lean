import Phrasebook.Proofs.Slicing.Expression
import Phrasebook.Proofs.Template.Segmentation

/-!
# Templates at byte positions

The scan of a template looks at every byte, also at those inside a character,
and takes pieces of the source between the places that it remembers: the start
of the run that is not yet text, the braces of a placeholder, and the brace
behind a backslash.  At a byte inside a character nothing starts, so such a byte
is never remembered.  Behind every item of a run the scan stands where the
parser of characters does, and what that parser keeps as pending is the text so
far with the run behind it.
-/

namespace Phrasebook

namespace Slicing

open Phrasebook.Text (isAsciiBlank)
open Segmentation
  (bytes bytes_append bytes_narrow bytes_wide exists_bytes closingBrace?
    TextItem Opens Breaks)
open Grammar (taken?)
open TemplateNode (ofSource ofPending opensBefore content?)

/-- The node of a text that is not empty. -/
def textNodes (text : String) : List TemplateNode :=
  if text = "" then [] else [.text text]

/-- Whether an opening brace before this byte starts a placeholder. -/
def opensOn (byte : UInt8) : Bool :=
  !onByte isAsciiBlank byte && !onByte (· == '\x7b') byte &&
    !onByte (· == '\x7d') byte

/-- The place of the closing brace, searched for from a position in the source
on. -/
def findClosingBrace (source : String) (start : Nat) : Traced (Option Nat) :=
  if start ≤ source.utf8ByteSize then return closingBrace? source start
    else failure

section Program

variable (template source : String)

/-- The nodes of a source, when those before the byte `index` and the text that
is not yet a node are known and the run behind that text starts at `start`.  An
error has its line.  The fuel bounds the rounds of the loop, with the calls that
stand in one another in the last of them. -/
def scan : Nat → List TemplateNode → String → Nat → Nat → Nat →
    Traced (Except (Nat × String) (List TemplateNode))
  | 0, _, _, _, _, _ => failure
  | fuel + 1, nodes, text, line, index, start =>
    match (bytes source.toList)[index]? with
    | none => do
      let run ← slice source start source.utf8ByteSize
      return .ok (nodes ++ textNodes (text ++ run))
    | some byte =>
      let next := (bytes source.toList)[index + 1]?
      if onByte (· == '\n') byte
        then scan fuel nodes text (line + 1) (index + 1) start
      else if onByte (· == '\\') byte ∧ next.any (onByte (· == '\x7b')) then do
        let run ← slice source start index
        scan fuel nodes (text ++ run) line (index + 2) (index + 1)
      else if onByte (· == '\x7b') byte ∧ next.any opensOn then do
        match ← findClosingBrace source (index + 1) with
        | none => return .error (line, "unterminated expression")
        | some stop =>
          let run ← slice source start index
          let content ← slice source (index + 1) stop
          match ← parseExpression (Text.trimEnd content) ⟨template,
              line⟩ fuel with
          | .error message => return .error (line, message)
          | .ok expression =>
            scan fuel
              (nodes ++ textNodes (text ++ run) ++ [.placeholder expression]) ""
              (line + content.toList.count '\n') (stop + 1) (stop + 1)
      else scan fuel nodes text line (index + 1) start

/-- Parses a template. -/
def parseTemplate
    (fuel : Nat) : Traced (Except (Nat × String) (List TemplateNode)) :=
  scan template source fuel [] "" 1 0 0

end Program

section Bytes

variable {template source text : String} {nodes : List TemplateNode}
  {fuel line index start : Nat}
  {character : Char} {rest : List Char}

theorem opensOn_first
    {byte : UInt8} {others : List UInt8}
    (encoded : bytes [character] = byte :: others) :
    opensOn byte = opensBefore character := by
  rw [opensOn, onByte_first ascii_blank encoded,
    onByte_first (ascii_beq (by decide)) encoded,
    onByte_first (ascii_beq (by decide)) encoded]
  rfl

/-- A byte at which nothing starts is passed over. -/
theorem scan_stay
    {byte : UInt8} (found : (bytes source.toList)[index]? = some byte)
    (newline : onByte (· == '\n') byte = false)
    (escape : ¬ (onByte (· == '\\') byte = true ∧
      (bytes source.toList)[index + 1]?.any (onByte (· == '\x7b')) = true))
    (opening : ¬ (onByte (· == '\x7b') byte = true ∧
      (bytes source.toList)[index + 1]?.any opensOn = true)) :
    scan template source (fuel + 1) nodes text line index start =
      scan template source fuel nodes text line (index + 1) start := by
  conv => lhs; rw [scan]
  rw [found]
  dsimp only
  rw [newline, if_neg Bool.false_ne_true, if_neg escape, if_neg opening]

/-- Bytes beyond ASCII are passed over. -/
theorem scan_beyond (count : Nat)
    (beyond : ∀ offset < count,
      ∃ byte, (bytes source.toList)[index + offset]? = some byte ∧
        0x7f < byte.toNat) :
    scan template source (fuel + count) nodes text line index start =
      scan template source fuel nodes text line (index + count) start := by
  induction count generalizing fuel with
  | zero => rfl
  | succ count ih =>
      rcases beyond count (Nat.lt_succ_self count) with ⟨byte, found, wide⟩
      have fails (test : Char → Bool) : onByte test byte = false := by
        rw [onByte, decide_eq_false (Nat.not_le_of_lt wide), Bool.false_and]
      have passed := @ih (fuel + 1) fun offset less =>
        beyond offset (Nat.lt_succ_of_lt less)
      rw [Nat.add_comm count 1, ← Nat.add_assoc, passed]
      refine (scan_stay found (fails _) ?_ ?_).trans ?_
      · rw [fails]
        rintro ⟨⟨⟩, -⟩
      · rw [fails]
        rintro ⟨⟨⟩, -⟩
      · rw [Nat.add_assoc, Nat.add_comm count 1]

/-- A character beyond ASCII is passed over with all its bytes. -/
theorem scan_wide
    (inside : character :: rest <:+ source.toList)
    (wide : ¬ character.toNat ≤ 0x7f) :
    scan template source (fuel + (bytes [character]).length) nodes text line
        (place source (character :: rest)) start =
      scan template source fuel nodes text line (place source rest) start := by
  have behind :=
    place_append (show [character] ++ rest <:+ source.toList from inside)
  rw [← behind]
  apply scan_beyond
  intro offset less
  have found := getElem?_place inside offset
  have split := bytes_append [character] rest
  rw [List.singleton_append] at split
  rw [split, List.getElem?_append_left less, List.getElem?_eq_getElem less]
    at found
  exact ⟨_, found, bytes_wide wide _ (List.getElem_mem less)⟩

theorem any_opensOn (rest : List Char) :
    (bytes rest)[0]?.any opensOn = rest.head?.any opensBefore := by
  cases rest with
  | nil => rfl
  | cons character rest =>
      rcases exists_first character rest with ⟨byte, others, encoded, first⟩
      rw [first, Option.any_some, opensOn_first encoded, List.head?_cons,
        Option.any_some]

/-- The byte of a character of ASCII, with the byte behind it. -/
theorem exists_byte
    (inside : character :: rest <:+ source.toList)
    (narrow : character.toNat ≤ 0x7f) :
    ∃ byte, (bytes source.toList)[place source (character :: rest)]? =
      some byte ∧
      (∀ test, Ascii test → onByte test byte = test character) ∧
      (bytes source.toList)[place source (character :: rest) + 1]? =
        (bytes rest)[0]? := by
  rcases exists_first character rest with ⟨byte, others, encoded, first⟩
  have here := getElem?_place inside 0
  have behind :=
    getElem?_place ((List.suffix_cons character rest).trans inside) 0
  rw [Nat.add_zero] at here behind
  rw [place_narrow inside narrow]
  exact ⟨byte, here.trans first,
    fun test ascii => onByte_first ascii encoded, behind⟩

/-- A character that stands by itself is passed over.  A line break is
counted. -/
theorem scan_plain (inside : character :: rest <:+ source.toList)
    (fits : (TextItem.plain character).Fits rest.head?) :
    scan template source (fuel + (bytes [character]).length) nodes text line
        (place source (character :: rest)) start =
      scan template source fuel nodes text (line + [character].count '\n')
        (place source rest) start := by
  by_cases narrow : character.toNat ≤ 0x7f
  · rcases exists_byte inside narrow with ⟨byte, found, first, next⟩
    have newline := first (· == '\n') (ascii_beq (by decide))
    have backslash := first (· == '\\') (ascii_beq (by decide))
    have brace := first (· == '\x7b') (ascii_beq (by decide))
    rw [← place_narrow inside narrow, bytes_narrow narrow,
      List.length_singleton]
    by_cases breaks : character = '\n'
    · rcases breaks with rfl
      conv => lhs; rw [scan]
      rw [found]
      dsimp only
      rw [newline, if_pos (by decide)]
      rfl
    · rw [List.count_eq_zero_of_not_mem (by simpa using Ne.symm breaks)]
      refine scan_stay found
        (newline.trans (beq_eq_false_iff_ne.mpr breaks)) ?_ ?_
      · rw [backslash, next, any_onByte (ascii_beq (by decide))]
        rintro ⟨escape, opening⟩
        rcases (Option.any_eq_true _ _).mp opening with ⟨next, head, isBrace⟩
        rw [beq_iff_eq.mp isBrace] at head
        exact fits.1 (beq_iff_eq.mp escape) head
      · rw [brace, next, any_opensOn]
        rintro ⟨opening, opens⟩
        rcases (Option.any_eq_true _ _).mp opens with ⟨next, head, starts⟩
        have stays := fits.2 (beq_iff_eq.mp opening) next head
        rw [starts] at stays
        cases stays
  · have ordinary : character ≠ '\n' := by
      rintro rfl
      exact narrow (by decide)
    rw [List.count_eq_zero_of_not_mem (by simpa using Ne.symm ordinary)]
    exact scan_wide inside narrow

theorem scan_escape (inside : '\\' :: '\x7b' :: rest <:+ source.toList) :
    scan template source (fuel + 1) nodes text line
      (place source ('\\' :: '\x7b' :: rest)) start =
      (do
        let run ← slice source start (place source ('\\' :: '\x7b' :: rest))
        scan template source fuel nodes (text ++ run) line (place source rest)
          (place source ('\x7b' :: rest))) := by
  rcases exists_byte inside (by decide) with ⟨byte, found, first, next⟩
  have newline := first (· == '\n') (ascii_beq (by decide))
  have backslash := first (· == '\\') (ascii_beq (by decide))
  have behind := place_narrow inside (by decide)
  have behind' := place_narrow ((List.suffix_cons _ _).trans inside) (by decide)
  have brace : (bytes ('\x7b' :: rest))[0]?.any (onByte (· == '\x7b')) = true :=
    any_onByte (ascii_beq (by decide)) _
  conv => lhs; rw [scan]
  rw [found]
  dsimp only
  rw [newline, backslash, next, brace, if_neg (by decide),
    if_pos ⟨rfl, rfl⟩, ← behind', ← behind]

theorem scan_opening
    {content : List Char} (inside : '\x7b' :: content <:+ source.toList)
    (opens : Opens content) :
    scan template source (fuel + 1) nodes text line
      (place source ('\x7b' :: content)) start =
      (do
        match ← findClosingBrace source (place source content) with
        | none => return .error (line, "unterminated expression")
        | some stop =>
          let run ← slice source start (place source ('\x7b' :: content))
          let content ← slice source (place source content) stop
          match ← parseExpression (Text.trimEnd content) ⟨template,
              line⟩ fuel with
          | .error message => return .error (line, message)
          | .ok expression =>
            scan template source fuel
              (nodes ++ textNodes (text ++ run) ++ [.placeholder expression]) ""
              (line + content.toList.count '\n') (stop + 1) (stop + 1)) := by
  rcases exists_byte inside (by decide) with ⟨byte, found, first, next⟩
  have newline := first (· == '\n') (ascii_beq (by decide))
  have backslash := first (· == '\\') (ascii_beq (by decide))
  have brace := first (· == '\x7b') (ascii_beq (by decide))
  have starts : (bytes content)[0]?.any opensOn = true := by
    rcases opens with ⟨character, rest, rfl, starts⟩
    exact (any_opensOn _).trans starts
  conv => lhs; rw [scan]
  rw [found]
  dsimp only
  rw [newline, backslash, brace, next, starts, if_neg (by decide),
    if_neg (by simp), if_pos ⟨rfl, rfl⟩, place_narrow inside (by decide)]

end Bytes

section Pieces

variable {template source text : String} {content pending run : List Char}
  {limit : Nat}

theorem safe_findClosingBrace (inside : content <:+ source.toList) :
    Safe limit (findClosingBrace source (place source content))
      ((taken? (content? none content)).map fun taken =>
        place source content + (bytes taken.1).length) := by
  have found := inside
  rcases found with ⟨before, split⟩
  have start : (String.ofList before).utf8ByteSize = place source content := by
    rw [place_of_split split.symm, ← Segmentation.length_bytes,
      String.toList_ofList]
  have joined : String.ofList before ++ String.ofList content = source := by
    rw [← String.ofList_append, split, String.ofList_toList]
  have closing :=
    Segmentation.closingBrace?_eq (String.ofList before) (String.ofList content)
  rw [joined, start, String.toList_ofList] at closing
  rw [findClosingBrace, if_pos (place_le source content), closing]
  exact Safe.pure limit _

theorem textNodes_pending (kept : pending.reverse = text.toList ++ run) :
    textNodes (text ++ String.ofList run) = ofPending pending := by
  have same : text ++ String.ofList run = String.ofList pending.reverse := by
    rw [kept, String.ofList_append, String.ofList_toList]
  rw [same, textNodes, ofPending]
  cases pending with
  | nil => rfl
  | cons character pending =>
      have nonempty : String.ofList (character :: pending).reverse ≠ "" := by
        intro empty
        have none := congrArg String.toList empty
        rw [String.toList_ofList] at none
        exact absurd none (by simp)
      rw [if_neg nonempty, if_neg (List.cons_ne_nil _ _)]

/-- A piece without the blanks at its end is no longer than the piece. -/
theorem trimEnd_le (value : List Char) :
    (Text.trimEnd (String.ofList value)).utf8ByteSize ≤
      (bytes value).length := by
  rcases Text.exists_trimmed value with ⟨tail, -, cut⟩
  have trimmed : (Text.trimEnd (String.ofList value)).toList =
      Text.trimEndChars value := by
    rw [Text.trimEnd, String.toList_ofList, String.toList_ofList]
  have whole : (bytes value).length =
      (bytes (Text.trimEndChars value)).length + (bytes tail).length := by
    rw [← List.length_append, ← bytes_append, ← cut]
  rw [← Segmentation.length_bytes, trimmed]
  omega

end Pieces

/-- The outcome of a scan behind some nodes. -/
def described (nodes : List TemplateNode)
    (result : Except (Nat × PlaceholderError) (List TemplateNode)) :
    Except (Nat × String) (List TemplateNode) :=
  (result.map (nodes ++ ·)).mapError fun fault => (fault.1, fault.2.message)

theorem described_placeholder
    (nodes between : List TemplateNode) (expression : Expression)
    (result : Except (Nat × PlaceholderError) (List TemplateNode)) :
    described nodes (result.map fun others =>
      between ++ .placeholder expression :: others) =
      described (nodes ++ between ++ [.placeholder expression]) result := by
  cases result with
  | error fault => rfl
  | ok others =>
      change Except.ok
        (nodes ++ (between ++ .placeholder expression :: others)) =
        Except.ok (nodes ++ between ++ [.placeholder expression] ++ others)
      rw [List.append_assoc, List.append_assoc, List.singleton_append]

section Refinement

variable {template source text : String} {nodes : List TemplateNode}
  {fuel line : Nat}
  {content pending run rest : List Char}

/-- A placeholder is scanned as it is parsed, if what follows it is. -/
theorem safe_opening (inside : run ++ '\x7b' :: content <:+ source.toList)
    (opens : Opens content) (enough : 2 * (bytes content).length < fuel)
    (kept : pending.reverse = text.toList ++ run)
    (goesOn : ∀ (after : List Char) (nodes : List TemplateNode) (line : Nat),
      after.length < content.length → 2 * (bytes after).length < fuel →
        after <:+ source.toList →
        Safe source.utf8ByteSize
          (scan template source fuel nodes "" line (place source after)
            (place source after))
          (described nodes (ofSource template line [] after))) :
    Safe source.utf8ByteSize
      (scan template source (fuel + 1) nodes text line
        (place source ('\x7b' :: content))
        (place source (run ++ '\x7b' :: content)))
      (described nodes
        (ofSource template line pending ('\x7b' :: content))) := by
  have brace : '\x7b' :: content <:+ source.toList :=
    (List.suffix_append run _).trans inside
  have behind : content <:+ source.toList :=
    (List.suffix_cons _ content).trans brace
  rw [scan_opening brace opens]
  refine (safe_findClosingBrace behind).bind ?_
  cases found : taken? (content? none content) with
  | none =>
      rw [Segmentation.ofSource_unterminated opens found]
      exact Safe.pure _ _
  | some taken =>
      rcases taken with ⟨value, after⟩
      have split : content = value ++ '\x7d' :: after := by
        rcases Segmentation.content?_iff.mp found with
          ⟨stretches, -, rfl, split⟩
        exact split
      rw [split] at behind
      have closing : '\x7d' :: after <:+ source.toList :=
        (List.suffix_append value _).trans behind
      have stop := place_append behind
      rw [← split] at stop
      have further := place_narrow closing (by decide)
      have piece := Safe.slice behind le_rfl
      rw [← split] at piece
      have lengths : (bytes content).length =
          (bytes value).length + ((bytes after).length + 1) := by
        rw [split, bytes_append, List.length_append,
          length_bytes_narrow (by decide)]
      have trimmed := trimEnd_le value
      have bounded : (Text.trimEnd (String.ofList value)).utf8ByteSize ≤
          source.utf8ByteSize := by
        have := place_le source ('\x7d' :: after)
        omega
      rw [Segmentation.ofSource_placeholder opens found, Option.map_some, stop]
      refine (Safe.slice inside le_rfl).bind (piece.bind ?_)
      refine ((safe_parseExpression _ _ (by omega)).mono bounded).bind ?_
      cases Expression.parse (Text.trimEnd (String.ofList value)) ⟨template,
          line⟩ with
      | error error => exact Safe.pure _ _
      | ok expression =>
          have shorter : after.length < content.length := by
            rw [split, List.length_append, List.length_cons]
            omega
          have others :=
            goesOn after
              (nodes ++ ofPending pending ++ [.placeholder expression])
            (line + value.count '\n') shorter (by omega)
            ((List.suffix_cons _ after).trans closing)
          dsimp only [Except.mapError]
          rw [textNodes_pending kept, String.toList_ofList, further,
            described_placeholder]
          exact others

/-- The scan of a source at byte positions does what the parser of templates
does, from after any text on: what the parser keeps as pending is the text that
is not yet a node with the run behind it. -/
theorem safe_scan
    (enough : 2 * (bytes rest).length < fuel)
    (inside : run ++ rest <:+ source.toList)
    (kept : pending.reverse = text.toList ++ run) :
    Safe source.utf8ByteSize
      (scan template source fuel nodes text line (place source rest)
        (place source (run ++ rest)))
      (described nodes (ofSource template line pending rest)) := by
  induction size : rest.length using Nat.strongRecOn
      generalizing fuel rest nodes text line pending run with
  | ind bound ih =>
      rcases size with rfl
      have behind : rest <:+ source.toList :=
        (List.suffix_append run rest).trans inside
      cases rest with
      | nil =>
          rcases Nat.exists_eq_add_one.mpr (Nat.zero_lt_of_lt enough) with
            ⟨fuel, rfl⟩
          have finished := getElem?_place behind 0
          rw [Nat.add_zero] at finished
          rw [scan, finished, ofSource, ← textNodes_pending kept]
          exact (Safe.slice inside le_rfl).bind (Safe.pure _ _)
      | cons character following =>
          rcases Segmentation.exists_item character following with
            breaks | ⟨item, rest, split, fits, shorter⟩
          · rcases breaks with _ | opens
            rcases Nat.exists_eq_add_one.mpr (Nat.zero_lt_of_lt enough) with
              ⟨fuel, rfl⟩
            rw [length_bytes_narrow (by decide)] at enough
            refine safe_opening inside opens (by omega) kept fun after nodes
              line shorter enough' inside' => ?_
            have others : [] ++ after <:+ source.toList := inside'
            exact ih after.length (Nat.lt_succ_of_lt shorter) enough'
              others rfl rfl
          rw [split] at enough inside behind ⊢
          rw [Segmentation.ofSource_item fits]
          rw [bytes_append, List.length_append] at enough
          cases item with
          | plain character =>
              have inside' : (run ++ [character]) ++
                  rest <:+ source.toList := by
                rwa [List.append_assoc]
              have kept' : (character :: pending).reverse =
                  text.toList ++ (run ++ [character]) := by
                rw [List.reverse_cons, kept, List.append_assoc]
              change 2 * ((bytes [character]).length + (bytes rest).length) <
                fuel at enough
              have paid : (bytes [character]).length ≤ fuel := by omega
              rcases Nat.exists_eq_add_of_le' paid with ⟨fuel, rfl⟩
              change character :: rest <:+ source.toList at behind
              change Safe source.utf8ByteSize
                (scan template source _ nodes text line
                  (place source (character :: rest))
                  (place source (run ++ ([character] ++ rest)))) _
              rw [scan_plain behind fits, ← List.append_assoc]
              exact ih rest.length shorter (by omega) inside' kept' rfl
          | brace =>
              rcases Nat.exists_eq_add_one.mpr (Nat.zero_lt_of_lt enough) with
                ⟨fuel, rfl⟩
              have kept' : ('\x7b' :: pending).reverse =
                  (text ++ String.ofList run).toList ++ ['\x7b'] := by
                rw [List.reverse_cons, kept, String.toList_append,
                  String.toList_ofList]
              change 2 * (2 + (bytes rest).length) < fuel + 1 at enough
              change '\\' :: '\x7b' :: rest <:+ source.toList at behind
              change Safe source.utf8ByteSize
                (scan template source (fuel + 1) nodes text line
                  (place source ('\\' :: '\x7b' :: rest))
                  (place source (run ++ ('\\' :: '\x7b' :: rest)))) _
              rw [scan_escape behind]
              have inside' : ['\x7b'] ++ rest <:+ source.toList :=
                (List.suffix_cons _ _).trans behind
              exact (Safe.slice inside le_rfl).bind
                (ih rest.length shorter (by omega) inside' kept' rfl)

/-- Parsing a template at byte positions does what the parser of characters
does. -/
theorem safe_parseTemplate
    (template source : String) (enough : 2 * source.utf8ByteSize < fuel) :
    Safe source.utf8ByteSize (parseTemplate template source fuel)
      ((TemplateNode.parse template source).mapError fun fault =>
        (fault.1, fault.2.message)) := by
  rw [← Segmentation.length_bytes] at enough
  have scanned : Safe source.utf8ByteSize
      (scan template source fuel [] "" 1 (place source source.toList)
        (place source source.toList))
      (described [] (ofSource template 1 [] source.toList)) :=
    safe_scan enough
      (show [] ++ source.toList <:+ source.toList from List.suffix_refl _) rfl
  have same : described [] (ofSource template 1 [] source.toList) =
      (TemplateNode.parse template source).mapError fun fault =>
        (fault.1, fault.2.message) := by
    rw [described, TemplateNode.parse]
    cases ofSource template 1 [] source.toList <;> rfl
  rw [place_source, same] at scanned
  exact scanned

end Refinement

/--
The parsers never take a piece of a text badly.  At byte positions, with any
fuel beyond twice the length of the source, the parser of expressions and the
parser of templates get the result that the parsers of characters get, a value
or an error with its message.  So they neither panic nor run on without an end.
Every piece that is taken on the way has its ends in order, in the text and
between characters; every call for an expression or for arguments that succeeds
has passed a byte and is still in the text; and no call is nested deeper than
the source is long.
-/
theorem parsers_slice_soundly
    (template source : String) (origin : Origin) (more : Nat) :
    (∃ events,
      parseExpression source origin (2 * source.utf8ByteSize + 1 + more) [] =
          some
            ((Expression.parse source origin).mapError
              (ExpressionError.message source), events) ∧
        ∀ event ∈ events, event.Sound source.utf8ByteSize) ∧
    (∃ events,
      parseTemplate template source (2 * source.utf8ByteSize + 1 + more) [] =
          some ((TemplateNode.parse template source).mapError fun fault =>
            (fault.1, fault.2.message), events) ∧
        ∀ event ∈ events, event.Sound source.utf8ByteSize) := by
  have enough : 2 * source.utf8ByteSize <
      2 * source.utf8ByteSize + 1 + more := by omega
  exact ⟨safe_parseExpression source origin enough [],
    safe_parseTemplate template source enough []⟩

end Slicing

end Phrasebook
