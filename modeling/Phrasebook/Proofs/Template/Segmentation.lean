import Mathlib.Data.List.Chain
import Phrasebook.Proofs.Template.Reading
import Phrasebook.Proofs.Grammar.Acceptance

/-!
# Parsing a template follows its reading

Each run that is not empty is a text node, each placeholder the expression of
its content, read with the line that its opening brace is in.  The parser keeps
the characters of the current run, last first, and the line; after a part of a
source both are what the reading of that part says, and the induction is on the
segments that are left.  The first placeholder without an end or without an
expression is the error.
-/

namespace Phrasebook

namespace Segmentation

open Grammar (taken?)
open TemplateNode (ofSource ofPending content? opensBefore)

/-- The text node of a run; an empty run has none. -/
def runNodes : List TextItem → List TemplateNode
  | [] => []
  | item :: run => [.text (String.ofList (runCharacters (item :: run)))]

/-- A placeholder with the place of its opening brace. -/
structure Placeholder where
  origin : Origin
  source : String

namespace Placeholder

/-- What the content of a placeholder is read as. -/
def expression
    (placeholder : Placeholder) : Except ExpressionError Expression :=
  Expression.parse placeholder.source placeholder.origin

/-- The node of a placeholder whose content is an expression. -/
def nodes (placeholder : Placeholder) : List TemplateNode :=
  match placeholder.expression with
  | .ok expression => [.placeholder expression]
  | .error _ => []

/-- The error of a placeholder whose content is none, with its line. -/
def fault? (placeholder : Placeholder) : Option (Nat × PlaceholderError) :=
  match placeholder.expression with
  | .ok _ => none
  | .error error =>
    some (placeholder.origin.line, .invalid placeholder.source error)

end Placeholder

/-- The line that the character after a text is in. -/
def lineAfter (before : List Char) : Nat :=
  1 + before.count '\n'

/-- The placeholder at the end of a segment: it is in the line of its opening
brace, and blanks at the end of its content are cut. -/
def Segment.placeholder
    (template : String) (before : List Char) (segment : Segment) :
    Placeholder where
  origin := ⟨template, lineAfter (before ++ runText segment.run)⟩
  source := Text.trimEnd (String.ofList (contentText segment.content))

/-- The runs of segments with the placeholders that end them, after the text
before them. -/
def placed (template : String) (before : List Char) :
    List Segment → List (List TextItem × Placeholder)
  | [] => []
  | segment :: rest =>
    (segment.run, segment.placeholder template before) ::
      placed template (before ++ segment.text) rest

/-- A placeholder without an end is an error in its line. -/
def Ending.faults (line : Nat) : Ending → List (Nat × PlaceholderError)
  | .finished => []
  | .unterminated _ => [(line, .unterminated)]

namespace Reading

variable (template : String) (before : List Char) (reading : Reading)

/-- The errors of a source in order, when a text stands before it. -/
def faults : List (Nat × PlaceholderError) :=
  (placed template before reading.segments).filterMap (fun one =>
    one.2.fault?) ++
    reading.ending.faults
      (lineAfter
        (before ++ (segmentsText reading.segments ++ runText reading.last)))

/-- The nodes of a source: one for each run that is not empty and one for each
placeholder. -/
def nodes : List TemplateNode :=
  (placed template before reading.segments).flatMap (fun one =>
    runNodes one.1 ++ one.2.nodes) ++
    runNodes reading.last

/-- The first error of a source, or else its nodes. -/
def outcome : Except (Nat × PlaceholderError) (List TemplateNode) :=
  match (reading.faults template before).head? with
  | some fault => .error fault
  | none => .ok (reading.nodes template before)

end Reading

variable {template : String} {line : Nat} {pending rest : List Char}

/-- A plain character is pending, and a line break counts. -/
theorem ofSource_plain
    {character : Char} (fits : (TextItem.plain character).Fits rest.head?) :
    ofSource template line pending (character :: rest) =
      ofSource template (if character = '\n' then line + 1 else line)
        (character :: pending) rest := by
  by_cases brace : character = '\x7b'
  · subst brace
    cases rest with
    | nil =>
        conv =>
          lhs
          rw [ofSource.eq_def]
        rfl
    | cons next rest =>
        have stays : ¬ opensBefore next = true :=
          Bool.eq_false_iff.mp (fits.2 rfl next rfl)
        rw [ofSource, if_neg stays, if_neg (by decide)]
  · rw [ofSource]
    · intro following backslash split
      exact fits.1 backslash (by rw [split]; rfl)
    · exact fun _ _ opening => (brace opening).elim

/-- An item takes its character to the pending text, and its line break to the
line. -/
theorem ofSource_item {item : TextItem} (fits : item.Fits rest.head?) :
    ofSource template line pending (item.text ++ rest) =
      ofSource template (line + item.text.count '\n')
        (item.character :: pending) rest := by
  cases item with
  | plain character =>
      show ofSource template line pending (character :: rest) =
        ofSource template (line + [character].count '\n')
          (character :: pending) rest
      rw [ofSource_plain fits, List.count_singleton]
      by_cases newline : character = '\n'
      · rw [if_pos newline, if_pos (beq_iff_eq.mpr newline)]
      · rw [if_neg newline, if_neg (fun same => newline (beq_iff_eq.mp same)),
          Nat.add_zero]
  | brace =>
      show ofSource template line pending ('\\' :: '\x7b' :: rest) = _
      rw [ofSource]
      rfl

/-- A run takes its characters to the pending text. -/
theorem ofSource_run {run : List TextItem} (fits : RunFits rest.head? run) :
    ofSource template line pending (runText run ++ rest) =
      ofSource template (line + (runText run).count '\n')
        ((runCharacters run).reverse ++ pending) rest := by
  induction run generalizing line pending with
  | nil => rfl
  | cons item run ih =>
      rcases fits with ⟨first, others⟩
      rw [← List.head?_append] at first
      have characters :
          (runCharacters (item :: run)).reverse ++ pending =
            (runCharacters run).reverse ++ item.character :: pending := by
        rw [runCharacters, List.map_cons, List.reverse_cons, List.append_assoc,
          List.singleton_append]
        rfl
      rw [runText_cons_append, ofSource_item first, ih others, runText_cons,
        List.count_append, ← Nat.add_assoc, characters]

theorem ofPending_run (run : List TextItem) :
    ofPending ((runCharacters run).reverse ++ []) = runNodes run := by
  rw [List.append_nil]
  cases run with
  | nil => rfl
  | cons item run =>
      have nonempty : (runCharacters (item :: run)).reverse ≠ [] := by
        simp [runCharacters]
      rw [ofPending, if_neg nonempty, List.reverse_reverse]
      rfl

/-- At the end of the source, the pending text becomes the last node. -/
theorem ofSource_end (run : List TextItem) :
    ofSource template line ((runCharacters run).reverse ++ []) [] =
      .ok (runNodes run) := by
  rw [ofSource, ofPending_run]

/-- A placeholder without its closing brace is unterminated, at its line. -/
theorem ofSource_unterminated
    {text : List Char} (opens : Opens text)
    (absent : taken? (content? none text) = none) :
    ofSource template line pending ('\x7b' :: text) =
      .error (line, .unterminated) := by
  rcases opens with ⟨first, rest, rfl, starts⟩
  have scanned : content? none (first :: rest) = none :=
    Option.map_eq_none_iff.mp absent
  rw [ofSource, if_pos starts, scanned]

/-- A placeholder is parsed with its end trimmed, and the scan goes on behind
it. -/
theorem ofSource_placeholder
    {text value : List Char} (opens : Opens text)
    (found : taken? (content? none text) = some (value, rest)) :
    ofSource template line pending ('\x7b' :: text) =
      match Expression.parse (Text.trimEnd (String.ofList value)) ⟨template,
        line⟩ with
      | .error error =>
          .error (line, .invalid (Text.trimEnd (String.ofList value)) error)
      | .ok expression =>
        (ofSource template (line + value.count '\n') [] rest).map fun nodes =>
          ofPending pending ++ .placeholder expression :: nodes := by
  rcases opens with ⟨first, following, rfl, starts⟩
  rcases Option.map_eq_some_iff.mp found with ⟨read, scanned, equal⟩
  cases equal
  rw [ofSource, if_pos starts, scanned]
  dsimp only
  cases Expression.parse (Text.trimEnd (String.ofList read.value)) ⟨template,
      line⟩ with
  | error error => rfl
  | ok expression =>
      dsimp only
      cases ofSource template (line + read.value.count '\n') [] read.rest <;>
        rfl

theorem lineAfter_append (before text : List Char) :
    lineAfter (before ++ text) = lineAfter before + text.count '\n' := by
  rw [lineAfter, lineAfter, List.count_append, Nat.add_assoc]

theorem lineAfter_segment (before : List Char) (segment : Segment) :
    lineAfter (before ++ segment.text) =
      lineAfter (before ++ runText segment.run) +
        (contentText segment.content).count '\n' := by
  rw [Segment.text, ← List.append_assoc, lineAfter_append,
    List.count_cons_of_ne (by decide), List.count_append]
  rfl

theorem placed_cons (template : String) (before : List Char) (segment : Segment)
    (rest : List Segment) :
    placed template before (segment :: rest) =
      (segment.run, segment.placeholder template before) ::
        placed template (before ++ segment.text) rest :=
  rfl

namespace Reading

/-- The faults of a reading are the one of its first segment and the ones behind
it. -/
theorem faults_cons (template : String) (before : List Char) (segment : Segment)
    (reading : Reading) :
    (cons segment reading).faults template before =
      (segment.placeholder template before).fault?.toList ++
        reading.faults template (before ++ segment.text) := by
  have behind :
      before ++
        (segmentsText (segment :: reading.segments) ++ runText reading.last) =
        before ++ segment.text ++
            (segmentsText reading.segments ++ runText reading.last) := by
    simp only [segmentsText, List.flatMap_cons, List.append_assoc]
  rw [faults, faults, cons, behind, placed_cons, List.filterMap_cons]
  cases (segment.placeholder template before).fault? <;> rfl

/-- The nodes of a reading are the ones of its first segment and the ones behind
it. -/
theorem nodes_cons (template : String) (before : List Char) (segment : Segment)
    (reading : Reading) :
    (cons segment reading).nodes template before =
      runNodes segment.run ++ (segment.placeholder template before).nodes ++
        reading.nodes template (before ++ segment.text) := by
  rw [nodes, nodes, cons, placed_cons, List.flatMap_cons, List.append_assoc]

end Reading

/-- A segment gives its run and its placeholder, unless the placeholder is an
error. -/
theorem ofSource_segment
    {segment : Segment} (valid : segment.Valid) (before rest : List Char) :
    ofSource template (lineAfter before) [] (segment.text ++ rest) =
      match (segment.placeholder template before).fault? with
      | some fault => .error fault
      | none =>
        (ofSource template (lineAfter (before ++ segment.text)) [] rest).map
            fun nodes =>
          runNodes segment.run ++ (segment.placeholder template before).nodes ++
              nodes := by
  have found :
      taken? (content? none (contentText segment.content ++ '\x7d' :: rest)) =
        some (contentText segment.content, rest) :=
    content?_complete valid.content rest
  have opens : Opens (contentText segment.content ++ '\x7d' :: rest) := by
    rcases valid.opens with ⟨first, others, split, starts⟩
    exact ⟨first, others ++ '\x7d' :: rest, by rw [split, List.cons_append],
      starts⟩
  rw [segment.text_append, ofSource_run (valid.fits rest), ← lineAfter_append,
    ofSource_placeholder opens found, ofPending_run, ← lineAfter_segment]
  rw [Placeholder.fault?, Placeholder.nodes, Placeholder.expression]
  show (match Expression.parse (segment.placeholder template before).source
      (segment.placeholder template before).origin with
    | .error error => _
    | .ok expression => _) = _
  cases Expression.parse (segment.placeholder template before).source
      (segment.placeholder template before).origin with
  | error error => rfl
  | ok expression =>
      simp only [List.append_assoc, List.singleton_append]

/-- Parsing a source after a text gets what its reading says. -/
theorem ofSource_reading
    {reading : Reading} (valid : reading.Valid) (before : List Char) :
    ofSource template (lineAfter before) [] reading.text =
      reading.outcome template before := by
  rcases reading with ⟨segments, last, ending⟩
  induction segments generalizing before with
  | nil =>
      show ofSource template (lineAfter before) []
        (runText last ++ ending.text) = _
      rw [ofSource_run valid.last, ← lineAfter_append]
      cases ending with
      | finished => exact ofSource_end last
      | unterminated content =>
          refine ofSource_unterminated valid.ending.1 ?_
          cases found : taken? (content? none content) with
          | none => rfl
          | some one =>
              rcases content?_iff.mp found with ⟨inside, fits, -, split⟩
              exact (valid.ending.2 inside one.2 fits split).elim
  | cons segment segments ih =>
      rcases List.forall_mem_cons.mp valid.segments with ⟨first, others⟩
      have rest :=
        ih (before ++ segment.text) ⟨others, valid.last, valid.ending⟩
      have text := Reading.text_cons segment ⟨segments, last, ending⟩
      rw [Reading.cons] at text
      rw [text, ofSource_segment first, rest, Reading.outcome, Reading.outcome]
      have faults :=
        Reading.faults_cons template before segment ⟨segments, last, ending⟩
      have nodes :=
        Reading.nodes_cons template before segment ⟨segments, last, ending⟩
      rw [Reading.cons] at faults nodes
      rw [faults, nodes]
      cases (segment.placeholder template before).fault? with
      | some fault => rfl
      | none =>
          dsimp only [Option.toList_none, List.nil_append]
          cases (Reading.mk segments last ending).faults template
            (before ++ segment.text) <;> rfl

/-- A text node. -/
def IsText : TemplateNode → Prop
  | .text _ => True
  | .placeholder _ => False

/-- Nodes without empty text and without neighbouring texts. -/
structure Separated (nodes : List TemplateNode) : Prop where
  nonempty : ∀ text, .text text ∈ nodes → text ≠ ""
  apart : nodes.IsChain fun left right => ¬ (IsText left ∧ IsText right)

namespace Separated

variable {nodes : List TemplateNode} {expression : Expression}

theorem placeholder (separated : Separated nodes) :
    Separated (.placeholder expression :: nodes) := by
  constructor
  · intro text member
    rcases List.mem_cons.mp member with same | later
    · cases same
    · exact separated.nonempty text later
  · refine List.isChain_cons.mpr ⟨?_, separated.apart⟩
    rintro next - ⟨isText, -⟩
    exact isText

theorem text_ne_empty (item : TextItem) (run : List TextItem) :
    String.ofList (runCharacters (item :: run)) ≠ "" := by
  intro empty
  have characters := congrArg String.toList empty
  rw [String.toList_ofList] at characters
  cases characters

theorem run (run : List TextItem) : Separated (runNodes run) := by
  cases run with
  | nil => exact ⟨nofun, .nil⟩
  | cons item run =>
      refine ⟨?_, .singleton _⟩
      intro text member
      cases List.mem_singleton.mp member
      exact text_ne_empty item run

theorem run_placeholder (run : List TextItem) (separated : Separated nodes) :
    Separated (runNodes run ++ [.placeholder expression] ++ nodes) := by
  rw [List.append_assoc, List.singleton_append]
  have following : Separated (.placeholder expression :: nodes) :=
    separated.placeholder
  cases run with
  | nil => exact following
  | cons item run =>
      constructor
      · intro text member
        rcases List.mem_cons.mp member with same | later
        · cases same
          exact text_ne_empty item run
        · exact following.nonempty text later
      · refine List.isChain_cons.mpr ⟨?_, following.apart⟩
        rintro next head ⟨-, isText⟩
        cases head
        exact isText

end Separated

theorem Placeholder.exists_expression
    {placeholder : Placeholder} (sound : placeholder.fault? = none) :
    ∃ expression, placeholder.expression = .ok expression ∧
      placeholder.nodes = [.placeholder expression] := by
  rw [fault?] at sound
  rw [nodes]
  cases read : placeholder.expression with
  | ok expression => exact ⟨expression, rfl, rfl⟩
  | error error =>
      rw [read] at sound
      cases sound

/-- The runs of a reading are apart: between two of them is the expression of a
placeholder. -/
theorem Reading.separated
    {reading : Reading} {before : List Char}
    (sound : reading.faults template before = []) :
    Separated (reading.nodes template before) := by
  rcases reading with ⟨segments, last, ending⟩
  induction segments generalizing before with
  | nil => exact Separated.run last
  | cons segment segments ih =>
      have faults :=
        faults_cons template before segment ⟨segments, last, ending⟩
      have nodes := nodes_cons template before segment ⟨segments, last, ending⟩
      rw [cons] at faults nodes
      rw [faults] at sound
      rcases List.append_eq_nil_iff.mp sound with ⟨first, others⟩
      rcases Placeholder.exists_expression (Option.toList_eq_nil_iff.mp first)
        with ⟨expression, -, single⟩
      rw [nodes, single]
      exact Separated.run_placeholder segment.run (ih others)

/--
Segmentation is exact.  Every source has one reading.  Parsing it is an error
exactly when a placeholder has no end or its content is no expression, and then
it is the first such error with the line of its opening brace; otherwise the
nodes are one text for each run that is not empty and one expression for each
placeholder, no texts are neighbours, and all expressions inside a placeholder
know the line of its opening brace.
-/
theorem parse_eq_reading (template source : String) :
    ∃ reading : Reading,
      (reading.Valid ∧ reading.text = source.toList ∧
        ∀ other : Reading, other.Valid → other.text = source.toList →
          other = reading) ∧
      (∀ fault, TemplateNode.parse template source = .error fault ↔
        (reading.faults template []).head? = some fault) ∧
      (∀ nodes, TemplateNode.parse template source = .ok nodes ↔
        reading.faults template [] = [] ∧ nodes = reading.nodes template []) ∧
      (reading.faults template [] = [] →
        Separated (reading.nodes template [])) ∧
      (∀ one ∈ placed template [] reading.segments, ∀ expression,
        one.2.expression = .ok expression →
          ∀ inner ∈ expression.withArguments, inner.origin = one.2.origin) := by
  rcases exists_reading source.toList with ⟨reading, valid, split⟩
  have parsed : TemplateNode.parse template source =
      reading.outcome template [] := by
    rw [TemplateNode.parse, ← split]
    exact ofSource_reading valid []
  refine ⟨reading, ⟨valid, split, ?unique⟩, ?faults, ?nodes, Reading.separated,
    ?origins⟩
  case unique =>
    intro other valid' split'
    exact Reading.unique valid' valid (split'.trans split.symm)
  case faults =>
    intro fault
    rw [parsed, Reading.outcome]
    cases (reading.faults template []).head? with
    | none => exact iff_of_false nofun nofun
    | some first =>
        constructor
        · rintro ⟨⟩
          rfl
        · rintro ⟨⟩
          rfl
  case nodes =>
    intro nodes
    rw [parsed, Reading.outcome]
    cases reading.faults template [] with
    | nil =>
        constructor
        · rintro ⟨⟩
          exact ⟨rfl, rfl⟩
        · rintro ⟨-, rfl⟩
          rfl
    | cons first others => exact iff_of_false nofun nofun
  case origins =>
    intro one _ expression read
    rcases Grammar.Derivation.exists_of_parse read with ⟨derivation, -, rfl⟩
    exact derivation.tree.origins _

end Segmentation

end Phrasebook
