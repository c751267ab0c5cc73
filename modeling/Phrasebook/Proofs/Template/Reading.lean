import Phrasebook.Proofs.Template.Content

/-!
# Readings of template sources

A source is read as runs of text with placeholders between them.  In a run a
character stands by itself, or an opening brace after a backslash; a run ends
where an opening brace starts a placeholder, or at the end of the source.  The
last placeholder may be without an end.  Every source has exactly one reading,
and which characters belong to a run depends on nothing but the character after
them.
-/

namespace Phrasebook

namespace Segmentation

open TemplateNode (opensBefore)

/-- A character of a run: any character by itself, or an opening brace after a
backslash. -/
inductive TextItem where
  | plain (character : Char)
  | brace

namespace TextItem

/-- The character that an item contributes. -/
def character : TextItem → Char
  | .plain character => character
  | .brace => '\x7b'

/-- How an item is written. -/
def text : TextItem → List Char
  | .plain character => [character]
  | .brace => ['\\', '\x7b']

/-- An item before a character, or before the end: no backslash stands by itself
before an opening brace, and no opening brace by itself before a character that
a placeholder can start with. -/
def Fits (next : Option Char) : TextItem → Prop
  | .plain character =>
    (character = '\\' → next ≠ some '\x7b') ∧
      (character = '\x7b' → ∀ first, next = some first →
        opensBefore first = false)
  | .brace => True

end TextItem

/-- A text that a placeholder can start with. -/
def Opens (text : List Char) : Prop :=
  ∃ first rest, text = first :: rest ∧ opensBefore first = true

/-- A closing brace starts no placeholder. -/
theorem Opens.of_append
    {text rest : List Char} (opens : Opens (text ++ '\x7d' :: rest)) :
    Opens text := by
  rcases opens with ⟨first, following, split, starts⟩
  cases text with
  | nil =>
      rcases (List.cons.inj split).1 with rfl
      cases starts
  | cons character text =>
      rcases (List.cons.inj split).1 with rfl
      exact ⟨character, text, rfl, starts⟩

def runText (run : List TextItem) : List Char :=
  run.flatMap TextItem.text

/-- The characters that a run contributes. -/
def runCharacters (run : List TextItem) : List Char :=
  run.map TextItem.character

/-- A run before a character, or before the end. -/
def RunFits (next : Option Char) : List TextItem → Prop
  | [] => True
  | item :: rest => item.Fits ((runText rest).head?.or next) ∧ RunFits next rest

/-- What follows a run: nothing, or an opening brace that starts a
placeholder. -/
inductive Breaks : List Char → Prop where
  | finished : Breaks []
  | opens {text : List Char} : Opens text → Breaks ('\x7b' :: text)

section Runs

variable {run run' : List TextItem} {rest rest' : List Char}

theorem runText_cons (item : TextItem) (run : List TextItem) :
    runText (item :: run) = item.text ++ runText run :=
  List.flatMap_cons

theorem runText_cons_append (item : TextItem) :
    runText (item :: run) ++ rest = item.text ++ (runText run ++ rest) := by
  rw [runText_cons, List.append_assoc]

/-- No item that fits starts where a run ends. -/
theorem item_ne_break
    {item : TextItem} (fits : item.Fits rest.head?) (breaks : Breaks rest') :
    item.text ++ rest ≠ rest' := by
  intro same
  cases breaks with
  | finished => cases item <;> cases same
  | opens opens =>
      rcases opens with ⟨first, following, rfl, starts⟩
      cases item with
      | plain character =>
          rcases List.cons.inj same with ⟨rfl, rfl⟩
          have stays := fits.2 rfl first rfl
          rw [starts] at stays
          cases stays
      | brace => cases (List.cons.inj same).1

/-- An item by itself is no brace after a backslash. -/
theorem plain_ne_brace
    {character : Char} (fits : (TextItem.plain character).Fits rest.head?) :
    (TextItem.plain character).text ++ rest ≠ TextItem.brace.text ++ rest' := by
  intro same
  rcases List.cons.inj same with ⟨rfl, rfl⟩
  exact fits.1 rfl rfl

/-- The first item of a run is determined by the text. -/
theorem textItem_unique
    {item item' : TextItem} (fits : item.Fits rest.head?)
    (fits' : item'.Fits rest'.head?)
    (same : item.text ++ rest = item'.text ++ rest') :
    item = item' ∧ rest = rest' := by
  cases item with
  | plain character =>
      cases item' with
      | plain character' =>
          rcases List.cons.inj same with ⟨rfl, rfl⟩
          exact ⟨rfl, rfl⟩
      | brace => exact (plain_ne_brace fits same).elim
  | brace =>
      cases item' with
      | plain character' => exact (plain_ne_brace fits' same.symm).elim
      | brace => exact ⟨rfl, List.append_cancel_left same⟩

/-- A text starts with one run only. -/
theorem textRun_unique
    (fits : RunFits rest.head? run) (breaks : Breaks rest)
    (fits' : RunFits rest'.head? run') (breaks' : Breaks rest')
    (same : runText run ++ rest = runText run' ++ rest') :
    run = run' ∧ rest = rest' := by
  induction run generalizing run' with
  | nil =>
      cases run' with
      | nil => exact ⟨rfl, same⟩
      | cons item' run' =>
          rcases fits' with ⟨first', -⟩
          rw [← List.head?_append] at first'
          rw [runText_cons_append] at same
          exact (item_ne_break first' breaks same.symm).elim
  | cons item run ih =>
      rcases fits with ⟨first, others⟩
      rw [← List.head?_append] at first
      rw [runText_cons_append] at same
      cases run' with
      | nil => exact (item_ne_break first breaks' same).elim
      | cons item' run' =>
          rcases fits' with ⟨first', others'⟩
          rw [← List.head?_append] at first'
          rw [runText_cons_append] at same
          rcases textItem_unique first first' same with ⟨rfl, following⟩
          rcases ih others others' following with ⟨rfl, rfl⟩
          exact ⟨rfl, rfl⟩

end Runs

/-- A character starts a placeholder, is an escaped brace, or stands by
itself. -/
theorem exists_item (character : Char) (text : List Char) :
    Breaks (character :: text) ∨
      ∃ (item : TextItem) (rest : List Char),
        character :: text = item.text ++ rest ∧ item.Fits rest.head? ∧
          rest.length < (character :: text).length := by
  by_cases opening : character = '\x7b' ∧ Opens text
  · rcases opening with ⟨rfl, opens⟩
    exact .inl (.opens opens)
  · by_cases escape : character = '\\' ∧ text.head? = some '\x7b'
    · rcases escape with ⟨rfl, next⟩
      rcases List.head?_eq_some_iff.mp next with ⟨rest, rfl⟩
      exact .inr ⟨.brace, rest, rfl,
        trivial, by simp only [List.length_cons]; omega⟩
    · refine .inr ⟨.plain character, text, rfl, ⟨?_, ?_⟩, by simp⟩
      · exact fun backslash next => escape ⟨backslash, next⟩
      · intro brace first next
        rcases List.head?_eq_some_iff.mp next with ⟨rest, rfl⟩
        exact Bool.eq_false_iff.mpr fun starts =>
          opening ⟨brace, first, rest, rfl, starts⟩

/-- Every text starts with a run. -/
theorem exists_run (text : List Char) :
    ∃ (run : List TextItem) (rest : List Char),
      text = runText run ++ rest ∧ RunFits rest.head? run ∧ Breaks rest := by
  cases text with
  | nil => exact ⟨[], [], rfl, trivial, .finished⟩
  | cons character text =>
      rcases exists_item character text with
        breaks | ⟨item, following, split, fits, shorter⟩
      · exact ⟨[], character :: text, rfl, trivial, breaks⟩
      · rcases exists_run following with ⟨run, rest, rfl, others, breaks⟩
        refine ⟨item :: run, rest, ?_, ⟨?_, others⟩, breaks⟩
        · rw [split, runText_cons_append]
        · rwa [← List.head?_append]
  termination_by text.length
  decreasing_by exact shorter

/-- A run and the placeholder that ends it. -/
structure Segment where
  run : List TextItem
  content : List Stretch

namespace Segment

def text (segment : Segment) : List Char :=
  runText segment.run ++ '\x7b' :: (contentText segment.content ++ ['\x7d'])

/-- The run goes on to the placeholder, which starts with its content and ends
at the first closing brace outside quotes. -/
structure Valid (segment : Segment) : Prop where
  run : RunFits (some '\x7b') segment.run
  opens : Opens (contentText segment.content)
  content : ∀ stretch ∈ segment.content, stretch.Fits

theorem text_append (segment : Segment) (rest : List Char) :
    segment.text ++ rest =
      runText segment.run ++ '\x7b' ::
        (contentText segment.content ++ '\x7d' :: rest) := by
  rw [text, List.append_assoc, List.cons_append, List.append_assoc,
    List.singleton_append]

theorem Valid.fits
    {segment : Segment} (valid : segment.Valid) (rest : List Char) :
    RunFits ('\x7b' :: (contentText segment.content ++ '\x7d' :: rest)).head?
      segment.run :=
  valid.run

theorem Valid.breaks
    {segment : Segment} (valid : segment.Valid) (rest : List Char) :
    Breaks ('\x7b' :: (contentText segment.content ++ '\x7d' :: rest)) := by
  rcases valid.opens with ⟨first, others, split, starts⟩
  refine .opens ⟨first, others ++ '\x7d' :: rest, ?_, starts⟩
  rw [split, List.cons_append]

end Segment

/-- How a source ends: after a run, or in a placeholder without an end. -/
inductive Ending where
  | finished
  | unterminated (content : List Char)

namespace Ending

def text : Ending → List Char
  | .finished => []
  | .unterminated content => '\x7b' :: content

/-- A placeholder without an end has no closing brace outside quotes. -/
def Valid : Ending → Prop
  | .finished => True
  | .unterminated content =>
    Opens content ∧
      ∀ (inside : List Stretch) (rest : List Char),
        (∀ stretch ∈ inside, stretch.Fits) →
          content ≠ contentText inside ++ '\x7d' :: rest

theorem Valid.breaks {ending : Ending} (valid : ending.Valid) :
    Breaks ending.text := by
  cases ending with
  | finished => exact .finished
  | unterminated content => exact .opens valid.1

end Ending

/-- A reading of a source: the runs that a placeholder ends, the last run, and
how the source ends. -/
structure Reading where
  segments : List Segment
  last : List TextItem
  ending : Ending

namespace Reading

/-- The text of segments. -/
def segmentsText (segments : List Segment) : List Char :=
  segments.flatMap Segment.text

def text (reading : Reading) : List Char :=
  segmentsText reading.segments ++ (runText reading.last ++ reading.ending.text)

structure Valid (reading : Reading) : Prop where
  segments : ∀ segment ∈ reading.segments, segment.Valid
  last : RunFits reading.ending.text.head? reading.last
  ending : reading.ending.Valid

/-- A reading with one more segment in front. -/
def cons (segment : Segment) (reading : Reading) : Reading :=
  ⟨segment :: reading.segments, reading.last, reading.ending⟩

theorem text_cons (segment : Segment) (reading : Reading) :
    (cons segment reading).text = segment.text ++ reading.text := by
  rw [text, cons, segmentsText, List.flatMap_cons, List.append_assoc]
  rfl

theorem Valid.cons
    {segment : Segment} {reading : Reading} (first : segment.Valid)
    (valid : reading.Valid) : (cons segment reading).Valid :=
  ⟨List.forall_mem_cons.mpr ⟨first, valid.segments⟩, valid.last, valid.ending⟩

/-- A segment is no end of a source. -/
theorem ending_ne_segment
    {last : List TextItem} {ending : Ending} {segment : Segment}
    {rest : List Char} (fits : RunFits ending.text.head? last)
    (ends : ending.Valid) (valid : segment.Valid) :
    runText last ++ ending.text ≠ segment.text ++ rest := by
  intro same
  rw [segment.text_append] at same
  rcases textRun_unique fits ends.breaks (valid.fits rest) (valid.breaks rest)
    same with ⟨-, closed⟩
  cases ending with
  | finished => cases closed
  | unterminated content =>
      exact ends.2 segment.content rest valid.content (List.cons.inj closed).2

/-- The first segment is determined by the text. -/
theorem segment_unique
    {segment segment' : Segment} {rest rest' : List Char}
    (valid : segment.Valid) (valid' : segment'.Valid)
    (same : segment.text ++ rest = segment'.text ++ rest') :
    segment = segment' ∧ rest = rest' := by
  rcases segment with ⟨run, content⟩
  rcases segment' with ⟨run', content'⟩
  rw [Segment.text_append, Segment.text_append] at same
  rcases textRun_unique (valid.fits rest) (valid.breaks rest)
    (valid'.fits rest')
    (valid'.breaks rest') same with ⟨rfl, closed⟩
  rcases content_unique valid.content valid'.content
    (List.cons.inj closed).2 with ⟨rfl, rfl⟩
  exact ⟨rfl, rfl⟩

/-- The last run and the ending are determined by the text. -/
theorem ending_unique
    {last last' : List TextItem} {ending ending' : Ending}
    (fits : RunFits ending.text.head? last) (ends : ending.Valid)
    (fits' : RunFits ending'.text.head? last') (ends' : ending'.Valid)
    (same : runText last ++ ending.text = runText last' ++ ending'.text) :
    last = last' ∧ ending = ending' := by
  rcases textRun_unique fits ends.breaks fits' ends'.breaks same with
    ⟨rfl, left⟩
  cases ending with
  | finished =>
      cases ending' with
      | finished => exact ⟨rfl, rfl⟩
      | unterminated content' => cases left
  | unterminated content =>
      cases ending' with
      | finished => cases left
      | unterminated content' =>
          rcases (List.cons.inj left).2 with rfl
          exact ⟨rfl, rfl⟩

/-- No source has two readings. -/
theorem unique
    {reading reading' : Reading} (valid : reading.Valid)
    (valid' : reading'.Valid) (same : reading.text = reading'.text) :
    reading = reading' := by
  rcases reading with ⟨segments, last, ending⟩
  rcases reading' with ⟨segments', last', ending'⟩
  induction segments generalizing segments' with
  | nil =>
      cases segments' with
      | nil =>
          rcases ending_unique valid.last valid.ending valid'.last valid'.ending
            same with ⟨rfl, rfl⟩
          rfl
      | cons segment' segments' =>
          have rest := text_cons segment' ⟨segments', last', ending'⟩
          have first' := valid'.segments segment' List.mem_cons_self
          exact
            (ending_ne_segment valid.last valid.ending first'
              (same.trans rest)).elim
  | cons segment segments ih =>
      rcases List.forall_mem_cons.mp valid.segments with ⟨first, others⟩
      have rest := text_cons segment ⟨segments, last, ending⟩
      cases segments' with
      | nil =>
          exact
            (ending_ne_segment valid'.last valid'.ending first
              (same.symm.trans rest)).elim
      | cons segment' segments' =>
          rcases List.forall_mem_cons.mp valid'.segments with ⟨first', others'⟩
          have rest' := text_cons segment' ⟨segments', last', ending'⟩
          rcases segment_unique first first'
            (rest.symm.trans (same.trans rest'))
            with ⟨rfl, following⟩
          cases ih ⟨others, valid.last, valid.ending⟩ segments'
            ⟨others', valid'.last, valid'.ending⟩ following
          rfl

end Reading

/-- Every source has a reading. -/
theorem exists_reading (source : List Char) :
    ∃ reading : Reading, reading.Valid ∧ reading.text = source := by
  induction size : source.length using Nat.strongRecOn generalizing source with
  | ind bound ih =>
      rcases exists_run source with ⟨run, rest, rfl, fits, breaks⟩
      cases breaks with
      | finished =>
          exact ⟨⟨[], run, .finished⟩,
            ⟨List.forall_mem_nil _, fits, trivial⟩, rfl⟩
      | @opens text opens =>
          by_cases closes :
            ∃ (content : List Stretch) (rest : List Char),
              (∀ stretch ∈ content, stretch.Fits) ∧
                text = contentText content ++ '\x7d' :: rest
          · rcases closes with ⟨content, rest, inside, rfl⟩
            have shorter : rest.length < bound := by
              rw [← size]
              simp only [List.length_append, List.length_cons]
              omega
            rcases ih rest.length shorter rest rfl with ⟨reading, valid, rfl⟩
            refine ⟨.cons ⟨run, content⟩ reading,
              .cons ⟨fits, opens.of_append, inside⟩ valid, ?_⟩
            rw [Reading.text_cons, Segment.text_append]
          · refine ⟨⟨[], run, .unterminated text⟩,
              ⟨List.forall_mem_nil _, fits, opens, ?_⟩, rfl⟩
            intro content rest inside split
            exact closes ⟨content, rest, inside, split⟩

end Segmentation

end Phrasebook
