import Phrasebook.Expression.Parser
import Phrasebook.Proofs.Template.Closing

/-!
# Reading at byte positions

A reader keeps a byte position in its source.  It looks at single bytes, at any
position, and takes pieces of the source between two positions.  A piece whose
ends are out of order, out of bounds or inside a character is a panic, and a
panic has no result.  The pieces that were taken and the calls that were made
are recorded.

A position is described by the text behind it.  A rule for each step of a reader
says how that text shortens, and a program follows a reading of characters step
by step.
-/

namespace Phrasebook

namespace Slicing

open Segmentation
  (bytes bytes_append bytes_narrow bytes_wide exists_bytes length_bytes)

/-- A place of a text that is not inside a character. -/
abbrev IsBoundary (text : String) (position : Nat) : Prop :=
  (String.Pos.Raw.mk position).IsValid text

/-- What is recorded of a run: the pieces that were taken of a text, how many
calls a call stood in, and the positions before and after a successful call. -/
inductive Event where
  | slice (text : String) (start stop : Nat)
  | entered (text : String) (depth : Nat)
  | advanced (text : String) (start stop : Nat)

namespace Event

def text : Event → String
  | slice text _ _ => text
  | entered text _ => text
  | advanced text _ _ => text

/-- A piece has its ends in order, in the text and between characters, calls are
not nested deeper than the text is long, and a successful call gets further in
the text. -/
def Fits : Event → Prop
  | slice text start stop =>
    start ≤ stop ∧ stop ≤ text.utf8ByteSize ∧ IsBoundary text start ∧
      IsBoundary text stop
  | entered text depth => depth ≤ text.utf8ByteSize
  | advanced text start stop => start < stop ∧ stop ≤ text.utf8ByteSize

/-- An event as it should be, in a text of bounded size. -/
structure Sound (limit : Nat) (event : Event) : Prop where
  bounded : event.text.utf8ByteSize ≤ limit
  fits : event.Fits

end Event

/-- Programs that record events.  Without a result one has panicked, or has run
out of fuel. -/
abbrev Traced :=
  StateT (List Event) Option

/-- Programs at a byte position that fail with a message. -/
abbrev Reader :=
  ExceptT String (StateT Nat Traced)

def record (event : Event) : Traced Unit :=
  modify (· ++ [event])

/-- The piece of a text between two positions. -/
def slice (text : String) (start stop : Nat) : Traced String := do
  record (.slice text start stop)
  if inside : start ≤ stop ∧ IsBoundary text start ∧ IsBoundary text stop then
    return text.extract (text.pos ⟨start⟩ inside.2.1)
      (text.pos ⟨stop⟩ inside.2.2)
  else
    failure

/-- Whether a byte is a character of ASCII that passes a test. -/
def onByte (test : Char → Bool) (byte : UInt8) : Bool :=
  decide (byte.toNat ≤ 0x7f) && test (Char.ofNat byte.toNat)

section Readers

variable (source : String)

/-- The byte at the position. -/
def peek : Reader (Option UInt8) :=
  return (bytes source.toList)[← get]?

/-- Whether there is a byte at the position that passes a test. -/
def sees (test : Char → Bool) : Reader Bool :=
  return (← peek source).any (onByte test)

def advance : Reader Unit :=
  modify (· + 1)

/-- Goes on, byte by byte, to the first one that does not pass a test. -/
def skipWhile (test : Char → Bool) : Reader Unit :=
  modify fun position =>
    position +
      (((bytes source.toList).drop position).takeWhile (onByte test)).length

/-- A call, with the number of calls that it stands in. -/
def call {α : Type} (depth : Nat) (body : Reader α) : Reader α := do
  record (.entered source depth)
  let start ← get
  let value ← body
  record (.advanced source start (← get))
  return value

end Readers

/-- There is no result when no fuel is left. -/
def exhausted {α : Type} : Reader α :=
  liftM (failure : Traced α)

/-- The position before the last part of a source. -/
def place (source : String) (rest : List Char) : Nat :=
  source.utf8ByteSize - (bytes rest).length

section Places

variable {source : String} {before text rest after : List Char}
  {character : Char}

/-- The place in front of a suffix is the number of bytes in front of it. -/
theorem place_of_split (split : source.toList = before ++ rest) :
    place source rest = (bytes before).length := by
  rw [place, ← length_bytes, split, bytes_append, List.length_append,
    Nat.add_sub_cancel]

theorem place_nil (source : String) : place source [] = source.utf8ByteSize :=
  rfl

theorem place_le (source : String) (rest : List Char) :
    place source rest ≤ source.utf8ByteSize :=
  Nat.sub_le _ _

theorem place_source (source : String) : place source source.toList = 0 := by
  rw [place, length_bytes, Nat.sub_self]

/-- A place moves on by the bytes that are read. -/
theorem place_append (inside : text ++ rest <:+ source.toList) :
    place source (text ++ rest) + (bytes text).length = place source rest := by
  rcases inside with ⟨before, split⟩
  have split' : source.toList = (before ++ text) ++ rest := by
    rw [List.append_assoc, split]
  rw [place_of_split split.symm, place_of_split split', bytes_append,
    List.length_append]

theorem place_narrow (inside : character :: rest <:+ source.toList)
    (narrow : character.toNat ≤ 0x7f) :
    place source (character :: rest) + 1 = place source rest := by
  have passed :=
    place_append (show [character] ++ rest <:+ source.toList from inside)
  rwa [bytes_narrow narrow, List.length_singleton, List.singleton_append]
    at passed

theorem length_bytes_narrow
    (narrow : character.toNat ≤ 0x7f) (rest : List Char) :
    (bytes (character :: rest)).length = (bytes rest).length + 1 := by
  rw [← List.singleton_append, bytes_append, bytes_narrow narrow,
    List.singleton_append, List.length_cons]

/-- Each character has a byte. -/
theorem length_le_bytes
    (text : List Char) : text.length ≤ (bytes text).length := by
  induction text with
  | nil => rfl
  | cons character text ih =>
      rcases exists_bytes character with ⟨byte, others, encoded, -⟩
      have split := bytes_append [character] text
      rw [List.singleton_append, encoded] at split
      rw [split, List.length_append, List.length_cons, List.length_cons]
      omega

theorem place_suffix
    (inside : rest <:+ source.toList) (further : after <:+ rest) :
    place source rest + (rest.length - after.length) ≤ place source after := by
  rcases further with ⟨passed, rfl⟩
  have behind := place_append inside
  have enough := length_le_bytes passed
  rw [List.length_append]
  omega

/-- Reading a character moves the place on. -/
theorem place_lt (inside : rest <:+ source.toList) (further : after <:+ rest)
    (shorter : after.length < rest.length) :
    place source rest < place source after := by
  have := place_suffix inside further
  omega

theorem drop_place (inside : rest <:+ source.toList) :
    (bytes source.toList).drop (place source rest) = bytes rest := by
  rcases inside with ⟨before, split⟩
  rw [place_of_split split.symm, ← split, bytes_append, List.drop_left]

/-- The byte at a place is the first byte of the text left there. -/
theorem getElem?_place (inside : rest <:+ source.toList) (count : Nat) :
    (bytes source.toList)[place source rest + count]? =
      (bytes rest)[count]? := by
  rw [← List.getElem?_drop, drop_place inside]

end Places

section Bytes

variable {character : Char} {rest : List Char} {test : Char → Bool}

/-- A test that no character beyond ASCII passes. -/
def Ascii (test : Char → Bool) : Prop :=
  ∀ character, test character = true → character.toNat ≤ 0x7f

/-- An ASCII character is compared as its byte. -/
theorem ascii_beq {character : Char} (narrow : character.toNat ≤ 0x7f) :
    Ascii (· == character) := by
  intro character' same
  rwa [beq_iff_eq.mp same]

theorem toNat_first
    {byte : UInt8} {others : List UInt8} (narrow : character.toNat ≤ 0x7f)
    (encoded : bytes [character] = byte :: others) :
    byte.toNat = character.toNat := by
  rw [bytes_narrow narrow] at encoded
  rcases (List.cons.inj encoded).1 with rfl
  rw [UInt8.toNat_ofNat', Nat.mod_eq_of_lt (by omega)]

/-- The first byte of a character passes a test of ASCII where the character
does. -/
theorem onByte_first {byte : UInt8} {others : List UInt8} (ascii : Ascii test)
    (encoded : bytes [character] = byte :: others) :
    onByte test byte = test character := by
  by_cases narrow : character.toNat ≤ 0x7f
  · rw [onByte, toNat_first narrow encoded, Char.ofNat_toNat,
      decide_eq_true narrow, Bool.true_and]
  · have beyond : 0x7f < byte.toNat :=
      bytes_wide narrow byte (encoded ▸ List.mem_cons_self)
    have fails : test character = false :=
      Bool.eq_false_iff.mpr fun passes => narrow (ascii character passes)
    rw [onByte, decide_eq_false (Nat.not_le_of_lt beyond),
      Bool.false_and, fails]

/-- Every character has a first byte. -/
theorem exists_first (character : Char) (rest : List Char) :
    ∃ byte others, bytes [character] = byte :: others ∧
      (bytes (character :: rest))[0]? = some byte := by
  rcases exists_bytes character with ⟨byte, others, encoded, -⟩
  have split := bytes_append [character] rest
  rw [List.singleton_append, encoded] at split
  exact ⟨byte, others,
    encoded, by rw [split, List.cons_append, List.getElem?_cons_zero]⟩

/-- A test of ASCII characters can be made on the first byte. -/
theorem any_onByte (ascii : Ascii test) (rest : List Char) :
    (bytes rest)[0]?.any (onByte test) = rest.head?.any test := by
  cases rest with
  | nil => rfl
  | cons character rest =>
      rcases exists_first character rest with ⟨byte, others, encoded, first⟩
      rw [first, Option.any_some, onByte_first ascii encoded, List.head?_cons,
        Option.any_some]

/-- The bytes up to the first one that fails a test are those of the characters
up to the first such one. -/
theorem takeWhile_onByte (ascii : Ascii test) (text : List Char) :
    (bytes text).takeWhile (onByte test) = bytes (text.takeWhile test) := by
  induction text with
  | nil => rfl
  | cons character text ih =>
      rcases exists_bytes character with ⟨byte, others, encoded, -⟩
      have split (text : List Char) : bytes (character :: text) =
          byte :: (others ++ bytes text) := by
        rw [← List.singleton_append, bytes_append, encoded, List.cons_append]
      rw [split, List.takeWhile_cons, List.takeWhile_cons,
        onByte_first ascii encoded]
      cases passes : test character with
      | false => rfl
      | true =>
          have single : others = [] := by
            rw [bytes_narrow (ascii character passes)] at encoded
            exact (List.cons.inj encoded).2.symm
          rw [if_pos rfl, if_pos rfl, split, single, List.nil_append,
            List.nil_append, ih]

end Bytes

/-- A program gets a result without a panic, and records sound events only. -/
def Safe {α : Type} (limit : Nat) (program : Traced α) (result : α) : Prop :=
  ∀ log, ∃ events, program log = some (result, log ++ events) ∧
    ∀ event ∈ events, event.Sound limit

namespace Safe

variable {α β : Type} {limit larger : Nat} {program : Traced α}
  {next : α → Traced β}
  {result : α} {last : β}

theorem pure (limit : Nat) (result : α) : Safe limit (pure result) result := by
  intro log
  refine ⟨[], ?_, List.forall_mem_nil _⟩
  rw [List.append_nil]
  rfl

theorem bind
    (first : Safe limit program result)
    (second : Safe limit (next result) last) :
    Safe limit (program >>= next) last := by
  intro log
  rcases first log with ⟨events, run, sound⟩
  rcases second (log ++ events) with ⟨events', run', sound'⟩
  refine ⟨events ++ events', ?_, List.forall_mem_append.mpr ⟨sound, sound'⟩⟩
  change (program log).bind (fun done => next done.1 done.2) = _
  rw [run, Option.bind_some, run', List.append_assoc]

theorem record {event : Event} (sound : event.Sound limit) :
    Safe limit (record event) () := by
  intro log
  exact ⟨[event], rfl, List.forall_mem_singleton.mpr sound⟩

theorem mono (bounded : limit ≤ larger) (safe : Safe limit program result) :
    Safe larger program result := by
  intro log
  rcases safe log with ⟨events, run, sound⟩
  exact ⟨events, run, fun event member =>
    ⟨(sound event member).bounded.trans bounded, (sound event member).fits⟩⟩

end Safe

section Slices

variable {source : String} {before text rest : List Char} {limit : Nat}

/-- The position before the last part of a source is between characters. -/
theorem isBoundary_place (inside : rest <:+ source.toList) :
    IsBoundary source (place source rest) := by
  rcases inside with ⟨before, split⟩
  refine String.Pos.Raw.isValid_iff_exists_append.mpr ⟨String.ofList before,
    String.ofList rest, ?_, ?_⟩
  · rw [← String.ofList_append, split, String.ofList_toList]
  · rw [place_of_split split.symm, ← String.toList_ofList (l := before),
      length_bytes, String.toList_ofList]
    rfl

/-- The bytes between two positions are the characters between them. -/
theorem extract_place
    (inside : text ++ rest <:+ source.toList)
    (start : IsBoundary source (place source (text ++ rest)))
    (stop : IsBoundary source (place source rest)) :
    source.extract (source.pos ⟨place source (text ++ rest)⟩ start)
      (source.pos ⟨place source rest⟩ stop) =
      String.ofList text := by
  have size (characters : List Char) :
      (bytes characters).length =
          (String.ofList characters).toByteArray.size := by
    rw [← String.toList_ofList (l := characters), length_bytes,
      String.toList_ofList]
    rfl
  have behind := place_append inside
  rcases inside with ⟨before, split⟩
  have encoded :
      source.toByteArray =
        (String.ofList before).toByteArray ++
          ((String.ofList text).toByteArray ++
              (String.ofList rest).toByteArray) := by
    rw [← String.toByteArray_append, ← String.toByteArray_append,
      ← String.ofList_append, ← String.ofList_append, split,
      String.ofList_toList]
  apply String.toByteArray_inj.mp
  change source.toByteArray.extract (place source (text ++ rest))
    (place source rest) = _
  rw [← behind, place_of_split split.symm, size before, size text, encoded]
  exact (ByteArray.extract_append_size_add (i := 0)).trans
    (ByteArray.extract_append_eq_left rfl)

/-- A piece of a source is taken between the positions before and behind it. -/
theorem Safe.slice
    (inside : text ++ rest <:+ source.toList)
    (bounded : source.utf8ByteSize ≤ limit) :
    Safe limit (slice source (place source (text ++ rest)) (place source rest))
      (String.ofList text) := by
  have start := isBoundary_place inside
  have stop := isBoundary_place ((List.suffix_append text rest).trans inside)
  have ordered : place source (text ++ rest) ≤ place source rest :=
    Nat.le.intro (place_append inside)
  have sound :
      (Event.slice source (place source (text ++ rest))
          (place source rest)).Sound limit :=
    ⟨bounded, ordered, place_le source rest, start, stop⟩
  refine (Safe.record sound).bind ?_
  rw [dif_pos ⟨ordered, start, stop⟩, extract_place inside]
  exact Safe.pure limit _

end Slices

/-- A reader goes on where another one stopped, unless that one failed. -/
theorem run_bind
    {α β : Type} (program : Reader α) (next : α → Reader β) (position : Nat) :
    (program >>= next).run.run position =
      program.run.run position >>= fun done =>
        match done.1 with
        | .ok value => (next value).run.run done.2
        | .error message => pure (.error message, done.2) := by
  rw [ExceptT.run_bind, StateT.run_bind]
  congr 1
  funext done
  rcases done with ⟨_ | _, _⟩ <;> rfl

theorem run_lift {α : Type} (program : Traced α) (position : Nat) :
    (liftM program : Reader α).run.run position = program >>= fun value =>
      pure (.ok value, position) := by
  simp [liftM, monadLift, MonadLift.monadLift]

/-- A reader before a text does what a reading of that text does: it gets the
value and stands before the same rest, or fails with the message of the
error. -/
def Reads {α : Type} (source : String) (program : Reader α) (rest : List Char) :
    Except ExpressionError (α × List Char) → Prop
  | .ok (value, after) =>
    after <:+ rest ∧
      Safe source.utf8ByteSize (program.run.run (place source rest)) (.ok value,
        place source after)
  | .error error =>
    ∃ stop,
      Safe source.utf8ByteSize (program.run.run (place source rest))
        (.error (error.message source), stop)

namespace Reads

variable {α β : Type} {source : String} {program : Reader α}
  {next : α → Reader β}
  {rest after : List Char} {value : α} {test : Char → Bool} {character : Char}

theorem pure (source : String) (value : α) (rest : List Char) :
    Reads source (pure value) rest (.ok (value, rest)) :=
  ⟨List.suffix_refl rest, Safe.pure _ _⟩

theorem throw (source : String) (error : ExpressionError) (rest : List Char) :
    Reads source (throw (error.message source) : Reader α) rest
      (.error error) :=
  ⟨_, Safe.pure _ _⟩

/-- After a step the reading goes on with the rest. -/
theorem step {outcome : Except ExpressionError (β × List Char)}
    (first : Reads source program rest (.ok (value, after)))
    (second : Reads source (next value) after outcome) :
    Reads source (program >>= next) rest outcome := by
  rcases first with ⟨further, first⟩
  cases outcome with
  | ok last =>
      refine ⟨second.1.trans further, ?_⟩
      rw [run_bind]
      exact first.bind second.2
  | error error =>
      rcases second with ⟨stop, second⟩
      refine ⟨stop, ?_⟩
      rw [run_bind]
      exact first.bind second

theorem fail
    {error : ExpressionError}
    (first : Reads source program rest (.error error)) :
    Reads source (program >>= next) rest (.error error) := by
  rcases first with ⟨stop, first⟩
  refine ⟨stop, ?_⟩
  rw [run_bind]
  exact first.bind (Safe.pure _ _)

theorem map {outcome : Except ExpressionError (α × List Char)} (f : α → β)
    (first : Reads source program rest outcome) :
    Reads source (program >>= fun value => Pure.pure (f value)) rest
      (outcome.map fun read => (f read.1, read.2)) := by
  cases outcome with
  | ok done => exact first.step (pure source _ done.2)
  | error error => exact first.fail

/-- One reading after another. -/
theorem bind {outcome : Except ExpressionError (α × List Char)}
    {following : α × List Char → Except ExpressionError (β × List Char)}
    (first : Reads source program rest outcome)
    (second : ∀ value after, outcome = .ok (value, after) → after <:+ rest →
      Reads source (next value) after (following (value, after))) :
    Reads source (program >>= next) rest (outcome.bind following) := by
  cases outcome with
  | ok done => exact first.step (second done.1 done.2 rfl first.1)
  | error error => exact first.fail

theorem lift
    {program : Traced α} (safe : Safe source.utf8ByteSize program value)
    (rest : List Char) :
    Reads source (liftM program : Reader α) rest (.ok (value, rest)) :=
  by
  refine ⟨List.suffix_refl rest, ?_⟩
  rw [run_lift]
  exact safe.bind (Safe.pure _ _)

theorem get (source : String) (rest : List Char) :
    Reads source (get : Reader Nat) rest (.ok (place source rest, rest)) :=
  ⟨List.suffix_refl rest, Safe.pure _ _⟩

theorem set (further : after <:+ rest) :
    Reads source (set (place source after) : Reader PUnit) rest
      (.ok ((), after)) :=
  ⟨further, Safe.pure _ _⟩

theorem peek (inside : rest <:+ source.toList) :
    Reads source (peek source) rest (.ok ((bytes rest)[0]?, rest)) := by
  have byte := getElem?_place inside 0
  rw [← byte]
  exact (get source rest).step (pure source _ rest)

/-- A test of the byte at the cursor is the test of the next character. -/
theorem sees (inside : rest <:+ source.toList) (ascii : Ascii test) :
    Reads source (sees source test) rest (.ok (rest.head?.any test, rest)) := by
  rw [← any_onByte ascii]
  exact (peek inside).step (pure source _ rest)

/-- A character of ASCII is one byte long. -/
theorem advance
    (inside : character :: rest <:+ source.toList)
    (narrow : character.toNat ≤ 0x7f) :
    Reads source advance (character :: rest) (.ok ((), rest)) := by
  refine ⟨List.suffix_cons character rest, ?_⟩
  rw [← place_narrow inside narrow]
  exact Safe.pure _ _

/-- A character is passed if it is there; if not, the position stays where it
is. -/
theorem branch
    {yes no : Reader α} {outcome : Except ExpressionError (α × List Char)}
    (inside : rest <:+ source.toList) (narrow : character.toNat ≤ 0x7f)
    (there : ∀ behind, rest = character :: behind →
      Reads source yes behind outcome)
    (elsewhere : (∀ behind, rest ≠ character :: behind) →
      Reads source no rest outcome) :
    Reads source
      (do if ← Slicing.sees source (· == character) then Slicing.advance; yes
          else no) rest outcome := by
  refine (sees inside (ascii_beq narrow)).step ?_
  cases rest with
  | nil => exact elsewhere nofun
  | cons first behind =>
      by_cases same : first = character
      · rcases same with rfl
        rw [List.head?_cons, Option.any_some, beq_self_eq_true, if_pos rfl]
        exact (advance inside narrow).step (there behind rfl)
      · rw [List.head?_cons, Option.any_some, beq_eq_false_iff_ne.mpr same,
          if_neg Bool.false_ne_true]
        exact elsewhere fun behind' split => same (List.cons.inj split).1

/-- Skipping bytes stops where skipping characters stops. -/
theorem skipWhile (inside : rest <:+ source.toList) (ascii : Ascii test) :
    Reads source (skipWhile source test) rest
      (.ok ((), rest.dropWhile test)) := by
  refine ⟨List.dropWhile_suffix test, ?_⟩
  have split : rest.takeWhile test ++
      rest.dropWhile test <:+ source.toList := by
    rwa [List.takeWhile_append_dropWhile]
  have behind := place_append split
  rw [List.takeWhile_append_dropWhile, ← takeWhile_onByte ascii] at behind
  rw [← behind, ← drop_place inside]
  exact Safe.pure _ _

theorem slice {text : List Char} (inside : text ++ rest <:+ source.toList)
    (here : List Char) :
    Reads source
      (liftM (slice source (place source (text ++ rest)) (place source rest)) :
        Reader String) here
      (.ok (String.ofList text, here)) :=
  lift (Safe.slice inside le_rfl) here

/-- A call that gets further, if it succeeds. -/
theorem call {depth : Nat} {outcome : Except ExpressionError (α × List Char)}
    (inside : rest <:+ source.toList) (deep : depth ≤ place source rest)
    (shorter : ∀ value after, outcome = .ok (value, after) →
      after.length < rest.length)
    (body : Reads source program rest outcome) :
    Reads source (call source depth program) rest outcome := by
  have entered : (Event.entered source depth).Sound source.utf8ByteSize :=
    ⟨le_rfl, deep.trans (place_le source rest)⟩
  refine (lift (Safe.record entered) rest).step ((get source rest).step ?_)
  cases outcome with
  | ok done =>
      have further := place_lt inside body.1 (shorter done.1 done.2 rfl)
      have advanced :
          (Event.advanced source (place source rest)
              (place source done.2)).Sound source.utf8ByteSize :=
        ⟨le_rfl, further, place_le source done.2⟩
      refine body.step ((get source done.2).step ?_)
      exact (lift (Safe.record advanced) done.2).step
        (pure source done.1 done.2)
  | error error => exact body.fail

end Reads

end Slicing

end Phrasebook
