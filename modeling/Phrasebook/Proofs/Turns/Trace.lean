import Mathlib.Data.List.Induction
import Phrasebook.Expression.Basic
import Phrasebook.Proofs.Turns.Deed

/-!
# Traces

A trace is what is done in the evaluation of an expression and of the argument
expressions inside it, in the order in which it happens; the arguments of a part
run side by side, so their deeds may come in any order among each other.  An
expression inside another one is told by its address.

A trace is coherent when the deeds of each expression are a word of the phases
that it goes through, and when nothing is done for an argument before it has
been started.  In a coherent trace everything is in order: what is done for a
part, and for the arguments inside it, comes after all earlier parts have
settled.
-/

namespace Phrasebook

/-- Where an expression stands inside another one: from the outside in, the
parts and the arguments of them. -/
abbrev Address := List (Nat × Nat)

/-- The expression at an address. -/
def Expression.at? : Expression → Address → Option Expression
  | expression, [] => some expression
  | expression, (part, argument) :: inner =>
    (expression.parts[part]?.bind fun found => found.arguments[argument]?).bind
      fun found => found.at? inner

theorem Expression.at?_append
    (expression : Expression) (address inner : Address) :
    expression.at? (address ++ inner) =
      (expression.at? address).bind fun found => found.at? inner := by
  induction address generalizing expression with
  | nil => rfl
  | cons step rest ih =>
      rw [List.cons_append, at?, at?]
      cases expression.parts[step.1]?.bind fun found =>
        found.arguments[step.2]? with
      | none => rfl
      | some found => exact ih found

/-- What has been done, each deed with the address of the expression that it was
done for. -/
abbrev Trace := List (Address × Deed)

namespace Trace

variable {outlines : Address → Option Outline} {trace : Trace}
  {address parent : Address} {deed : Deed}

/-- The deeds for one expression. -/
def own (address : Address) (trace : Trace) : List Deed :=
  (trace.filter fun event => event.1 = address).map Prod.snd

def note (address : Address) (deed : Deed) (trace : Trace) : Trace :=
  trace ++ [(address, deed)]

theorem own_append (address : Address) (trace later : Trace) :
    own address (trace ++ later) = own address trace ++ own address later := by
  simp [own]

@[simp]
theorem own_note_self :
    own address (note address deed trace) = own address trace ++ [deed] := by
  simp [own, note]

theorem own_note_of_ne {other : Address} (different : other ≠ address) :
    own other (note address deed trace) = own other trace := by
  simp [own, note, different.symm]

@[simp]
theorem mem_own : deed ∈ own address trace ↔ (address, deed) ∈ trace := by
  simp [own]

/-- Where the deeds of an expression stand in a trace. -/
theorem own_split
    {before after : Trace}
    (split : trace = before ++ (address, deed) :: after) :
    own address trace = own address before ++ deed :: own address after := by
  rw [split, own_append]
  simp [own]

/-- The argument at an address has been started. -/
def Entered (address : Address) (trace : Trace) : Prop :=
  ∀ parent part argument, address = parent ++ [(part, argument)] →
    (parent, .started part argument) ∈ trace

/-- The deeds of each expression lead from phase to phase, and nothing is done
for an argument before it has been started. -/
structure Coherent (outlines : Address → Option Outline) (trace : Trace) :
    Prop where
  reaches : ∀ address outline, outlines address = some outline →
    ∃ phase, outline.Reaches (own address trace) phase
  nowhere : ∀ address, outlines address = none → own address trace = []
  entered : ∀ before address deed after,
    trace = before ++ (address, deed) :: after → Entered address before

theorem coherent_nil : Coherent outlines [] where
  reaches := fun _ _ _ => ⟨_, .nil⟩
  nowhere := fun _ _ => rfl
  entered := by
    intro before address deed after split
    simp at split

/-- One more deed that comes in its phase. -/
theorem Coherent.note
    {outline : Outline} {phase phase' : Phase}
    (coherent : Coherent outlines trace)
    (here : outlines address = some outline)
    (reaches : outline.Reaches (own address trace) phase)
    (moves : outline.Moves phase deed phase')
    (entered : Entered address trace) :
    Coherent outlines (note address deed trace) where
  reaches := by
    intro other outline' there
    by_cases same : other = address
    · subst same
      obtain rfl : outline = outline' := Option.some.inj (here.symm.trans there)
      rw [own_note_self]
      exact ⟨phase', reaches.snoc moves⟩
    · rw [own_note_of_ne same]
      exact coherent.reaches other outline' there
  nowhere := by
    intro other nothing
    rw [own_note_of_ne]
    · exact coherent.nowhere other nothing
    · rintro rfl
      cases here.symm.trans nothing
  entered := by
    intro before other deed' after split
    rcases List.eq_nil_or_concat after with rfl | ⟨after, final, rfl⟩
    · rcases List.append_inj' split rfl with ⟨rfl, ⟨⟩⟩
      exact entered
    · rw [List.concat_eq_append, ← List.cons_append, ← List.append_assoc]
        at split
      exact coherent.entered before other deed' after
        (List.append_inj' split rfl).1

/-- An event belongs to a part of an expression: it is for the part itself, or
for an expression inside one of the arguments of the part. -/
def Belongs (address : Address) (part : Nat) (event : Address × Deed) : Prop :=
  event.1 = address ∧ event.2.part = part ∨
    ∃ argument inner, event.1 = address ++ (part, argument) :: inner

/-- Everything is in order in a trace.  No event happens twice.  Each deed is
permitted by those before it for the same expression.  And what belongs to a
part of an expression comes after all earlier parts have settled, which they
have done to something found. -/
structure Orderly (outlines : Address → Option Outline) (trace : Trace) :
    Prop where
  once : trace.Nodup
  permitted : ∀ before address deed after,
    trace = before ++ (address, deed) :: after →
    ∃ outline, outlines address = some outline ∧
      outline.Permitted (own address before) deed
  parts : ∀ before event after, trace = before ++ event :: after →
    ∀ address part, Belongs address part event → ∀ earlier < part,
      (address, .settled earlier .found) ∈ before ∧
        ∀ outcome, (address, .settled earlier outcome) ∈ trace →
          outcome = .found

/-- Every deed of a coherent trace was permitted by the ones in front of it. -/
theorem Coherent.permitted
    (coherent : Coherent outlines trace) {before after : Trace}
    (split : trace = before ++ (address, deed) :: after) :
    ∃ outline, outlines address = some outline ∧
      outline.Permitted (own address before) deed := by
  have word := own_split split
  cases here : outlines address with
  | none =>
      rw [coherent.nowhere address here] at word
      simp at word
  | some outline =>
      rcases coherent.reaches address outline here with ⟨phase, reaches⟩
      exact ⟨outline, rfl, reaches.permitted word⟩

/-- What is done inside an argument comes after the start of the argument. -/
theorem Coherent.started
    (coherent : Coherent outlines trace) {part argument : Nat} (inner : Address)
    {before after : Trace}
    (split : trace = before ++ (parent ++ (part, argument) :: inner, deed) ::
      after) :
    (parent, .started part argument) ∈ before := by
  induction inner using List.reverseRecOn generalizing before deed after with
  | nil => exact coherent.entered _ _ _ _ split parent part argument rfl
  | append_singleton inner step ih =>
      have entered :=
        coherent.entered _ _ _ _ split (parent ++ (part, argument) :: inner)
          step.1 step.2 (by simp)
      rcases List.append_of_mem entered with ⟨earlier, later, rfl⟩
      rw [List.append_assoc, List.cons_append] at split
      exact List.mem_append_left _ (ih split)

/-- A list in which nothing repeats has no duplicates. -/
theorem nodup_of_splits
    {α : Type} {list : List α}
    (fresh : ∀ before one after, list = before ++ one :: after → one ∉ before) :
    list.Nodup := by
  induction list using List.reverseRecOn with
  | nil => exact List.nodup_nil
  | append_singleton list last ih =>
      have earlier : list.Nodup := ih fun before one after split =>
        fresh before one (after ++ [last])
          (by rw [split, List.append_assoc, List.cons_append])
      refine List.nodup_append.mpr ⟨earlier, List.pairwise_singleton _ last, ?_⟩
      rintro one member _ final rfl
      exact fresh list last [] rfl (List.mem_singleton.mp final ▸ member)

/-- Earlier parts have settled before a deed, and no part has settled to
anything but something found. -/
theorem Coherent.settled_before
    (coherent : Coherent outlines trace) {before after : Trace}
    {event : Address × Deed} {part : Nat}
    (split : trace = before ++ event :: after)
    (belongs : Belongs address part event) {earlier : Nat}
    (lower : earlier < part) : (address, .settled earlier .found) ∈ before := by
  rcases event with ⟨address', deed⟩
  rcases belongs with ⟨rfl, rfl⟩ | ⟨argument, inner, rfl⟩
  · rcases coherent.permitted split with ⟨outline, -, permitted⟩
    exact mem_own.mp (permitted.found earlier lower)
  · rcases List.append_of_mem (coherent.started inner split) with
      ⟨before', later, rfl⟩
    rw [List.append_assoc, List.cons_append] at split
    rcases coherent.permitted split with ⟨outline, -, permitted⟩
    exact List.mem_append_left _ (mem_own.mp (permitted.found earlier lower))

/-- A part settles once. -/
theorem Coherent.settled_unique
    (coherent : Coherent outlines trace) {part : Nat}
    {outcome outcome' : Outcome}
    (settled : (address, .settled part outcome) ∈ trace)
    (settled' : (address, .settled part outcome') ∈ trace) :
    outcome = outcome' := by
  have member : Deed.settled part outcome ∈ own address trace :=
    mem_own.mpr settled
  cases here : outlines address with
  | none =>
      rw [coherent.nowhere address here] at member
      cases member
  | some outline =>
      rcases coherent.reaches address outline here with ⟨phase, reaches⟩
      cases reaches.eq_of_rank_eq member (mem_own.mpr settled') rfl
      rfl

/-- A coherent trace is orderly. -/
theorem Coherent.orderly (coherent : Coherent outlines trace) :
    Orderly outlines trace where
  once := by
    refine nodup_of_splits fun before event after split member => ?_
    rcases coherent.permitted split with ⟨outline, -, permitted⟩
    exact lt_irrefl _ (permitted.later event.2 (mem_own.mpr member))
  permitted := fun _ _ _ _ => coherent.permitted
  parts := by
    intro before event after split address part belongs earlier lower
    have settled := coherent.settled_before split belongs lower
    refine ⟨settled, fun outcome member => coherent.settled_unique member ?_⟩
    rw [split]
    exact List.mem_append_left _ settled

end Trace

end Phrasebook
