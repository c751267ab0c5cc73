import Phrasebook.Proofs.Completion.Drive
import Phrasebook.Proofs.Provenance.Answer

/-!
# The layers of an answer

An answer is a nest of layers, completed ones and handles, around a core that
settles or fails.  Layers are stripped from the outside in: a completed one by
looking inside, a handle by polling it to its end, with the state that the polls
leave.  In restricted mode a foreign handle is no layer but a core that is
refused.

Flattening strips the layers, whatever their order and number, in the two loops
that call each other: it ends with the outcome of the core, and it is ready when
there was no handle among the layers.
-/

namespace Phrasebook

open Completion (CanEndIn)

namespace Completion

variable {σ ρ : Type}

/-- A completion is polled from a state on until it is there: a number of polls
that leave it pending, and one that finds the result. -/
inductive Finishes (result : ρ) (after : σ) : Completion σ ρ → σ → Nat → Prop
  | ready : Finishes result after (.ready result) after 0
  | last {advance : σ → Poll σ ρ} {release : σ → σ} {state : σ}
      (polled : advance state = .advanced (.ready result) after) :
      Finishes result after (.pending advance release) state 0
  | more {advance advance' : σ → Poll σ ρ} {release release' : σ →
      σ} {state middle : σ} {waits : Nat}
      (polled : advance state = .advanced (.pending advance' release') middle)
      (later :
        Finishes result after (.pending advance' release') middle waits) :
      Finishes result after (.pending advance release) state (waits + 1)

variable {result : ρ} {after state : σ} {completion : Completion σ ρ}

/-- A completion that finishes is driven to its result. -/
theorem Finishes.drive
    {waits : Nat} (finishes : completion.Finishes result after state waits) :
    completion.drive state = (some result, after) := by
  induction finishes with
  | ready => exact drive_ready _ _
  | last polled => rw [drive_pending, polled, drivePoll_advanced, drive_ready]
  | more polled _ ih => rw [drive_pending, polled, drivePoll_advanced, ih]

/-- A completion that is driven to a result finishes after a number of polls. -/
theorem exists_finishes
    (driven : completion.drive state = (some result, after)) :
    ∃ waits, completion.Finishes result after state waits := by
  induction completion using Completion.ind generalizing state with
  | ready result' =>
      rw [drive_ready] at driven
      cases driven
      exact ⟨0, .ready⟩
  | pending advance release ih =>
      rw [drive_pending] at driven
      cases polled : advance state with
      | blocked =>
          rw [polled, drivePoll_blocked] at driven
          cases driven
      | advanced next middle =>
          rw [polled, drivePoll_advanced] at driven
          cases next with
          | ready result' =>
              rw [drive_ready] at driven
              cases driven
              exact ⟨0, .last polled⟩
          | pending advance' release' =>
              rcases ih state _ middle polled driven with ⟨waits, later⟩
              exact ⟨waits + 1, .more polled later⟩

end Completion

namespace Resolved

variable {σ : Type}

/-- The handle that an answer is, when it may be polled. -/
def handle?
    (unrestricted : Bool) : Resolved σ → Option (Completion σ (Resolved σ))
  | .pending handle => some handle
  | .foreign handle => if unrestricted then some handle else none
  | _ => none

/-- What an answer has around another one: that it is completed, or a handle
with the number of polls that leave it pending. -/
inductive Layer where
  | completed
  | handle (waits : Nat)
  deriving DecidableEq, Repr

/-- The outermost layer of an answer is stripped off. -/
inductive Strips
    (unrestricted : Bool) : Resolved σ → σ → Layer → Resolved σ → σ → Prop
  | completed {inner : Resolved σ} {state : σ} :
      Strips unrestricted (.completed inner) state .completed inner state
  | handle {answer inner : Resolved σ} {handle : Completion σ (Resolved σ)}
      {state after : σ} {waits : Nat}
      (awaited : answer.handle? unrestricted = some handle)
      (finishes : handle.Finishes inner after state waits) :
      Strips unrestricted answer state (.handle waits) inner after

/-- Layers of an answer are stripped off one after the other. -/
inductive Stripped (unrestricted : Bool) (core : Resolved σ) (after : σ) :
    Resolved σ → σ → List Layer → Prop
  | core : Stripped unrestricted core after core after []
  | layer {answer inner : Resolved σ} {state middle : σ} {layer : Layer}
      {layers : List Layer}
      (strips : Strips unrestricted answer state layer inner middle)
      (rest : Stripped unrestricted core after inner middle layers) :
      Stripped unrestricted core after answer state (layer :: layers)

/-- An answer is a core, which ends an expression with an outcome: it is
settled, it has failed, or it is a foreign handle where none is allowed.  A
failure that is not that of an expression yet is tagged with the expression. -/
inductive ComesTo (expression : Expression) (unrestricted : Bool) :
    Resolved σ → Except EngineError Settled → Prop
  | value (found : Json) :
      ComesTo expression unrestricted (.value found) (.ok (.value found))
  | notFound : ComesTo expression unrestricted .notFound (.ok .notFound)
  | node (result : ResultNode) : ComesTo expression unrestricted (.node result)
      (.ok (.node result))
  | untagged {cause : Cause} (fresh : cause.error? = none) :
      ComesTo expression unrestricted (.failed cause)
        (.error (.render (.of (.resolverFailure cause) expression)))
  | tagged {cause : Cause} {error : EngineError}
      (known : cause.error? = some error) :
      ComesTo expression unrestricted (.failed cause) (.error error)
  | refused {handle : Completion σ (Resolved σ)}
      (restricted : unrestricted = false) :
      ComesTo expression unrestricted (.foreign handle)
        (.error (.render (.of .foreignAsyncValue expression)))

section Flattening

variable {expression : Expression} {unrestricted : Bool}
  {answer inner core : Resolved σ}
  {state middle after : σ} {outcome : Except EngineError Settled}

theorem comesTo_ofSettled (settled : Settled) :
    ComesTo expression unrestricted (.ofSettled settled : Resolved σ)
      (.ok settled) := by
  cases settled with
  | value found => exact .value found
  | notFound => exact .notFound
  | node result => exact .node result

theorem exists_comesTo_failed (cause : Cause) :
    ∃ outcome,
      ComesTo expression unrestricted (.failed cause : Resolved σ) outcome := by
  cases tag : cause.error? with
  | none => exact ⟨_, .untagged tag⟩
  | some error => exact ⟨_, .tagged tag⟩

/-- A core that comes to an outcome flattens to it at once. -/
theorem ComesTo.flatten (ends : core.ComesTo expression unrestricted outcome) :
    core.flatten expression unrestricted = .ready outcome := by
  cases ends with
  | value found => rw [Resolved.flatten]
  | notFound => rw [Resolved.flatten]
  | node result => rw [Resolved.flatten]
  | untagged fresh =>
      rw [Resolved.flatten, EngineError.ofCause_of_error?_none fresh]
  | tagged known => rw [Resolved.flatten, EngineError.ofCause_of_error? known]
  | refused restricted =>
      rw [restricted]
      rw [Resolved.flatten]

/-- An answer with a handle that is awaited flattens to waiting for this
handle. -/
theorem flatten_of_handle?
    {handle : Completion σ (Resolved σ)}
    (awaited : answer.handle? unrestricted = some handle) :
    answer.flatten expression unrestricted =
      awaiting expression unrestricted handle := by
  cases answer with
  | pending own =>
      cases awaited
      rw [flatten]
  | foreign own =>
      cases unrestricted with
      | true =>
          cases awaited
          rw [flatten]
      | false => cases awaited
  | value | notFound | node | failed | completed => cases awaited

theorem isReady_awaiting (handle : Completion σ (Resolved σ)) :
    (awaiting expression unrestricted handle).isReady = false := by
  cases handle with
  | ready inner =>
      rw [awaiting]
      rfl
  | pending advance release =>
      rw [awaiting]
      rfl

/-- Driving goes on inside a layer. -/
theorem Strips.drive_flatten
    {layer : Layer}
    (strips : Strips unrestricted answer state layer inner middle) :
    (answer.flatten expression unrestricted).drive state =
      (inner.flatten expression unrestricted).drive middle := by
  cases strips with
  | completed => rw [flatten]
  | handle awaited finishes =>
      rw [flatten_of_handle? awaited, drive_awaiting, finishes.drive]
      rfl

variable {layers : List Layer}

theorem Stripped.drive_flatten
    (stripped : Stripped unrestricted core after answer state layers) :
    (answer.flatten expression unrestricted).drive state =
      (core.flatten expression unrestricted).drive after := by
  induction stripped with
  | core => rfl
  | layer strips _ ih => rw [strips.drive_flatten, ih]

theorem Stripped.drive_of_ends
    (stripped : Stripped unrestricted core after answer state layers)
    (ends : core.ComesTo expression unrestricted outcome) :
    (answer.flatten expression unrestricted).drive state =
      (some outcome, after) := by
  rw [stripped.drive_flatten, ends.flatten, Completion.drive_ready]

/-- When the handle below the stripped layers gets stuck, so does the
flattening. -/
theorem Stripped.drive_of_stuck
    {handle : Completion σ (Resolved σ)}
    (stripped : Stripped unrestricted core after answer state layers)
    (awaited : core.handle? unrestricted = some handle)
    (stuck : (handle.drive after).1 = none) :
    ((answer.flatten expression unrestricted).drive state).1 = none := by
  rw [stripped.drive_flatten, flatten_of_handle? awaited, drive_awaiting]
  rcases driven : handle.drive after with ⟨_ | inner, middle⟩
  · rfl
  · rw [driven] at stuck
    cases stuck

/-- A flattening is ready when no handle was stripped off and the core is not
one either. -/
theorem Stripped.isReady_flatten
    (stripped : Stripped unrestricted core after answer state layers) :
    (answer.flatten expression unrestricted).isReady = true ↔
      (∀ layer ∈ layers, layer = .completed) ∧
        (core.flatten expression unrestricted).isReady = true := by
  induction stripped with
  | core => exact (and_iff_right (List.forall_mem_nil _)).symm
  | layer strips _ ih =>
      rw [List.forall_mem_cons]
      cases strips with
      | completed =>
          rw [flatten, ih]
          exact and_congr_left' (and_iff_right rfl).symm
      | handle awaited _ =>
          rw [flatten_of_handle? awaited, isReady_awaiting]
          exact iff_of_false Bool.false_ne_true fun ⟨⟨impossible, _⟩, _⟩ =>
            nomatch impossible

/-- The layers of every answer can be stripped off, down to a core or to a
handle that does not end. -/
theorem exists_stripped
    (expression : Expression) (unrestricted : Bool) (answer : Resolved σ)
    (state : σ) :
    ∃ layers core after, Stripped unrestricted core after answer state layers ∧
      ((∃ outcome, core.ComesTo expression unrestricted outcome) ∨
        ∃ handle, core.handle? unrestricted = some handle ∧
          (handle.drive after).1 = none) := by
  induction answer using Resolved.ind generalizing state with
  | settled settled =>
      exact ⟨[], _, state, .core, .inl ⟨_, comesTo_ofSettled settled⟩⟩
  | failed cause =>
      exact ⟨[], _, state, .core, .inl (exists_comesTo_failed cause)⟩
  | completed inner ih =>
      rcases ih state with ⟨layers, core, after, stripped, rest⟩
      exact ⟨_, core, after, .layer .completed stripped, rest⟩
  | handle handle ih =>
      -- The state settles which answer the handle ends in, and whether it ends
      -- at all.
      have follow {outer : Resolved σ} (awaited : outer.handle? unrestricted =
          some handle) (state : σ) :
          ∃ layers core after,
            Stripped unrestricted core after outer state layers ∧
            ((∃ outcome, core.ComesTo expression unrestricted outcome) ∨
              ∃ handle, core.handle? unrestricted = some handle ∧
                  (handle.drive after).1 = none) := by
        rcases driven : handle.drive state with ⟨_ | inner, middle⟩
        · exact ⟨[], outer, state, .core,
            .inr ⟨handle, awaited, by rw [driven]⟩⟩
        · rcases Completion.exists_finishes driven with ⟨waits, finishes⟩
          rcases ih inner (Completion.canEndIn_of_drive driven) middle with
            ⟨layers, core, after, stripped, rest⟩
          exact ⟨_, core, after,
            .layer (.handle awaited finishes) stripped, rest⟩
      constructor
      · exact follow rfl
      · cases allowed : unrestricted with
        | true => exact allowed ▸ follow (if_pos allowed)
        | false => exact fun state =>
            ⟨[], _, state, .core, .inl ⟨_, .refused rfl⟩⟩

end Flattening

end Resolved

end Phrasebook
