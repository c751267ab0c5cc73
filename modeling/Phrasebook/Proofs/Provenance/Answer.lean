import Phrasebook.Proofs.Completion.Ends

/-!
# What answers run into

An answer runs into a fault when one of its layers has failed with a cause, or
is a foreign handle that is not allowed.  The error of an expression that asked
for the answer is then its own, unless the cause already is the error of another
expression, which it hands on as it is.

Which fault it is depends on the states in which the handles of the answer are
polled: each of them has some polls of its own, and the poll that ends it is the
first one of the handle inside.
-/

namespace Phrasebook

open Completion (CanEndIn)

/-- The failure of an expression that a cause already is, or the loss of the
thread. -/
def Cause.error? : Cause → Option EngineError
  | .resolution error => some (.render error)
  | .engine (.render error) => some (.render error)
  | .engine .threadLost => some .threadLost
  | _ => none

theorem EngineError.ofCause_of_error?
    {cause : Cause} {error : EngineError} (tagged : cause.error? = some error)
    (expression : Expression) :
    EngineError.ofCause cause expression = error := by
  unfold Cause.error? at tagged
  split at tagged <;> cases tagged <;> rfl

/-- A cause that is no error of an expression yet is tagged once, with the
expression that met it. -/
theorem EngineError.ofCause_of_error?_none
    {cause : Cause} (untagged : cause.error? = none) (expression : Expression) :
    EngineError.ofCause cause expression =
      .render (.of (.resolverFailure cause) expression) := by
  unfold Cause.error? at untagged
  split at untagged
  · cases untagged
  · cases untagged
  · cases untagged
  · unfold EngineError.ofCause
    split <;> simp_all

/-- What an answer can run into instead of settling. -/
inductive Fault where
  | failed (cause : Cause)
  | foreign

/-- The error of an expression when an answer to it runs into a fault. -/
def Fault.error (expression : Expression) : Fault → EngineError
  | .failed cause => .ofCause cause expression
  | .foreign => .render (.of .foreignAsyncValue expression)

/-- The error of an expression is handed on as it is by every other one. -/
theorem Fault.error?_error (fault : Fault) (expression : Expression) :
    (Cause.engine (fault.error expression)).error? =
      some (fault.error expression) := by
  cases fault with
  | foreign => rfl
  | failed cause =>
      rw [Fault.error]
      cases tagged : cause.error? with
      | none =>
          rw [EngineError.ofCause_of_error?_none tagged]
          rfl
      | some error =>
          rw [EngineError.ofCause_of_error? tagged]
          unfold Cause.error? at tagged
          split at tagged <;> cases tagged <;> rfl

namespace Completion

variable {σ ρ : Type}

/-- A completion that is polled at some states arrives at its result; the states
that are left begin with the one that the result is found in. -/
inductive Arrives (result : ρ) : Completion σ ρ → List σ → List σ → Prop
  | ready (state : σ) (rest : List σ) :
      Arrives result (.ready result) (state :: rest) (state :: rest)
  | last {advance : σ → Poll σ ρ} {release : σ → σ} {state after : σ}
      (rest : List σ)
      (polled : advance state = .advanced (.ready result) after) :
      Arrives result (.pending advance release) (state :: rest) (after :: rest)
  | more {advance advance' : σ → Poll σ ρ} {release release' : σ →
      σ} {state after : σ}
      {rest left : List σ}
      (polled : advance state = .advanced (.pending advance' release') after)
      (later : Arrives result (.pending advance' release') rest left) :
      Arrives result (.pending advance release) (state :: rest) left
  | waits {advance : σ → Poll σ ρ} {release : σ →
      σ} {state : σ} {rest left : List σ}
      (polled : advance state = .blocked)
      (later : Arrives result (.pending advance release) rest left) :
      Arrives result (.pending advance release) (state :: rest) left

variable {result : ρ} {completion : Completion σ ρ} {polls left : List σ}

/-- A completion that arrives at a result has been led to it by its polls. -/
theorem Arrives.polledAt (arrives : completion.Arrives result polls left) :
    completion.polledAt polls = .ready result := by
  induction arrives with
  | ready state rest => exact polledAt_ready _
  | last rest polled =>
      rw [Completion.polledAt, List.foldl_cons, Completion.poll, polled]
      exact polledAt_ready rest
  | more polled _ ih | waits polled _ ih =>
      rw [Completion.polledAt, List.foldl_cons, Completion.poll, polled]
      exact ih

end Completion

namespace Resolved

variable {σ : Type}

mutual

/-- A property of all answers is proved from the inside out: of a handle from
the answers that it can end in. -/
@[elab_as_elim]
theorem ind
    {motive : Resolved σ → Prop}
    (settled : ∀ settled, motive (.ofSettled settled))
    (failed : ∀ cause, motive (.failed cause))
    (completed : ∀ inner, motive inner → motive (.completed inner))
    (handle : ∀ handle, (∀ answer, CanEndIn answer handle → motive answer) →
      motive (.pending handle) ∧ motive (.foreign handle))
    (answer : Resolved σ) : motive answer := by
  match answer with
  | .value found => exact settled (.value found)
  | .notFound => exact settled .notFound
  | .node result => exact settled (.node result)
  | .failed cause => exact failed cause
  | .completed inner =>
      exact completed inner (ind settled failed completed handle inner)
  | .pending own =>
      exact (handle own (ind_handle settled failed completed handle own)).1
  | .foreign own =>
      exact (handle own (ind_handle settled failed completed handle own)).2

theorem ind_handle
    {motive : Resolved σ → Prop}
    (settled : ∀ settled, motive (.ofSettled settled))
    (failed : ∀ cause, motive (.failed cause))
    (completed : ∀ inner, motive inner → motive (.completed inner))
    (handle : ∀ handle, (∀ answer, CanEndIn answer handle → motive answer) →
      motive (.pending handle) ∧ motive (.foreign handle))
    (own : Completion σ (Resolved σ)) :
    ∀ answer, CanEndIn answer own → motive answer := by
  match own with
  | .ready answer =>
      rintro _ ⟨⟩
      exact ind settled failed completed handle answer
  | .pending advance release =>
      intro answer ends
      rcases Completion.canEndIn_pending.mp ends with
        ⟨state, next, after, polled, later⟩
      exact ind_handlePoll settled failed completed handle
        (advance state) answer next after polled later

theorem ind_handlePoll
    {motive : Resolved σ → Prop}
    (settled : ∀ settled, motive (.ofSettled settled))
    (failed : ∀ cause, motive (.failed cause))
    (completed : ∀ inner, motive inner → motive (.completed inner))
    (handle : ∀ handle, (∀ answer, CanEndIn answer handle → motive answer) →
      motive (.pending handle) ∧ motive (.foreign handle))
    (poll : Poll σ (Resolved σ)) :
    ∀ answer next after, poll = .advanced next after → CanEndIn answer next →
      motive answer := by
  match poll with
  | .blocked =>
      intro answer next after polled
      cases polled
  | .advanced reached _ =>
      intro answer next after polled later
      cases polled
      exact ind_handle settled failed completed handle reached answer later

end

/-- An answer that is polled at some states runs into a fault: when its handles
are taken off, one of its layers has it. -/
inductive RunsInto (unrestricted : Bool) (fault : Fault) :
    Resolved σ → List σ → Prop
  | failed (cause : Cause) (polls : List σ) (same : fault = .failed cause) :
      RunsInto unrestricted fault (.failed cause) polls
  | completed {inner : Resolved σ} {polls : List σ}
      (inside : RunsInto unrestricted fault inner polls) :
      RunsInto unrestricted fault (.completed inner) polls
  | pending {handle : Completion σ (Resolved σ)} {answer : Resolved σ}
      {polls left : List σ} (arrives : handle.Arrives answer polls left)
      (inside : RunsInto unrestricted fault answer left) :
      RunsInto unrestricted fault (.pending handle) polls
  | allowed {handle : Completion σ (Resolved σ)} {answer : Resolved σ}
      {polls left : List σ} (allows : unrestricted = true)
      (arrives : handle.Arrives answer polls left)
      (inside : RunsInto unrestricted fault answer left) :
      RunsInto unrestricted fault (.foreign handle) polls
  | disallowed (handle : Completion σ (Resolved σ)) (polls : List σ)
      (forbids : unrestricted = false) (same : fault = .foreign) :
      RunsInto unrestricted fault (.foreign handle) polls

variable {expression : Expression} {unrestricted : Bool}
  {handle : Completion σ (Resolved σ)}
  {polls : List σ} {result : Except EngineError Settled}

/-- When the polls of a handle have led to a result, the handle has arrived at
an answer, and the polls that were left have led that to the result. -/
theorem arrives_of_awaiting
    (ended : (awaiting expression unrestricted handle).polledAt polls =
      .ready result) :
    ∃ answer left, handle.Arrives answer polls left ∧
      (answer.flatten expression unrestricted).polledAt left =
        .ready result := by
  induction handle using Completion.ind generalizing polls with
  | ready answer =>
      cases polls with
      | nil =>
          rw [awaiting] at ended
          cases ended
      | cons state rest =>
          refine ⟨answer, _, .ready state rest, ?_⟩
          rw [awaiting] at ended
          exact ended
  | pending advance release ih =>
      induction polls with
      | nil =>
          rw [awaiting] at ended
          cases ended
      | cons state rest ihPolls =>
          have step :
              (awaiting expression unrestricted
                (.pending advance release)).polledAt (state :: rest) =
              ((awaiting expression unrestricted
                  (.pending advance release)).poll state).1.polledAt rest :=
            rfl
          rw [step, awaiting, Completion.poll] at ended
          cases polled : advance state with
          | blocked =>
              rw [polled, awaitingPoll, ← awaiting] at ended
              rcases ihPolls ended with ⟨answer, left, arrives, ended⟩
              exact ⟨answer, left, .waits polled arrives, ended⟩
          | advanced next after =>
              rw [polled] at ended
              cases next with
              | ready answer =>
                  refine ⟨answer, _, .last rest polled, ?_⟩
                  rw [awaitingPoll] at ended
                  exact ended
              | pending advance' release' =>
                  rw [awaitingPoll] at ended
                  rcases ih state _ after polled ended with
                    ⟨answer, left, arrives, ended⟩
                  exact ⟨answer, left, .more polled arrives, ended⟩

/-- The error that polls of an answer have led to is that of a fault which the
answer runs into in these polls. -/
theorem runsInto_of_flatten
    {answer : Resolved σ} {error : EngineError}
    (ended : (answer.flatten expression unrestricted).polledAt polls =
      .ready (.error error)) :
    ∃ fault, answer.RunsInto unrestricted fault polls ∧
      error = fault.error expression := by
  induction answer using Resolved.ind generalizing polls with
  | settled settled =>
      cases settled <;> simp [ofSettled, flatten] at ended
  | failed cause =>
      rw [flatten, Completion.polledAt_ready] at ended
      cases ended
      exact ⟨.failed cause, .failed cause polls rfl, rfl⟩
  | completed inner ih =>
      rw [flatten] at ended
      rcases ih ended with ⟨fault, inside, same⟩
      exact ⟨fault, .completed inside, same⟩
  | handle handle ih =>
      constructor
      · intro polls ended
        rw [flatten] at ended
        rcases arrives_of_awaiting ended with ⟨answer, left, arrives, ended⟩
        rcases ih answer (Completion.canEndIn_of_polledAt arrives.polledAt)
          ended with ⟨fault, inside, same⟩
        exact ⟨fault, .pending arrives inside, same⟩
      · intro polls ended
        cases unrestricted with
        | true =>
            rw [flatten] at ended
            rcases arrives_of_awaiting ended with ⟨answer, left, arrives, ended⟩
            rcases ih answer (Completion.canEndIn_of_polledAt arrives.polledAt)
                ended with
              ⟨fault, inside, same⟩
            exact ⟨fault, .allowed rfl arrives inside, same⟩
        | false =>
            rw [flatten, Completion.polledAt_ready] at ended
            cases ended
            exact ⟨.foreign, .disallowed handle polls rfl rfl, rfl⟩

end Resolved

end Phrasebook
