/-!
# Completions

A completion is a result that is there at once or after a number of polls. A
completion acts on a state `σ` that it shares with others. A pending one says
what its next poll does: nothing, when it waits for something that another
completion has to do first, or a step to a further completion and a new state;
it also says how abandoning it changes the state. Every completion ends after
finitely many steps, but a blocked one may be polled any number of times before
its next step.

`andThen` runs a continuation at once on a ready value, and in the poll that
ends a pending one otherwise; `drive` polls to the end.
-/

namespace Phrasebook

mutual

/-- A result of type `ρ`, ready or still to be polled for. -/
inductive Completion (σ ρ : Type) : Type where
  | ready (result : ρ)
  | pending (advance : σ → Poll σ ρ) (release : σ → σ)

/-- The outcome of polling a pending completion: it waits and changed nothing,
or it made a step. -/
inductive Poll (σ ρ : Type) : Type where
  | blocked
  | advanced (next : Completion σ ρ) (state : σ)

end

instance {σ ρ : Type} [Inhabited ρ] :
    Inhabited (Completion σ ρ) := ⟨.ready default⟩

namespace Completion

variable {σ τ ρ ω ε α β : Type}

/-- Whether the result is there. -/
def isReady : Completion σ ρ → Bool
  | .ready _ => true
  | .pending _ _ => false

/-- The result, if it is there. -/
def result? : Completion σ ρ → Option ρ
  | .ready result => some result
  | .pending _ _ => none

/-- Polls once. A ready completion and a blocked one stay as they are. -/
def poll (completion : Completion σ ρ) (state : σ) : Completion σ ρ × σ :=
  match completion with
  | .ready result => (.ready result, state)
  | .pending advance release =>
    match advance state with
    | .blocked => (.pending advance release, state)
    | .advanced next state => (next, state)

def pollTimes (times : Nat) (completion : Completion σ ρ) (state : σ) :
    Completion σ ρ × σ :=
  match times with
  | 0 => (completion, state)
  | times + 1 =>
    let (completion, state) := completion.poll state
    pollTimes times completion state

/-- Abandons a completion: a pending one releases what it holds. -/
def abandon (completion : Completion σ ρ) (state : σ) : σ :=
  match completion with
  | .ready _ => state
  | .pending _ release => release state

def reach (completion : Completion σ ρ) (state : σ) : Poll σ ρ :=
  let (completion, state) := completion.poll state
  .advanced completion state

/-- A computation that starts when it is first polled, and is polled in the same
poll. -/
def deferred (start : σ → Completion σ ρ × σ) : Completion σ ρ :=
  .pending (fun state =>
    let (completion, state) := start state
    completion.reach state) id

mutual

/-- Polls to the end. No result comes out when a poll is blocked, for then
nothing is left to wait for. -/
def drive : Completion σ ρ → σ → Option ρ × σ
  | .ready result, state => (some result, state)
  | .pending advance _, state => drivePoll (advance state) state

/-- Goes on after a poll at a given state. -/
def drivePoll : Poll σ ρ → σ → Option ρ × σ
  | .blocked, state => (none, state)
  | .advanced next state, _ => drive next state

end

mutual

def mapResult (f : ρ → ω) : Completion σ ρ → Completion σ ω
  | .ready result => .ready (f result)
  | .pending advance release =>
    .pending (fun state => mapPoll f (advance state)) release

/-- Maps the result of what a poll reached. -/
def mapPoll (f : ρ → ω) : Poll σ ρ → Poll σ ω
  | .blocked => .blocked
  | .advanced next state => .advanced (mapResult f next) state

end

/-- Maps the value of a success. -/
def map (f : α → β) (completion : Completion σ (Except ε α)) :
    Completion σ (Except ε β) :=
  completion.mapResult (Except.map f)

mutual

/-- Goes on with `next` inside a poll: a success runs it and polls what it gives
at once. -/
def resume (next : α → σ → Completion σ (Except ε β) × σ) :
    Completion σ (Except ε α) → σ → Completion σ (Except ε β) × σ
  | .ready (.ok value), state =>
    let (completion, state) := next value state
    completion.poll state
  | .ready (.error error), state => (.ready (.error error), state)
  | .pending advance release, state =>
    (.pending (fun state => resumePoll next (advance state)) release, state)

/-- Goes on with `next` after a poll. -/
def resumePoll (next : α → σ → Completion σ (Except ε β) × σ) :
    Poll σ (Except ε α) → Poll σ (Except ε β)
  | .blocked => .blocked
  | .advanced completion state =>
    let (completion, state) := resume next completion state
    .advanced completion state

end

/-- Chains a continuation. A ready success runs it at once, a pending completion
in the poll that ends it with success; a failure ends the chain. -/
def andThen
    (completion : Completion σ (Except ε α))
    (next : α → σ → Completion σ (Except ε β) × σ)
    (state : σ) : Completion σ (Except ε β) × σ :=
  match completion with
  | .ready (.ok value) => next value state
  | other => resume next other state

mutual

/-- Runs `onEnd` when the result is there; abandoning runs `onRelease` after the
completion's own release. -/
def ending (onEnd : ρ → σ → σ) (onRelease : σ → σ) :
    Completion σ ρ → σ → Completion σ ρ × σ
  | .ready result, state => (.ready result, onEnd result state)
  | .pending advance release, state =>
    (.pending (fun state => endingPoll onEnd onRelease (advance state))
      (fun state => onRelease (release state)), state)

/-- Runs `onEnd` when a poll reached the result. -/
def endingPoll (onEnd : ρ → σ → σ) (onRelease : σ → σ) : Poll σ ρ → Poll σ ρ
  | .blocked => .blocked
  | .advanced completion state =>
    let (completion, state) := ending onEnd onRelease completion state
    .advanced completion state

end

mutual

/-- The same completion on a larger state of which `σ` is a part. -/
def within (part : τ → σ) (update : σ → τ → τ) : Completion σ ρ → Completion τ ρ
  | .ready result => .ready result
  | .pending advance release =>
    .pending (fun whole => withinPoll part update (advance (part whole)) whole)
      (fun whole => update (release (part whole)) whole)

/-- The same poll on a larger state. -/
def withinPoll (part : τ → σ) (update : σ → τ → τ) : Poll σ ρ → τ → Poll τ ρ
  | .blocked, _ => .blocked
  | .advanced next state, whole =>
    .advanced (within part update next) (update state whole)

end

mutual

/-- Keeps a part of the state private to the completion. The private part at the
end goes into the result. -/
def enclosed (inner : κ) : Completion (κ × σ) ρ → Completion σ (ρ × κ)
  | .ready result => .ready (result, inner)
  | .pending advance release =>
    .pending (fun state => enclosedPoll (advance (inner, state)))
      (fun state => (release (inner, state)).2)

/-- Keeps the private part that a poll reached. -/
def enclosedPoll : Poll (κ × σ) ρ → Poll σ (ρ × κ)
  | .blocked => .blocked
  | .advanced next (inner, state) => .advanced (enclosed inner next) state

end

/-- A completion that is pending for a number of polls and ends in the next one
with an effect. -/
def after (polls : Nat) (finish : σ → σ) (result : ρ) : Completion σ ρ :=
  match polls with
  | 0 => .pending (fun state => .advanced (.ready result) (finish state)) id
  | polls + 1 =>
    .pending (fun state => .advanced (after polls finish result) state) id

/-- Has an effect at the start of the first poll of a pending completion. -/
def starting (effect : σ → σ) : Completion σ ρ → Completion σ ρ
  | .ready result => .ready result
  | .pending advance release =>
    .pending (fun state => advance (effect state)) release

end Completion
end Phrasebook
