import Phrasebook.Completion.Join
import Phrasebook.Result

/-!
# Programs

A program is a computation that can be started at any state.  Evaluations are
put together from programs, one after the other or started one after the other
and then joined.
-/

namespace Phrasebook

/-- A computation that can be started at any state. -/
abbrev Program (σ α : Type) := σ → Evaluation σ α × σ

namespace Program

variable {σ α β : Type}

/-- A value that is there at once. -/
def pure (value : α) : Program σ α :=
  fun state => (.ready (.ok value), state)

/-- One program after the other. -/
def bind (first : Program σ α) (next : α → Program σ β) : Program σ β :=
  fun state => (first state).1.andThen next (first state).2

def map (f : α → β) (program : Program σ α) : Program σ β :=
  fun state => ((program state).1.map f, (program state).2)

/-- Starts programs one after the other. -/
def startEach : List (Program σ α) → σ → List (Evaluation σ α) × σ
  | [], state => ([], state)
  | program :: rest, state =>
    let others := startEach rest (program state).2
    ((program state).1 :: others.1, others.2)

/-- Starts programs one after the other and joins them. -/
def joinEach (programs : List (Program σ α)) : Program σ (List α) :=
  fun state =>
    Completion.all (startEach programs state).1 (startEach programs state).2

end Program

end Phrasebook
