import Phrasebook.Error
import Phrasebook.Completion.Basic

/-!
# Answers and outcomes

Resolvers give answers, and expressions settle to outcomes. An answer may be a
value, the not-found sentinel, a finished result node, or such a thing inside
completed, pending or foreign handles; `Resolved.flatten` takes the handles off,
from the outside in, down to a settled result or the first failure.
-/

namespace Phrasebook

/-- A result before it is written: fixed text, or a value (or its absence) with
the expression it came from. -/
inductive ResultNode where
  | constant (text : String)
  | single (value : Option Json) (expression : Expression)
  deriving Repr

namespace ResultNode

def value? : ResultNode → Option Json
  | .single (some value) _ => some value
  | _ => none

/-- The value that later parts and methods see: fixed text as a text, an absent
value as null. -/
def toValue : ResultNode → Json
  | .constant text => .string text
  | .single (some value) _ => value
  | .single none _ => .null

end ResultNode

def ResultNode.debugText : ResultNode → String
  | .constant text => "Constant(" ++ Text.quoted text ++ ")"
  | .single value expression =>
    "Single \x7b value: " ++
      (match value with
        | some value => "Value(" ++ value.debugText ++ ")"
        | none => "NotFound") ++
      ", node: ExpressionNode(" ++ Text.quoted expression.text ++ ") \x7d"

/-- The settled outcome of an evaluation. -/
inductive Settled where
  | value (value : Json)
  | notFound
  | node (node : ResultNode)
  deriving Repr

namespace Settled

/-- Whether the outcome is the not-found sentinel. A node without a value is
not. -/
def isNotFound : Settled → Bool
  | .notFound => true
  | _ => false

/-- The value that later parts and methods see, null for the not-found
sentinel. -/
def toValue : Settled → Json
  | .value found => found
  | .notFound => .null
  | .node result => result.toValue

/-- The result node of an outcome that was evaluated for a placeholder. -/
def toNode (expression : Expression) : Settled → ResultNode
  | .value found => .single (some found) expression
  | .notFound => .single none expression
  | .node result => result

end Settled

/-- The answer of a resolver or supplier. A foreign handle comes from outside
the engine. -/
inductive Resolved (σ : Type) : Type where
  | value (value : Json)
  | notFound
  | node (node : ResultNode)
  | failed (cause : Cause)
  | completed (inner : Resolved σ)
  | pending (handle : Completion σ (Resolved σ))
  | foreign (handle : Completion σ (Resolved σ))

/-- An evaluation: a completion that succeeds with a value or fails with an
engine error. -/
abbrev Evaluation (σ α : Type) := Completion σ (Except EngineError α)

namespace Resolved

variable {σ : Type}

/-- The answer that a settled outcome stands for. -/
def ofSettled : Settled → Resolved σ
  | .value found => .value found
  | .notFound => .notFound
  | .node result => .node result

/-- Diagnostic text of an answer; handles that would have to be polled do not
show their content. -/
def debugText : Resolved σ → String
  | .value found => "Value(" ++ found.debugText ++ ")"
  | .notFound => "NotFound"
  | .node result => "Node(" ++ result.debugText ++ ")"
  | .failed cause => "Completed(Err(" ++ cause.text ++ "))"
  | .completed inner => "Completed(Ok(" ++ debugText inner ++ "))"
  | .pending _ => "Pending(..)"
  | .foreign _ => "Foreign(..)"

mutual

/-- Takes the handles off an answer to `expression`. A failed layer fails the
expression; a foreign handle is polled only when that is allowed, and fails the
expression otherwise. -/
def flatten (expression : Expression) (unrestricted : Bool) :
    Resolved σ → Evaluation σ Settled
  | .value found => .ready (.ok (.value found))
  | .notFound => .ready (.ok .notFound)
  | .node result => .ready (.ok (.node result))
  | .failed cause => .ready (.error (.ofCause cause expression))
  | .completed inner => flatten expression unrestricted inner
  | .pending handle => awaiting expression unrestricted handle
  | .foreign handle =>
    match unrestricted with
    | true => awaiting expression unrestricted handle
    | false => .ready (.error (.render (.of .foreignAsyncValue expression)))

/-- Polls a handle to its end and goes on with the answer it gives in the same
poll. -/
def awaiting (expression : Expression) (unrestricted : Bool) :
    Completion σ (Resolved σ) → Evaluation σ Settled
  | .ready answer =>
    .pending (fun state =>
      (flatten expression unrestricted answer).reach state) id
  | .pending advance release =>
    .pending (fun state =>
      awaitingPoll expression unrestricted (advance state)) release

/-- Goes on after a poll of a handle. -/
def awaitingPoll (expression : Expression) (unrestricted : Bool) :
    Poll σ (Resolved σ) → Poll σ (Except EngineError Settled)
  | .blocked => .blocked
  | .advanced next state =>
    match next with
    | .ready answer => (flatten expression unrestricted answer).reach state
    | .pending advance release =>
      .advanced
        (awaiting expression unrestricted (.pending advance release)) state

end

end Resolved
end Phrasebook
