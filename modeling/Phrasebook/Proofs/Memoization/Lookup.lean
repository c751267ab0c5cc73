import Mathlib.Tactic.SplitIfs
import Phrasebook.Proofs.Completion.Conduct
import Phrasebook.Proofs.ComputedBinding

/-!
# The stages of a lookup

A lookup of a computed binding waits in line, runs the supplier, has finished,
or has been dropped.  This module says what starting, polling and dropping do in
these terms, and that it is exactly what the completion of the lookup does.

A lookup in the stage `running` carries what is left of the supplier's
invocation, so that the end of the invocation can be told from the end of the
lookup: a finished lookup remembers in what its own invocation ended, if it made
one.
-/

namespace Phrasebook

namespace Memoization

/-- A computed binding: its cell, and what the names of suppliers stand for. -/
structure Binding where
  cell : Cell
  suppliers : Suppliers

/-- The supplier that a binding is registered with. -/
def Binding.supplier (binding : Binding) : Supplier :=
  binding.suppliers binding.cell.supplier

/-- Who looks a binding up: an engine with services, for an expression. -/
structure Caller where
  engine : Engine
  services : Services
  expression : Expression

/-- The evaluator that a caller looks a binding up with. -/
def Caller.evaluator (caller : Caller) (binding : Binding) : Evaluator :=
  ⟨caller.engine, caller.services, binding.suppliers⟩

/-- The stage of a lookup. -/
inductive Stage where
  | waiting (ticket : Nat)
  | running (ticket : Nat) (advance : Scene →
      Poll Scene (Except EngineError Settled))
      (release : Scene → Scene)
  | finished (own : Option (Except EngineError Settled))
      (result : Except EngineError Settled)
  | dropped

namespace Stage

/-- The ticket of a lookup that has not ended. -/
def ticket? : Stage → Option Nat
  | .waiting ticket => some ticket
  | .running ticket _ _ => some ticket
  | .finished _ _ => none
  | .dropped => none

end Stage

variable (binding : Binding) (caller : Caller)

namespace Binding

def memo (scene : Scene) : Memo :=
  scene.data.memo binding.cell

def leave (ticket : Nat) (scene : Scene) : Scene :=
  scene.updateMemo binding.cell (Memo.leave ticket)

/-- Where a lookup stands when the invocation that it made has come to a
completion. -/
def invoked
    (ticket : Nat) (invocation : Evaluation Scene Settled) (scene : Scene) :
    Stage × Scene :=
  match invocation with
  | .ready outcome =>
    (.finished (some outcome) outcome, scene.endRun binding.cell ticket outcome)
  | .pending advance release => (.running ticket advance release, scene)

end Binding

namespace Caller

/-- Calls the supplier and polls its answer once. -/
def call (ticket : Nat) (scene : Scene) : Stage × Scene :=
  let (answer, scene) :=
    (caller.evaluator binding).callSupplier binding.cell scene
  let (invocation, scene) :=
    (answer.flatten caller.expression
      (caller.evaluator binding).engine.config.unrestrictedAsyncValues).poll
      scene
  binding.invoked ticket invocation scene

/-- Calls the supplier when the lookup is first in line. -/
def turn (ticket : Nat) (scene : Scene) : Stage × Scene :=
  match (binding.memo scene).mayRun ticket with
  | true => caller.call binding ticket scene
  | false => (.waiting ticket, scene)

def start (scene : Scene) : Stage × Scene :=
  match (binding.memo scene).value with
  | some settled => (.finished none (.ok settled), scene)
  | none =>
    caller.turn binding (scene.nextTicket binding.cell)
      (scene.joinLine binding.cell)

def poll (stage : Stage) (scene : Scene) : Stage × Scene :=
  match stage with
  | .waiting ticket =>
    match (binding.memo scene).value with
    | some settled => (.finished none (.ok settled), scene)
    | none => caller.turn binding ticket scene
  | .running ticket advance release =>
    match advance scene with
    | .blocked => (.running ticket advance release, scene)
    | .advanced invocation scene => binding.invoked ticket invocation scene
  | .finished own result => (.finished own result, scene)
  | .dropped => (.dropped, scene)

end Caller

/-- Drops a lookup.  One that has finished stays so. -/
def Stage.drop (stage : Stage) (scene : Scene) : Stage × Scene :=
  match stage with
  | .waiting ticket => (.dropped, binding.leave ticket scene)
  | .running ticket _ release =>
    (.dropped, binding.leave ticket (release scene))
  | .finished own result => (.finished own result, scene)
  | .dropped => (.dropped, scene)

/-- The completion of a lookup in a stage; a dropped one has none. -/
def Caller.completion? : Stage → Option (Evaluation Scene Settled)
  | .waiting ticket =>
    some
      ((caller.evaluator binding).waiting caller.expression binding.cell ticket)
  | .running ticket advance release =>
    some (.pending
      (fun scene =>
        Completion.endingPoll (Scene.endRun binding.cell ticket)
          (binding.leave ticket)
          (advance scene))
      (fun scene => binding.leave ticket (release scene)))
  | .finished _ result => some (.ready result)
  | .dropped => none

variable {binding caller}

theorem completion?_invoked
    (ticket : Nat) (invocation : Evaluation Scene Settled) (scene : Scene) :
    let ended :=
      invocation.ending (Scene.endRun binding.cell ticket)
        (binding.leave ticket) scene
    caller.completion? binding (binding.invoked ticket invocation scene).1 =
      some ended.1 ∧
      (binding.invoked ticket invocation scene).2 = ended.2 := by
  cases invocation with
  | ready outcome =>
      rw [Completion.ending]
      exact ⟨rfl, rfl⟩
  | pending advance release =>
      rw [Completion.ending]
      exact ⟨rfl, rfl⟩

theorem completion?_call (ticket : Nat) (scene : Scene) :
    let ran :=
      (caller.evaluator binding).runSupplier caller.expression binding.cell
        ticket scene
    caller.completion? binding (caller.call binding ticket scene).1 =
      some ran.1 ∧
      (caller.call binding ticket scene).2 = ran.2 :=
  completion?_invoked ticket _ _

variable (binding caller) in
/-- Starting a lookup leads to the stage whose completion the evaluator
gives. -/
theorem completion?_start (scene : Scene) :
    let looked :=
      (caller.evaluator binding).lookupComputed caller.expression
        binding.cell scene
    caller.completion? binding (caller.start binding scene).1 = some looked.1 ∧
      (caller.start binding scene).2 = looked.2 := by
  rw [Caller.start, Binding.memo]
  cases value : (scene.data.memo binding.cell).value with
  | some settled =>
      rw [Evaluator.lookupComputed_of_kept _ _ value]
      exact ⟨rfl, rfl⟩
  | none =>
      rw [Evaluator.lookupComputed_of_not_kept _ _ value]
      dsimp only
      rw [Caller.turn, Binding.memo]
      cases first :
          ((scene.joinLine binding.cell).data.memo binding.cell).mayRun
          (scene.nextTicket binding.cell) with
      | true => exact completion?_call _ _
      | false => exact ⟨rfl, rfl⟩

/-- A poll of a stage is the poll of the completion that stands for it. -/
theorem completion?_poll
    {stage : Stage} {completion : Evaluation Scene Settled}
    (stands : caller.completion? binding stage = some completion)
    (scene : Scene) :
    caller.completion? binding (caller.poll binding stage scene).1 =
        some (completion.poll scene).1 ∧
      (caller.poll binding stage scene).2 = (completion.poll scene).2 := by
  cases stage with
  | waiting ticket =>
      cases stands
      rw [Caller.poll, Binding.memo, Evaluator.waiting, Completion.poll]
      dsimp only
      cases (scene.data.memo binding.cell).value with
      | some settled => exact ⟨rfl, rfl⟩
      | none =>
          dsimp only
          rw [Caller.turn, Binding.memo]
          cases first : (scene.data.memo binding.cell).mayRun ticket with
          | true => exact completion?_call _ _
          | false => exact ⟨rfl, rfl⟩
  | running ticket advance release =>
      cases stands
      rw [Caller.poll, Completion.poll]
      cases advance scene with
      | blocked =>
          rw [Completion.endingPoll]
          exact ⟨rfl, rfl⟩
      | advanced invocation after =>
          rw [Completion.endingPoll]
          exact completion?_invoked ticket invocation after
  | finished own result =>
      cases stands
      exact ⟨rfl, rfl⟩
  | dropped => cases stands

theorem completion?_eq_none
    {stage : Stage} (absent : caller.completion? binding stage = none) :
    stage = .dropped := by
  cases stage with
  | dropped => rfl
  | waiting ticket => cases absent
  | running ticket advance release => cases absent
  | finished own result => cases absent

/-- Dropping a lookup that has not finished abandons its completion. -/
theorem drop_of_pending
    {stage : Stage} {completion : Evaluation Scene Settled}
    (stands : caller.completion? binding stage = some completion)
    (pending : completion.isReady = false) (scene : Scene) :
    stage.drop binding scene = (.dropped, completion.abandon scene) := by
  cases stage with
  | waiting ticket =>
      cases stands
      rfl
  | running ticket advance release =>
      cases stands
      rfl
  | finished own result =>
      cases stands
      cases pending
  | dropped => cases stands

theorem drop_of_ready
    {stage : Stage} {completion : Evaluation Scene Settled}
    (stands : caller.completion? binding stage = some completion)
    (ready : completion.isReady = true) (scene : Scene) :
    stage.drop binding scene = (stage, scene) := by
  cases stage with
  | waiting ticket =>
      cases stands
      cases ready
  | running ticket advance release =>
      cases stands
      cases ready
  | finished own result => rfl
  | dropped => cases stands

end Memoization

end Phrasebook
