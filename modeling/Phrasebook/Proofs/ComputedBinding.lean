import Phrasebook.Engine.Evaluation
import Phrasebook.Proofs.Scene

/-!
# Lookups of computed bindings, step by step

A lookup of a computed binding finds a kept value, or joins the line and runs
the supplier when it is first in it.  This module names the two moments of a run
that change the memo, the call of the supplier and the end of its answer, and
says what each of them does.
-/

namespace Phrasebook

namespace Scene

/-- A new lookup of a binding joins the line. -/
def joinLine (cell : Cell) (scene : Scene) : Scene :=
  scene.updateMemo cell fun memo => memo.join.2

def noteCall (cell : Cell) (scene : Scene) : Scene :=
  (scene.log (.evaluatingBinding cell.key)).updateMemo cell Memo.called

/-- The end of a supplier's run for the lookup with a ticket: a success is kept,
a failure only takes the lookup out of the line. -/
def endRun (cell : Cell) (ticket : Nat) (outcome : Except EngineError Settled)
    (scene : Scene) : Scene :=
  match outcome with
  | .ok settled => scene.updateMemo cell (Memo.keep settled)
  | .error _ => scene.updateMemo cell (Memo.leave ticket)

/-- The ticket that the next lookup of a binding gets. -/
def nextTicket (cell : Cell) (scene : Scene) : Nat :=
  (scene.data.memo cell).nextTicket

section Memos

variable (cell : Cell) (scene : Scene)

@[simp]
theorem memo_joinLine_self :
    (scene.joinLine cell).data.memo cell =
      { scene.data.memo cell with
        line := (scene.data.memo cell).line ++ [scene.nextTicket cell]
        nextTicket := scene.nextTicket cell + 1 } := by
  simp [joinLine, Memo.join, nextTicket]

@[simp]
theorem memo_noteCall_self :
    (scene.noteCall cell).data.memo cell =
      { scene.data.memo cell with
        calls := (scene.data.memo cell).calls + 1 } := by
  simp [noteCall, Memo.called]

@[simp]
theorem memo_endRun_ok_self (ticket : Nat) (settled : Settled) :
    (scene.endRun cell ticket (.ok settled)).data.memo cell =
      { scene.data.memo cell with value := some settled, line := [] } := by
  simp [endRun, Memo.keep]

@[simp]
theorem memo_endRun_error_self (ticket : Nat) (error : EngineError) :
    (scene.endRun cell ticket (.error error)).data.memo cell =
      { scene.data.memo cell with
        line := (scene.data.memo cell).line.erase ticket } := by
  simp [endRun, Memo.leave]

variable {cell scene} {asked : Cell} (different : asked ≠ cell)

include different

theorem memo_joinLine_of_ne :
    (scene.joinLine cell).data.memo asked = scene.data.memo asked :=
  memo_updateMemo_of_ne different _ _

/-- A call that is noted in one cell changes no other memo. -/
theorem memo_noteCall_of_ne :
    (scene.noteCall cell).data.memo asked = scene.data.memo asked :=
  memo_updateMemo_of_ne different _ _

/-- The end of a run in one cell changes no other memo. -/
theorem memo_endRun_of_ne
    (ticket : Nat) (outcome : Except EngineError Settled) :
    (scene.endRun cell ticket outcome).data.memo asked =
      scene.data.memo asked := by
  cases outcome <;> exact memo_updateMemo_of_ne different _ _

end Memos

end Scene

namespace Evaluator

variable (evaluator : Evaluator)

/-- The answer of the supplier of a binding to its next call. -/
def callSupplier (cell : Cell) (scene : Scene) : Resolved Scene × Scene :=
  evaluator.suppliers cell.supplier evaluator.services cell.key
    ((scene.noteCall cell).data.memo cell).calls (scene.noteCall cell)

variable (expression : Expression) {cell : Cell}

/-- A run calls the supplier, takes the handles off its answer, and polls the
result once. -/
theorem runSupplier_eq (cell : Cell) (ticket : Nat) (scene : Scene) :
    evaluator.runSupplier expression cell ticket scene =
      let called := evaluator.callSupplier cell scene
      let polled :=
        (called.1.flatten expression
          evaluator.engine.config.unrestrictedAsyncValues).poll called.2
      polled.1.ending (Scene.endRun cell ticket)
        (Scene.updateMemo cell (Memo.leave ticket))
        polled.2 :=
  rfl

/-- A kept value is found without a supplier being called. -/
theorem lookupComputed_of_kept
    {scene : Scene} {settled : Settled}
    (kept : (scene.data.memo cell).value = some settled) :
    evaluator.lookupComputed expression cell scene =
      (.ready (.ok settled), scene) := by
  simp [lookupComputed, kept]

/-- Without a kept value a lookup joins the line, and runs the supplier when it
is first. -/
theorem lookupComputed_of_not_kept
    {scene : Scene} (notKept : (scene.data.memo cell).value = none) :
    evaluator.lookupComputed expression cell scene =
      if ((scene.joinLine cell).data.memo cell).mayRun (scene.nextTicket cell)
        then
        evaluator.runSupplier expression cell (scene.nextTicket cell)
          (scene.joinLine cell)
      else
        (evaluator.waiting expression cell (scene.nextTicket cell),
          scene.joinLine cell) := by
  simp only [lookupComputed, notKept, Scene.memo_joinLine_self]
  rfl

end Evaluator

end Phrasebook
