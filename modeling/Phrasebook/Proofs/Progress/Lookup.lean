import Phrasebook.Proofs.Progress.Answer
import Phrasebook.Proofs.Progress.Course

/-!
# Lookups that never get stuck

What an evaluator asks for comes to an end when no resolver, supplier or handle
touches the memos, and no poll of a handle is ever blocked.  The answers, with
their handles taken off, hold no posts; a lookup that runs the supplier holds
the first place in line until the answer has settled; and a lookup that waits
waits behind one that runs.  So the lookups of such an evaluator obey the clock.
-/

namespace Phrasebook

open Completion (doomed_error failure?)

section Answers

variable (asked passed : Scene → Scene → Prop) (services : Services)

/-- Asking a resolver leads to a scene as expected, and its answers come to an
end. -/
def Resolver.Ends (resolver : Resolver) : Prop :=
  ∀ base part arguments topLevel scene,
    asked scene
      (resolver.resolve ⟨base, part, arguments, topLevel, services⟩ scene).2 ∧
      ∀ answer,
        (resolver.resolve ⟨base, part, arguments, topLevel, services⟩ scene).1 =
          some answer →
        answer.Ends passed

/-- Calling a supplier leads to a scene as expected, and its answers come to an
end. -/
def Supplier.Ends (supplier : Supplier) : Prop :=
  ∀ key call scene,
    asked scene (supplier services key call scene).2 ∧
      (supplier services key call scene).1.Ends passed

end Answers

/-- All that an evaluator asks for comes to an end. -/
structure Evaluator.Ends
    (asked passed : Scene → Scene → Prop) (evaluator : Evaluator) : Prop where
  resolvers : ∀ resolver ∈ evaluator.engine.resolvers,
    resolver.Ends asked passed evaluator.services
  namespaces : ∀ qualifier chain, evaluator.engine.namespaces.get? qualifier =
    some chain →
    ∀ resolver ∈ chain, resolver.Ends asked passed evaluator.services
  suppliers : ∀ name,
    Supplier.Ends asked passed evaluator.services (evaluator.suppliers name)

theorem Evaluator.Ends.asks
    {asked passed : Scene → Scene → Prop} {evaluator : Evaluator}
    (ends : evaluator.Ends asked passed) {expression : Expression}
    {resolver : Resolver} (asks : evaluator.Asks expression resolver)
    (part : Part) (arguments : List Json) (base : Json) (topLevel : Bool)
    (scene : Scene) :
    asked scene
      (resolver.resolve (evaluator.request part arguments base topLevel)
        scene).2 ∧
      ∀ answer,
        (resolver.resolve (evaluator.request part arguments base topLevel)
          scene).1 = some answer →
          answer.Ends passed := by
  rcases asks with member | ⟨qualifier, chain, -, found, member⟩
  · exact ends.resolvers resolver member base part arguments topLevel scene
  · exact ends.namespaces qualifier chain found resolver member base part
      arguments topLevel scene

namespace Clock

variable {clock : Clock} {before scene : Scene} {cell : Cell} {ticket : Nat}

/-- No memo has changed in between, and time has not run backwards. -/
def Asked (clock : Clock) (before after : Scene) : Prop :=
  Scene.SameMemos before after ∧ clock.reading before ≤ clock.reading after

/-- No memo has changed in between, and a handle has been advanced. -/
def Advanced (clock : Clock) (before after : Scene) : Prop :=
  Scene.SameMemos before after ∧ clock.Ticked before after

theorem Advanced.trans
    (before between after : Scene) (first : clock.Advanced before between)
    (second : clock.Advanced between after) :
    clock.Advanced before after :=
  ⟨second.1.trans first.1,
    second.2.of_le ((Nat.le_add_right _ _).trans first.2)⟩

theorem Advanced.asked
    {after : Scene} (advanced : clock.Advanced before after) :
    clock.Asked before after :=
  ⟨advanced.1, (Nat.le_add_right _ _).trans advanced.2⟩

/-- Whoever has been asked moves nobody's stand. -/
theorem Asked.move
    {after : Scene} {held : Set Stand} (asked : clock.Asked before after)
    (inOrder : before.InOrder) (grants : ∀ stand ∈ held, before.Grants stand) :
    clock.Move held held before after :=
  .of_memos inOrder grants asked.1 asked.2

theorem Asked.move_empty {after : Scene} (asked : clock.Asked before after)
    (inOrder : before.InOrder) :
    clock.Move ∅ ∅ before after :=
  asked.move inOrder fun _ member => member.elim

theorem Asked.goes {after : Scene} (asked : clock.Asked before after) :
    clock.Goes before after :=
  .inr (Scene.calm_of_memos asked.1)

/-- A completion that is never blocked and leaves the memos alone holds no
posts. -/
theorem obeys_of_passes
    {ε α : Type} {completion : Completion Scene (Except ε α)}
    (passes : completion.Passes clock.Advanced) :
    clock.Obeys completion ∅ := by
  induction completion using Completion.ind with
  | ready result => exact rfl
  | pending advance release ih =>
      intro scene inOrder grants
      have reached := passes scene
      cases polled : advance scene with
      | blocked =>
          rw [polled] at reached
          exact reached.elim
      | advanced next after =>
          rw [polled] at reached
          exact .inr ⟨∅, reached.1.asked.move inOrder grants,
            ih scene next after polled reached.2,
            .inl reached.1.2⟩

section Runs

variable {completion : Evaluation Scene Settled}
  (passes : completion.Passes clock.Advanced)

include passes

/-- The end of the answer of a supplier, for the lookup that runs it: the run
has failed, or it has kept its value, or it goes on. -/
theorem obeys_ending
    (release : Scene → Scene) (inOrder : scene.InOrder)
    (runs : scene.Grants (cell, .running, ticket)) :
    (∃ error,
      (completion.ending (Scene.endRun cell ticket) release scene).1.failure? =
        some error) ∨
      ∃ held, clock.Move {(cell, .running, ticket)} held scene
          (completion.ending (Scene.endRun cell ticket) release scene).2 ∧
        clock.Obeys
          (completion.ending (Scene.endRun cell ticket) release scene).1
          held := by
  induction completion using Completion.ind generalizing scene with
  | ready result =>
      cases result with
      | error error => exact .inl ⟨error, rfl⟩
      | ok settled => exact .inr ⟨∅, move_keep inOrder settled runs, rfl⟩
  | pending advance release' ih =>
      rw [Completion.ending]
      have running : ∀ stand ∈ ({(cell, .running, ticket)} : Set Stand),
          scene.Grants stand := by
        rintro stand rfl
        exact runs
      refine .inr ⟨_, .refl inOrder running, fun scene inOrder grants => ?_⟩
      have reached := passes scene
      dsimp only
      cases polled : advance scene with
      | blocked =>
          rw [polled] at reached
          exact reached.elim
      | advanced next after =>
          rw [polled] at reached
          have move := reached.1.asked.move inOrder grants
          rw [Completion.endingPoll]
          rcases ih scene next after polled reached.2 move.inOrder
              (move.grants _ rfl) with
            failed | ⟨held, move', obeys⟩
          · exact .inl failed
          · exact .inr ⟨held, move.trans inOrder move', obeys,
              .inl (reached.1.2.trans move'.later)⟩

/-- The run of a lookup that is alone in its line, from the answer of the
supplier on. -/
theorem starts_ending
    (release : Scene → Scene) (inOrder : before.InOrder)
    (nobody : (before.data.memo cell).line = [])
    (elsewhere : ∀ asked, asked ≠ cell →
      scene.data.memo asked = before.data.memo asked)
    (move : clock.Move ∅ {(cell, .running, ticket)} before scene) :
    clock.Starts ∅ before
      ((completion.poll scene).1.ending (Scene.endRun cell ticket) release
        (completion.poll scene).2) := by
  cases completion with
  | ready result =>
      rw [Completion.poll_ready, Completion.ending_ready]
      cases result with
      | error error => exact .inl (doomed_error error)
      | ok settled =>
          have kept :
              clock.Move {(cell, .running, ticket)} ∅ scene
                  (scene.updateMemo cell (Memo.keep settled)) :=
            move_keep move.inOrder settled (move.grants _ rfl)
          refine .inr ⟨∅, move.trans inOrder kept, rfl, .inr fun asked => ?_⟩
          by_cases same : asked = cell
          · rw [same, nobody]
            exact List.nil_prefix
          · rw [Scene.endRun, Scene.memo_updateMemo_of_ne same,
              elsewhere asked same]
  | pending advance release' =>
      have reached := passes scene
      rw [Completion.poll]
      cases polled : advance scene with
      | blocked =>
          rw [polled] at reached
          exact reached.elim
      | advanced next after =>
          rw [polled] at reached
          have call : clock.Move {(cell, .running, ticket)}
              {(cell, .running, ticket)} scene after :=
            reached.1.asked.move move.inOrder move.grants
          rcases obeys_ending reached.2 release call.inOrder
              (call.grants _ rfl) with
            ⟨error, failed⟩ | ⟨held, move', obeys⟩
          · left
            rw [Completion.failure?_eq_some.mp failed]
            exact doomed_error error
          · refine .inr ⟨held, (move.trans inOrder call).trans inOrder move',
              obeys, .inl ?_⟩
            exact (reached.1.2.of_le move.later).trans move'.later

end Runs

section Lookups

variable {evaluator : Evaluator} {expression : Expression}

/-- A lookup that waits. -/
theorem obeys_waiting :
    clock.Obeys (evaluator.waiting expression cell ticket)
      {(cell, .waiting, ticket)} := by
  intro scene inOrder grants
  have granted := grants _ rfl
  dsimp only
  cases value : (scene.data.memo cell).value with
  | some settled =>
      refine .inr ⟨∅, .forget inOrder ?_, rfl,
        .inr ⟨.refl scene, .inl ⟨rfl, rfl⟩⟩⟩
      rintro stand rfl
      rfl
  | none =>
      rcases granted.2 with ⟨inLine, notFirst⟩ | kept
      · have waits : (scene.data.memo cell).mayRun ticket = false := by
          simpa [Memo.mayRun] using notFirst
        dsimp only
        rw [waits]
        refine ⟨?_, _, rfl, inLine⟩
        rintro stand rfl
        rfl
      · exact (kept value).elim

variable
  (supplied : Supplier.Ends clock.Asked clock.Advanced evaluator.services
    (evaluator.suppliers cell.supplier))

include supplied

/-- A lookup that is alone in its line runs the supplier. -/
theorem starts_runSupplier
    (inOrder : scene.InOrder) (notKept : (scene.data.memo cell).value = none)
    (nobody : (scene.data.memo cell).line = []) :
    clock.Starts ∅ scene
      (evaluator.runSupplier expression cell (scene.nextTicket cell)
        (scene.joinLine cell)) := by
  have join : clock.Move ∅ {(cell, .running, scene.nextTicket cell)} scene
      (scene.joinLine cell) :=
    move_join inOrder (.join_alone notKept nobody)
  have note : clock.Move {(cell, .running, scene.nextTicket cell)}
      {(cell, .running, scene.nextTicket cell)}
      (scene.joinLine cell) ((scene.joinLine cell).noteCall cell) :=
    move_noteCall join.inOrder join.grants
  have said : clock.Asked ((scene.joinLine cell).noteCall cell)
        (evaluator.callSupplier cell (scene.joinLine cell)).2 ∧
      (evaluator.callSupplier cell (scene.joinLine cell)).1.Ends
          clock.Advanced :=
    supplied cell.key _ _
  have call := said.1.move note.inOrder note.grants
  have passes := said.2.flatten Advanced.trans expression
    evaluator.engine.config.unrestrictedAsyncValues
  rw [Evaluator.runSupplier_eq]
  refine starts_ending passes _ inOrder nobody (fun asked different => ?_)
    ((join.trans inOrder note).trans inOrder call)
  rw [RenderData.memo_congr said.1.1, Scene.memo_noteCall_of_ne different,
    Scene.memo_joinLine_of_ne different]

/-- The lookup of a computed binding finds the value, runs the supplier, or
waits behind a run. -/
theorem starts_lookupComputed (inOrder : scene.InOrder) :
    clock.Starts ∅ scene (evaluator.lookupComputed expression cell scene) := by
  cases kept : (scene.data.memo cell).value with
  | some settled =>
      rw [Evaluator.lookupComputed_of_kept _ _ kept]
      exact starts_ready _ inOrder
  | none =>
      rw [Evaluator.lookupComputed_of_not_kept _ _ kept]
      by_cases nobody : (scene.data.memo cell).line = []
      · have runs : ((scene.joinLine cell).data.memo cell).mayRun
            (scene.nextTicket cell) = true := by
          simp [Memo.mayRun, nobody]
        rw [if_pos runs]
        exact starts_runSupplier supplied inOrder kept nobody
      · have join : clock.Move ∅ {(cell, .waiting, scene.nextTicket cell)} scene
            (scene.joinLine cell) :=
          move_join inOrder (.join_behind (inOrder cell) nobody)
        have waits : ((scene.joinLine cell).data.memo cell).mayRun
            (scene.nextTicket cell) ≠ true := by
          have notFirst := (join.grants _ rfl).2.resolve_right fun isKept =>
            isKept ?_
          · simpa [Memo.mayRun] using notFirst.2
          · simpa using kept
        rw [if_neg waits]
        refine .inr ⟨_, join, obeys_waiting, .inr fun asked => ?_⟩
        by_cases same : asked = cell
        · subst same
          simp
        · rw [Scene.memo_joinLine_of_ne same]

end Lookups

end Clock

end Phrasebook
