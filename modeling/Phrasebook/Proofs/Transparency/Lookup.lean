import Phrasebook.Proofs.Sharing.Course
import Phrasebook.Proofs.Transparency.Oracle

/-!
# Lookups that follow an oracle

A lookup of a computed binding makes only steps of its own place in the line,
and ends in what the binding holds, whether it finds the value kept, runs the
supplier, or waits for another lookup that does so; and asking a chain of
resolvers ends in what the oracle's responders say.
-/

namespace Phrasebook

variable {setting : Setting} {scene : Scene}

/-- Taking the handles off an answer holds no place and ends in the shape of the
answer. -/
theorem Resolved.Delivers.meets
    {unrestricted : Bool} {answer : Resolved Scene} {shape : Shape}
    (delivers : answer.Delivers unrestricted shape) (expression : Expression) :
    setting.Meets shape.toOption
      (answer.flatten expression unrestricted) ∅ := by
  rcases delivers with ⟨wraps, keeps⟩
  refine Setting.meets_of_keeps (keeps.flatten expression unrestricted) ?_
  refine (wraps.flatten expression).mono ?_
  rintro _ rfl
  exact shape.toOption_outcome expression

section Binding

variable {cell : Cell} {ticket : Nat}

/-- A run that ends gives up its place: a success is kept, and a failure leaves
the line. -/
theorem step_endRun
    {result : Except EngineError Settled} (sound : setting.Sound scene)
    (result_eq : result.toOption = setting.computed cell) :
    setting.Step {(cell, ticket)} ∅ scene
      (scene.endRun cell ticket result) := by
  cases result with
  | error error => exact Setting.step_leave sound
  | ok settled => exact Setting.step_keep sound result_eq.symm

/-- A run that changes no data until its end holds its place until then. -/
theorem starts_ending
    {completion : Evaluation Scene Settled}
    (keeps : completion.Keeps Scene.data)
    (yields : completion.Yields fun result =>
      result.toOption = setting.computed cell)
    (sound : setting.Sound scene) (holds : scene.Holds {(cell, ticket)}) :
    setting.Starts (setting.computed cell) {(cell, ticket)} scene
      (completion.ending (Scene.endRun cell ticket)
        (Scene.updateMemo cell (Memo.leave ticket))
        scene) := by
  induction completion using Completion.ind generalizing scene with
  | ready result =>
      rw [Completion.ending]
      exact ⟨∅, step_endRun sound yields, Setting.meets_ready yields⟩
  | pending advance release ih =>
      rw [Completion.ending]
      refine ⟨_, .refl sound holds, ?_⟩
      rw [Setting.Meets]
      intro scene sound holds
      have kept := keeps.1 scene
      have expected := yields scene
      refine ⟨?_, ?_⟩
      · cases poll : advance scene with
        | blocked =>
            rw [poll] at expected
            exact expected.elim
        | advanced next after =>
            rw [poll] at kept expected
            have step := Setting.Step.of_data sound kept.1 holds
            rw [Completion.endingPoll, Setting.PollMeets]
            exact
              (ih scene next after poll kept.2 expected step.sound
                step.holds).after sound step
      · have step := Setting.Step.of_data sound (keeps.2 scene) holds
        exact step.trans sound (Setting.step_leave step.sound)

variable {evaluator : Evaluator} {shape : String → Shape}

theorem Supplier.Follows.called
    (follows :
      (evaluator.suppliers cell.supplier).Follows evaluator.unrestricted
        evaluator.services shape)
    (scene : Scene) :
    (evaluator.callSupplier cell scene).1.Delivers evaluator.unrestricted
      (shape cell.key) ∧
      (evaluator.callSupplier cell scene).2.data = (scene.noteCall cell).data :=
  ⟨follows.answers _ _ _, follows.data _ _ _⟩

theorem starts_runSupplier
    (follows :
      (evaluator.suppliers cell.supplier).Follows evaluator.unrestricted
        evaluator.services shape)
    (supplied : setting.supplied cell = (shape cell.key).toOption)
    (expression : Expression)
    (sound : setting.Sound scene) (holds : scene.Holds {(cell, ticket)})
    (notKept : (scene.data.memo cell).value = none) :
    setting.Starts (setting.computed cell) {(cell, ticket)} scene
      (evaluator.runSupplier expression cell ticket scene) := by
  have computed : setting.computed cell = (shape cell.key).toOption := by
    rw [(sound.memo cell).unkept notKept, supplied]
  rw [Evaluator.runSupplier_eq]
  rcases follows.called scene with ⟨⟨wraps, keeps⟩, unchanged⟩
  have keeps' :=
    (keeps.flatten expression evaluator.unrestricted).poll
      (evaluator.callSupplier cell scene).2
  have yields :
      (((evaluator.callSupplier cell scene).1.flatten expression
        evaluator.unrestricted).poll
        (evaluator.callSupplier cell scene).2).1.Yields
          fun result => result.toOption = setting.computed cell := by
    refine ((wraps.flatten expression).poll _).mono ?_
    rintro _ rfl
    rw [computed]
    exact (shape cell.key).toOption_outcome expression
  have noted := Setting.step_noteCall cell sound holds
  have answered := Setting.Step.of_data noted.sound unchanged noted.holds
  have polled := Setting.Step.of_data answered.sound keeps'.1 answered.holds
  have ran := starts_ending keeps'.2 yields polled.sound polled.holds
  exact (ran.after answered.sound polled).after noted.sound answered |>.after
    sound noted

theorem meets_waiting
    (follows :
      (evaluator.suppliers cell.supplier).Follows evaluator.unrestricted
        evaluator.services shape)
    (supplied : setting.supplied cell = (shape cell.key).toOption)
    (expression : Expression) :
    setting.Meets (setting.computed cell)
      (evaluator.waiting expression cell ticket) {(cell, ticket)} := by
  rw [Evaluator.waiting, Setting.Meets]
  intro scene sound holds
  refine ⟨?_, Setting.step_leave sound⟩
  have memo := sound.memo cell
  dsimp only
  cases value : (scene.data.memo cell).value with
  | some settled =>
      have dismissed : ∀ place ∈ ({(cell, ticket)} : Set Place),
          ¬ scene.InLine place := by
        rintro _ rfl
        rw [Scene.InLine, memo.dismissed (by simp [value])]
        exact List.not_mem_nil
      exact ⟨∅, .of_dismissed sound dismissed,
        Setting.meets_ready (memo.kept settled value).symm⟩
  | none =>
      dsimp only
      split_ifs with first
      · exact starts_runSupplier follows supplied expression sound holds value
      · refine ⟨⟨(cell, ticket), rfl, ?_⟩, ?_⟩
        · have present := (holds (cell, ticket) rfl).2
          exact present.resolve_right fun kept => kept value
        · rintro _ rfl isFirst
          exact first (beq_iff_eq.mpr isFirst)

/-- A lookup of a computed binding ends in what the binding holds. -/
theorem starts_lookupComputed
    (follows :
      (evaluator.suppliers cell.supplier).Follows evaluator.unrestricted
        evaluator.services shape)
    (supplied : setting.supplied cell = (shape cell.key).toOption)
    (expression : Expression) (sound : setting.Sound scene) :
    setting.Starts (setting.computed cell) ∅ scene
      (evaluator.lookupComputed expression cell scene) := by
  cases value : (scene.data.memo cell).value with
  | some settled =>
      rw [Evaluator.lookupComputed_of_kept _ _ value]
      exact Setting.starts_ready sound
        ((sound.memo cell).kept settled value).symm
  | none =>
      rw [Evaluator.lookupComputed_of_not_kept _ _ value]
      have joined := Setting.step_joinLine sound fun kept => kept value
      have value' : ((scene.joinLine cell).data.memo cell).value = none := by
        simpa using value
      split_ifs
      · exact
          (starts_runSupplier follows supplied expression joined.sound
            joined.holds value').after
          sound joined
      · exact ⟨_, joined, meets_waiting follows supplied expression⟩

end Binding

end Phrasebook
