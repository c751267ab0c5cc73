import Phrasebook.Engine.Evaluation
import Phrasebook.Proofs.Callback.Quiet
import Phrasebook.Proofs.Completion.Conduct

/-!
# Answers that come to an end

An answer is a finite nest of handles.  It comes to an end when no poll of any
of its handles is ever blocked; what each poll may do to the state is a relation
between the state before and the state after it.  Taking the handles off such an
answer gives a completion that is never blocked either, and each of its polls
advances one handle, or several, one inside the other.

`Resolved.reporting` makes the handles of an answer report: each poll that
advances a handle leaves a note in the journal.
-/

namespace Phrasebook

namespace Completion

variable {σ ρ : Type}

mutual

/-- No poll of a completion is ever blocked, and each one leads to a state as
expected. -/
def Passes (passed : σ → σ → Prop) : Completion σ ρ → Prop
  | .ready _ => True
  | .pending advance _ => ∀ state, PollPasses passed state (advance state)

/-- A poll at a state was not blocked, and led to a state as expected. -/
def PollPasses (passed : σ → σ → Prop) (state : σ) : Poll σ ρ → Prop
  | .blocked => False
  | .advanced next after => passed state after ∧ Passes passed next

end

variable {passed : σ → σ → Prop}

/-- A step to a state and a poll there make one poll. -/
theorem pollPasses_reach
    (trans : ∀ before between after, passed before between →
      passed between after → passed before after)
    {completion : Completion σ ρ} (passes : completion.Passes passed)
    {before between : σ} (step : passed before between) :
    PollPasses passed before (completion.reach between) := by
  cases completion with
  | ready result => exact ⟨step, trivial⟩
  | pending advance release =>
      have reached := passes between
      rw [Completion.reach, Completion.poll]
      cases polled : advance between with
      | blocked =>
          rw [polled] at reached
          exact reached.elim
      | advanced next after =>
          rw [polled] at reached
          exact ⟨trans before between after step reached.1, reached.2⟩

end Completion

namespace Scene

/-- No memo has changed in between. -/
def SameMemos (before after : Scene) : Prop :=
  after.data.memos = before.data.memos

/-- Registering a computed binding, under a key that is being looked up or
another one, is no change of a memo. -/
example (key supplier : String) (scene : Scene) :
    SameMemos scene
      { scene with data := scene.data.setComputed key supplier } :=
  rfl

/-- The number of reports in the journal. -/
def reports (tag : String) (scene : Scene) : Nat :=
  (scene.notes (· == tag)).length

/-- No memo has changed in between, and a report was left. -/
def Reported (tag : String) (before after : Scene) : Prop :=
  SameMemos before after ∧ before.reports tag + 1 ≤ after.reports tag

/-- A scene that has kept its memos and notes has noted one report. -/
theorem reported_log
    {tag : String} {before after : Scene} (same : SameMemos before after)
    (kept : after.notes (· == tag) = before.notes (· == tag)) :
    Reported tag before (after.log (.note tag)) := by
  refine ⟨same, ?_⟩
  rw [reports, reports, ← kept, Scene.notes, Scene.notes, log,
    EngineState.notes_log]
  simp [Event.note?]

end Scene

namespace Resolved

variable {σ : Type}

mutual

/-- No poll of a handle of an answer is ever blocked, and each one leads to a
state as expected. -/
def Ends (passed : σ → σ → Prop) : Resolved σ → Prop
  | .value _ => True
  | .notFound => True
  | .node _ => True
  | .failed _ => True
  | .completed inner => Ends passed inner
  | .pending handle => HandleEnds passed handle
  | .foreign handle => HandleEnds passed handle

/-- A handle and the answer it gives come to an end.  One that has its answer is
polled once. -/
def HandleEnds (passed : σ → σ → Prop) : Completion σ (Resolved σ) → Prop
  | .ready answer => (∀ state, passed state state) ∧ Ends passed answer
  | .pending advance _ => ∀ state, HandlePollEnds passed state (advance state)

/-- A poll of a handle at a state was not blocked, and what is left of the
handle comes to an end. -/
def HandlePollEnds (passed : σ → σ → Prop) (state : σ) :
    Poll σ (Resolved σ) → Prop
  | .blocked => False
  | .advanced next after =>
    passed state after ∧
      match next with
      | .ready answer => Ends passed answer
      | .pending advance release => HandleEnds passed (.pending advance release)

end

variable {passed : σ → σ → Prop}

mutual

/-- Taking the handles off an answer that comes to an end. -/
theorem Ends.flatten
    (trans : ∀ before between after, passed before between →
      passed between after → passed before after)
    (expression : Expression) (unrestricted : Bool) {answer : Resolved σ}
    (ends : answer.Ends passed) :
    (answer.flatten expression unrestricted).Passes passed := by
  match answer with
  | .value _ | .notFound | .node _ | .failed _ => trivial
  | .completed inner =>
      have inside : inner.Ends passed := ends
      exact inside.flatten trans expression unrestricted
  | .pending handle =>
      exact HandleEnds.awaiting trans expression unrestricted ends
  | .foreign handle =>
      cases unrestricted with
      | true => exact HandleEnds.awaiting trans expression true ends
      | false => trivial

/-- Waiting for a handle ends after steps of the handle. -/
theorem HandleEnds.awaiting
    (trans : ∀ before between after, passed before between →
      passed between after → passed before after)
    (expression : Expression) (unrestricted : Bool)
    {handle : Completion σ (Resolved σ)} (ends : HandleEnds passed handle) :
    (Resolved.awaiting expression unrestricted handle).Passes passed := by
  match handle with
  | .ready answer =>
      have inside : answer.Ends passed := ends.2
      exact fun state =>
        Completion.pollPasses_reach trans
          (inside.flatten trans expression unrestricted) (ends.1 state)
  | .pending advance release =>
      exact fun state =>
        HandlePollEnds.awaitingPoll trans expression unrestricted (ends state)

theorem HandlePollEnds.awaitingPoll
    (trans : ∀ before between after, passed before between →
      passed between after → passed before after)
    (expression : Expression) (unrestricted : Bool) {state : σ}
    {poll : Poll σ (Resolved σ)} (ends : HandlePollEnds passed state poll) :
    Completion.PollPasses passed state
      (Resolved.awaitingPoll expression unrestricted poll) := by
  match poll with
  | .blocked => exact ends
  | .advanced (.ready answer) after =>
      have inside : answer.Ends passed := ends.2
      exact Completion.pollPasses_reach trans
        (inside.flatten trans expression unrestricted) ends.1
  | .advanced (.pending advance release) after =>
      exact ⟨ends.1, HandleEnds.awaiting trans expression unrestricted ends.2⟩

end

section Reporting

mutual

/-- The same answer with handles that leave a note with each poll that advances
them. -/
def reporting (tag : String) : Resolved Scene → Resolved Scene
  | .value found => .value found
  | .notFound => .notFound
  | .node result => .node result
  | .failed cause => .failed cause
  | .completed inner => .completed (reporting tag inner)
  | .pending handle => .pending (reportingHandle tag handle)
  | .foreign handle => .foreign (reportingHandle tag handle)

/-- A handle that reports.  One that has its answer is polled for it. -/
def reportingHandle (tag : String) :
    Completion Scene (Resolved Scene) → Completion Scene (Resolved Scene)
  | .ready answer =>
    .pending (fun scene =>
      .advanced (.ready (reporting tag answer)) (scene.log (.note tag))) id
  | .pending advance release =>
    .pending (fun scene => reportingPoll tag (advance scene)) release

/-- Reports that a poll has advanced a handle. -/
def reportingPoll
    (tag : String) : Poll Scene (Resolved Scene) → Poll Scene (Resolved Scene)
  | .blocked => .blocked
  | .advanced next scene =>
    match next with
    | .ready answer =>
      .advanced (.ready (reporting tag answer)) (scene.log (.note tag))
    | .pending advance release =>
      .advanced (reportingHandle tag (.pending advance release))
        (scene.log (.note tag))

end

theorem reportingPoll_ready
    (tag : String) (answer : Resolved Scene) (scene : Scene) :
    reportingPoll tag (.advanced (.ready answer) scene) =
      .advanced (.ready (answer.reporting tag)) (scene.log (.note tag)) := by
  rw [reportingPoll]

theorem reportingPoll_pending
    (tag : String) (advance : Scene → Poll Scene (Resolved Scene))
    (release : Scene → Scene) (scene : Scene) :
    reportingPoll tag (.advanced (.pending advance release) scene) =
      .advanced (reportingHandle tag (.pending advance release))
        (scene.log (.note tag)) := by
  rw [reportingPoll]

mutual

/-- A reporting answer comes to an end with a report of each poll, when the
handles that report write no such notes themselves. -/
theorem Ends.reporting
    {tag : String} {answer : Resolved Scene}
    (ends : answer.Ends Scene.SameMemos)
    (keeps : answer.Keeps (Scene.notes (· == tag))) :
    (answer.reporting tag).Ends (Scene.Reported tag) := by
  match answer with
  | .value _ | .notFound | .node _ | .failed _ => trivial
  | .completed inner =>
      have inside : inner.Ends Scene.SameMemos := ends
      exact inside.reporting keeps
  | .pending handle => exact HandleEnds.reporting ends keeps
  | .foreign handle => exact HandleEnds.reporting ends keeps

theorem HandleEnds.reporting
    {tag : String} {handle : Completion Scene (Resolved Scene)}
    (ends : HandleEnds Scene.SameMemos handle)
    (keeps : HandleKeeps (Scene.notes (· == tag)) handle) :
    HandleEnds (Scene.Reported tag) (reportingHandle tag handle) := by
  match handle with
  | .ready answer =>
      have inside : answer.Ends Scene.SameMemos := ends.2
      exact fun scene => ⟨Scene.reported_log rfl rfl, inside.reporting keeps⟩
  | .pending advance release =>
      exact fun scene => HandlePollEnds.reporting (ends scene) (keeps.1 scene)

theorem HandlePollEnds.reporting
    {tag : String} {scene : Scene} {poll : Poll Scene (Resolved Scene)}
    (ends : HandlePollEnds Scene.SameMemos scene poll)
    (keeps : HandlePollKeeps (Scene.notes (· == tag)) scene poll) :
    HandlePollEnds (Scene.Reported tag) scene (reportingPoll tag poll) := by
  match poll with
  | .blocked => exact ends
  | .advanced (.ready answer) after =>
      have inside : answer.Ends Scene.SameMemos := ends.2
      rw [reportingPoll_ready]
      exact ⟨Scene.reported_log ends.1 keeps.1, inside.reporting keeps.2⟩
  | .advanced (.pending advance release) after =>
      have inside := HandleEnds.reporting ends.2 keeps.2
      rw [reportingPoll_pending]
      exact ⟨Scene.reported_log ends.1 keeps.1, inside⟩

end

end Reporting

end Resolved

end Phrasebook
