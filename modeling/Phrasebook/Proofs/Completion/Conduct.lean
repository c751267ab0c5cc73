import Phrasebook.Result

/-!
# What completions keep and what they yield

Every completion ends after finitely many steps, so its properties are proved by
induction on the steps: `Completion.ind` is the principle, and the two
predicates of this module are used with it. A completion *keeps* a view of the
state when neither polling nor abandoning it changes that view. It *yields*
results of a kind when no poll of it is ever blocked and every result it can end
in is of that kind.

Both pass from an answer with handles to the completion that takes its handles
off.
-/

namespace Phrasebook

namespace Completion

variable {σ τ ρ : Type}

mutual

/-- A property that holds of every result, and of a pending completion when it
holds of all that its next poll can lead to, holds of every completion. -/
@[elab_as_elim]
theorem ind
    {motive : Completion σ ρ → Prop} (ready : ∀ result, motive (.ready result))
    (pending :
      ∀ advance release,
        (∀ state next after, advance state = .advanced next after →
          motive next) →
          motive (.pending advance release))
    (completion : Completion σ ρ) :
    motive completion := by
  match completion with
  | .ready result => exact ready result
  | .pending advance release =>
      exact pending advance release fun state next after reached =>
        ind_poll ready pending (advance state) next after reached

/-- A property of all completions, for the completion that a poll ends in. -/
theorem ind_poll
    {motive : Completion σ ρ → Prop} (ready : ∀ result, motive (.ready result))
    (pending :
      ∀ advance release,
        (∀ state next after, advance state = .advanced next after →
          motive next) →
          motive (.pending advance release))
    (poll : Poll σ ρ) :
    ∀ next after, poll = .advanced next after → motive next := by
  match poll with
  | .blocked =>
      intro next after reached
      cases reached
  | .advanced reached _ =>
      intro next after equal
      cases equal
      exact ind ready pending reached

end

mutual

/-- Neither polling nor abandoning a completion changes what `view` shows of the
state. -/
def Keeps (view : σ → τ) : Completion σ ρ → Prop
  | .ready _ => True
  | .pending advance release =>
    (∀ state, PollKeeps view state (advance state)) ∧ ∀ state,
      view (release state) = view state

/-- A poll at a state kept what `view` shows of it. -/
def PollKeeps (view : σ → τ) (state : σ) : Poll σ ρ → Prop
  | .blocked => True
  | .advanced next after => view after = view state ∧ Keeps view next

end

mutual

/-- No poll of a completion is ever blocked, and every result is as expected. -/
def Yields (expected : ρ → Prop) : Completion σ ρ → Prop
  | .ready result => expected result
  | .pending advance _ => ∀ state, PollYields expected (advance state)

/-- A poll was not blocked, and every result after it is as expected. -/
def PollYields (expected : ρ → Prop) : Poll σ ρ → Prop
  | .blocked => False
  | .advanced next _ => Yields expected next

end

theorem Keeps.poll
    {view : σ → τ} {completion : Completion σ ρ}
    (keeps : completion.Keeps view) (state : σ) :
    view (completion.poll state).2 = view state ∧
      (completion.poll state).1.Keeps view := by
  cases completion with
  | ready result => exact ⟨rfl, keeps⟩
  | pending advance release =>
      have reached := keeps.1 state
      simp only [Completion.poll]
      cases poll : advance state with
      | blocked => exact ⟨rfl, keeps⟩
      | advanced next after =>
          rw [poll] at reached
          exact reached

/-- What is expected after a poll has been expected before. -/
theorem Yields.poll
    {expected : ρ → Prop} {completion : Completion σ ρ}
    (yields : completion.Yields expected) (state : σ) :
    (completion.poll state).1.Yields expected := by
  cases completion with
  | ready result => exact yields
  | pending advance release =>
      have reached := yields state
      simp only [Completion.poll]
      cases poll : advance state with
      | blocked =>
          rw [poll] at reached
          exact reached.elim
      | advanced next after =>
          rw [poll] at reached
          exact reached

/-- What is expected implies what is expected of less. -/
theorem Yields.mono
    {expected expected' : ρ → Prop} {completion : Completion σ ρ}
    (yields : completion.Yields expected)
    (weaker : ∀ result, expected result → expected' result) :
    completion.Yields expected' := by
  induction completion using Completion.ind with
  | ready result => exact weaker result yields
  | pending advance release ih =>
      intro state
      have reached := yields state
      cases poll : advance state with
      | blocked =>
          rw [poll] at reached
          exact reached
      | advanced next after =>
          rw [poll] at reached
          exact ih state next after poll reached

end Completion

namespace Resolved

variable {σ τ : Type}

mutual

/-- No handle of an answer changes, when it is polled or abandoned, what `view`
shows of the state. -/
def Keeps (view : σ → τ) : Resolved σ → Prop
  | .value _ => True
  | .notFound => True
  | .node _ => True
  | .failed _ => True
  | .completed inner => Keeps view inner
  | .pending handle => HandleKeeps view handle
  | .foreign handle => HandleKeeps view handle

/-- Neither a handle nor the answer it gives changes what `view` shows. -/
def HandleKeeps (view : σ → τ) : Completion σ (Resolved σ) → Prop
  | .ready answer => Keeps view answer
  | .pending advance release =>
    (∀ state, HandlePollKeeps view state (advance state)) ∧
      ∀ state, view (release state) = view state

/-- A poll of a handle kept what `view` shows. -/
def HandlePollKeeps (view : σ → τ) (state : σ) : Poll σ (Resolved σ) → Prop
  | .blocked => True
  | .advanced next after => view after = view state ∧ HandleKeeps view next

end

/-- A handle that ends after a number of polls keeps what its end and its answer
keep. -/
theorem handleKeeps_after
    {view : σ → τ} {finish : σ → σ} {answer : Resolved σ}
    (finishes : ∀ state, view (finish state) = view state)
    (keeps : answer.Keeps view) (polls : Nat) :
    HandleKeeps view (.after polls finish answer) := by
  induction polls with
  | zero => exact ⟨fun state => ⟨finishes state, keeps⟩, fun _ => rfl⟩
  | succ polls ih => exact ⟨fun _ => ⟨rfl, ih⟩, fun _ => rfl⟩

theorem pollKeeps_reach
    {ρ : Type} {view : σ → τ} {completion : Completion σ ρ}
    (keeps : completion.Keeps view) (state : σ) :
    Completion.PollKeeps view state (completion.reach state) :=
  keeps.poll state

mutual

/-- Taking the handles off an answer keeps what its handles keep. -/
theorem Keeps.flatten
    {view : σ → τ} (expression : Expression) (unrestricted : Bool)
    {answer : Resolved σ} (keeps : answer.Keeps view) :
    (answer.flatten expression unrestricted).Keeps view := by
  match answer with
  | .value _ | .notFound | .node _ | .failed _ => trivial
  | .completed inner =>
      have inside : inner.Keeps view := keeps
      exact inside.flatten expression unrestricted
  | .pending handle => exact HandleKeeps.awaiting expression unrestricted keeps
  | .foreign handle =>
      cases unrestricted with
      | true => exact HandleKeeps.awaiting expression true keeps
      | false => trivial

theorem HandleKeeps.awaiting
    {view : σ → τ} (expression : Expression) (unrestricted : Bool)
    {handle : Completion σ (Resolved σ)} (keeps : HandleKeeps view handle) :
    (Resolved.awaiting expression unrestricted handle).Keeps view := by
  match handle with
  | .ready answer =>
      have inside : answer.Keeps view := keeps
      refine ⟨fun state => ?_, fun _ => rfl⟩
      exact pollKeeps_reach (inside.flatten expression unrestricted) state
  | .pending advance release =>
      refine ⟨fun state => ?_, keeps.2⟩
      exact HandlePollKeeps.awaitingPoll expression unrestricted (keeps.1 state)

theorem HandlePollKeeps.awaitingPoll
    {view : σ → τ} (expression : Expression) (unrestricted : Bool) {state : σ}
    {poll : Poll σ (Resolved σ)} (keeps : HandlePollKeeps view state poll) :
    Completion.PollKeeps view state
      (Resolved.awaitingPoll expression unrestricted poll) := by
  match poll with
  | .blocked => trivial
  | .advanced (.ready answer) after =>
      have inside : answer.Keeps view := keeps.2
      have reached := (inside.flatten expression unrestricted).poll after
      exact ⟨reached.1.trans keeps.1, reached.2⟩
  | .advanced (.pending advance release) after =>
      exact ⟨keeps.1, HandleKeeps.awaiting expression unrestricted keeps.2⟩

end

end Resolved

end Phrasebook
