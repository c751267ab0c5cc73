import Phrasebook.Proofs.Completion.Drive
import Phrasebook.Proofs.Completion.Keeping

/-!
# Committing on success

A completion *commits* when what a view shows changes in one moment only, the
poll in which the completion ends in success, and changes there by a given
function.  Polls before that, an end in failure and giving the completion up
keep the view.  So several commitments may be polled in any order, and each of
them is seen as one step.

What a commitment relies on is a condition on the view, which is thus there at
every poll.
-/

namespace Phrasebook

namespace Completion

variable {σ τ κ ρ ω ε α β : Type}

/-- What a view shows after a completion has been reached: a success commits. -/
def committed (commit : τ → τ) : Completion σ (Except ε α) → τ → τ
  | .ready (.ok _) => commit
  | _ => id

mutual

/-- What `view` shows is changed by the success of the completion only, and by
`commit`, when each poll finds the view good. -/
def Commits (good : τ → Prop) (view : σ → τ) (commit : τ → τ) :
    Completion σ (Except ε α) → Prop
  | .ready _ => True
  | .pending advance release =>
    (∀ state, good (view state) →
      PollCommits good view commit state (advance state)) ∧
      ∀ state, view (release state) = view state

/-- A poll at a state has committed if it reached a success, and has kept the
view otherwise. -/
def PollCommits (good : τ → Prop) (view : σ → τ) (commit : τ → τ) (state : σ) :
    Poll σ (Except ε α) → Prop
  | .blocked => True
  | .advanced next after =>
    view after = committed commit next (view state) ∧
      Commits good view commit next

end

/-- A computation has led from a state to a completion, and has committed if
this is a success. -/
structure StartCommits
    (good : τ → Prop) (view : σ → τ) (commit : τ → τ) (before : σ)
    (started : Completion σ (Except ε α) × σ) : Prop where
  done : view started.2 = committed commit started.1 (view before)
  commits : started.1.Commits good view commit

variable {good : τ → Prop} {view : σ → τ} {commit : τ → τ} {before : σ}

@[simp]
theorem committed_pending
    (advance : σ → Poll σ (Except ε α)) (release : σ → σ) (shown : τ) :
    committed commit (.pending advance release) shown = shown :=
  rfl

@[simp]
theorem committed_error (error : ε) (shown : τ) :
    committed commit (.ready (.error error) : Completion σ (Except ε α)) shown =
      shown :=
  rfl

@[simp]
theorem committed_ok (value : α) (shown : τ) :
    committed commit (.ready (.ok value) : Completion σ (Except ε α)) shown =
      commit shown :=
  rfl

/-- A poll of a pending commitment commits if it reaches a success. -/
theorem Commits.poll
    {completion : Completion σ (Except ε α)}
    (commits : completion.Commits good view commit)
    (pending : completion.isReady = false) {state : σ}
    (fine : good (view state)) :
    StartCommits good view commit state (completion.poll state) := by
  cases completion with
  | ready result => cases pending
  | pending advance release =>
      have reached := commits.1 state fine
      rw [Completion.poll]
      cases poll : advance state with
      | blocked => exact ⟨rfl, commits⟩
      | advanced next after =>
          rw [poll] at reached
          exact ⟨reached.1, reached.2⟩

theorem Commits.abandon
    {completion : Completion σ (Except ε α)}
    (commits : completion.Commits good view commit) (state : σ) :
    view (completion.abandon state) = view state := by
  cases completion with
  | ready result => rfl
  | pending advance release => exact commits.2 state

/-- Driving a pending commitment commits if it ends in success. -/
theorem Commits.drive
    {completion : Completion σ (Except ε α)}
    (commits : completion.Commits good view commit)
    (pending : completion.isReady = false) {state : σ}
    (fine : good (view state)) :
    view (completion.drive state).2 =
      match (completion.drive state).1 with
      | some (.ok _) => commit (view state)
      | _ => view state := by
  induction completion using Completion.ind generalizing state with
  | ready result => cases pending
  | pending advance release ih =>
      have reached := commits.1 state fine
      rw [drive_pending]
      cases poll : advance state with
      | blocked => simp
      | advanced next after =>
          rw [poll] at reached
          rw [drivePoll_advanced]
          match next with
          | .ready (.ok value) => simpa using reached.1
          | .ready (.error error) => simpa using reached.1
          | .pending _ _ =>
              have kept : view after = view state := by
                simpa using reached.1
              rw [← kept] at fine ⊢
              exact ih state _ after poll reached.2 rfl fine

/-- A computation that starts with the first poll commits when the computation
does. -/
theorem deferred_commits
    {start : σ → Completion σ (Except ε α) × σ}
    (starts : ∀ state, good (view state) →
      StartCommits good view commit state (start state)) :
    (deferred start).Commits good view commit := by
  refine ⟨fun state fine => ?_, fun state => rfl⟩
  have started := starts state fine
  revert started
  dsimp only
  rcases start state with ⟨completion, after⟩
  rintro ⟨done, commits⟩
  cases completion with
  | ready result => exact ⟨done, commits⟩
  | pending advance release =>
      have kept : view after = view state := by
        simpa using done
      have polled := commits.poll rfl (kept.symm ▸ fine)
      exact ⟨kept ▸ polled.done, polled.commits⟩

section Effects

variable {effect : σ → σ}
  (effects : ∀ state, view (effect state) = commit (view state))

include effects

/-- A completion that keeps a view commits when it ends in success with an
effect. -/
theorem Keeps.resume_commits
    {completion : Completion σ (Except ε α)} (keeps : completion.Keeps view)
    (f : α → β) (state : σ) :
    StartCommits good view commit state
      (completion.resume (fun value state =>
        (.ready (.ok (f value)), effect state)) state) := by
  induction completion using Completion.ind generalizing state with
  | ready result =>
      cases result with
      | error error =>
          rw [Completion.resume]
          exact ⟨rfl, trivial⟩
      | ok value =>
          rw [Completion.resume]
          exact ⟨effects state, trivial⟩
  | pending advance release ih =>
      rw [Completion.resume]
      refine ⟨rfl, fun state _ => ?_, keeps.2⟩
      have reached := keeps.1 state
      dsimp only
      cases poll : advance state with
      | blocked => exact trivial
      | advanced later after =>
          rw [poll] at reached
          have resumed := ih state later after poll reached.2 after
          exact ⟨reached.1 ▸ resumed.done, resumed.commits⟩

/-- A computation that keeps the view until it succeeds, and then takes effect,
commits. -/
theorem StartKeeps.andThen_commits
    {started : Completion σ (Except ε α) × σ}
    (starts : StartKeeps view before started) (f : α → β) :
    StartCommits good view commit before
      (started.1.andThen (fun value state =>
        (.ready (.ok (f value)), effect state)) started.2) := by
  have resumed : StartCommits good view commit started.2
      (started.1.andThen (fun value state =>
        (.ready (.ok (f value)), effect state)) started.2) := by
    match started.1, starts.keeps with
    | .ready (.ok value), _ => exact ⟨effects started.2, trivial⟩
    | .ready (.error _), keeps => exact keeps.resume_commits effects f started.2
    | .pending _ _, keeps => exact keeps.resume_commits effects f started.2
  exact ⟨starts.kept ▸ resumed.done, resumed.commits⟩

end Effects

/-- A completion on a part of a state keeps what is seen of the whole, when this
depends on the part only through what is seen of that. -/
theorem Keeps.within
    {part : κ → σ} {update : σ → κ → κ} {shown : κ → ω}
    (depends : ∀ state whole, view state = view (part whole) →
      shown (update state whole) = shown whole)
    {completion : Completion σ ρ} (keeps : completion.Keeps view) :
    (completion.within part update).Keeps shown := by
  induction completion using Completion.ind with
  | ready result => trivial
  | pending advance release ih =>
      rw [Completion.within]
      refine ⟨fun whole => ?_, fun whole => depends _ whole (keeps.2 _)⟩
      have reached := keeps.1 (part whole)
      dsimp only
      cases poll : advance (part whole) with
      | blocked => exact trivial
      | advanced next after =>
          rw [poll] at reached
          exact ⟨depends after whole reached.1, ih _ next after poll reached.2⟩

end Completion

end Phrasebook
