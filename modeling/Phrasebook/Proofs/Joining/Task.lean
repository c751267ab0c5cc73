import Phrasebook.Proofs.Completion.Round

/-!
# Tasks

A completion that shares no state is known by two things: the number of polls it
needs, and the result it ends in.  Both make up its *task*.  A completion runs a
task when, wherever its polls fall and whatever the state is then, none of them
is blocked and the last one of that number ends it in that result; a task of no
polls is run by a completion that is ready.

Two completions that are driven together run a task again.  It ends with both of
their values when both succeed, and otherwise with the failure that is met in
the earlier round, the first one's when both are met in the same.  A failure
that was there from the start is met in the first round.
-/

namespace Phrasebook

/-- The polls that a completion needs, and what it ends in. -/
structure Task (ε α : Type) where
  polls : Nat
  result : Except ε α

namespace Completion

variable {σ ρ ω : Type}

/-- Whatever the state is at its polls, the completion ends in `result` with the
given number of them. -/
def EndsAfter (result : ρ) : Nat → Completion σ ρ → Prop
  | 0, .ready reached => reached = result
  | 0, .pending _ _ => False
  | _ + 1, .ready _ => False
  | polls + 1, .pending advance _ =>
    ∀ state, ∃ next after, advance state = .advanced next after ∧
      EndsAfter result polls next

@[simp]
theorem endsAfter_zero_iff {result : ρ} {completion : Completion σ ρ} :
    completion.EndsAfter result 0 ↔ completion = .ready result := by
  cases completion <;> simp [EndsAfter]

theorem EndsAfter.pending
    {result : ρ} {polls : Nat} {completion : Completion σ ρ}
    (ends : completion.EndsAfter result (polls + 1)) :
    ∃ advance release, completion = .pending advance release := by
  cases completion with
  | ready reached => exact absurd ends id
  | pending advance release => exact ⟨advance, release, rfl⟩

/-- A poll brings the end one poll nearer. -/
theorem EndsAfter.poll
    {result : ρ} {polls : Nat} {completion : Completion σ ρ}
    (ends : completion.EndsAfter result polls) (state : σ) :
    (completion.poll state).1.EndsAfter result (polls - 1) := by
  match polls, completion with
  | 0, .ready reached => exact ends
  | polls + 1, .pending advance release =>
      obtain ⟨next, after, reached, rest⟩ := ends state
      simpa [Completion.poll, reached] using rest

theorem EndsAfter.mapResult
    {result : ρ} {polls : Nat} {completion : Completion σ ρ} (f : ρ → ω)
    (ends : completion.EndsAfter result polls) :
    (completion.mapResult f).EndsAfter (f result) polls := by
  induction polls generalizing completion with
  | zero =>
      rw [endsAfter_zero_iff.mp ends, Completion.mapResult]
      exact endsAfter_zero_iff.mpr rfl
  | succ polls ih =>
      obtain ⟨advance, release, rfl⟩ := ends.pending
      rw [Completion.mapResult]
      intro state
      obtain ⟨next, after, reached, rest⟩ := ends state
      refine ⟨next.mapResult f, after, ?_, ih rest⟩
      simp only [reached, mapPoll]

/-- A completion that is pending for a number of polls ends after these and one
more. -/
theorem endsAfter_after (polls : Nat) (finish : σ → σ) (result : ρ) :
    (Completion.after polls finish result).EndsAfter result (polls + 1) := by
  induction polls with
  | zero => exact fun state => ⟨.ready result, finish state, rfl, rfl⟩
  | succ polls ih => exact fun state =>
      ⟨.after polls finish result, state, rfl, ih⟩

/-- However its polls are interleaved with changes of the state, the completion
yields its result. -/
theorem EndsAfter.yields
    {result : ρ} {polls : Nat} {completion : Completion σ ρ}
    (ends : completion.EndsAfter result polls) :
    completion.Yields (· = result) := by
  induction polls generalizing completion with
  | zero =>
      rw [endsAfter_zero_iff.mp ends]
      exact rfl
  | succ polls ih =>
      obtain ⟨advance, release, rfl⟩ := ends.pending
      intro state
      obtain ⟨next, after, reached, rest⟩ := ends state
      rw [reached]
      exact ih rest

theorem Yields.mapResult
    {expected : ρ → Prop} {expected' : ω → Prop} {completion : Completion σ ρ}
    (yields : completion.Yields expected) (f : ρ → ω)
    (mapped : ∀ result, expected result → expected' (f result)) :
    (completion.mapResult f).Yields expected' := by
  induction completion using Completion.ind with
  | ready result =>
      rw [Completion.mapResult]
      exact mapped result yields
  | pending advance release ih =>
      rw [Completion.mapResult]
      intro state
      have reached := yields state
      cases poll : advance state with
      | blocked =>
          rw [poll] at reached
          exact reached.elim
      | advanced next after =>
          rw [poll] at reached
          simp only [poll, mapPoll]
          exact ih state next after poll reached

/-- What a completion yields it is driven to. -/
theorem Yields.drive
    {expected : ρ → Prop} {completion : Completion σ ρ}
    (yields : completion.Yields expected) (state : σ) :
    ∃ result, (completion.drive state).1 = some result ∧ expected result := by
  induction completion using Completion.ind generalizing state with
  | ready result => exact ⟨result, by rw [drive_ready], yields⟩
  | pending advance release ih =>
      rw [drive_pending]
      have reached := yields state
      cases poll : advance state with
      | blocked =>
          rw [poll] at reached
          exact reached.elim
      | advanced next after =>
          rw [poll] at reached
          rw [drivePoll_advanced]
          exact ih state next after poll reached after

end Completion

namespace Task

variable {σ ε α β γ : Type}

/-- The task of a value that is there. -/
def given (value : α) : Task ε α := ⟨0, .ok value⟩

def isReady (task : Task ε α) : Bool := task.polls == 0

def Fails (task : Task ε α) : Prop := ∃ error, task.result = .error error

/-- The round in which a task ends that is driven together with others. -/
def round (task : Task ε α) : Nat := max 1 task.polls

/-- What is left of a task after a poll. -/
def polled (task : Task ε α) : Task ε α := ⟨task.polls - 1, task.result⟩

/-- The completion runs the task. -/
def RunBy (task : Task ε α) (completion : Completion σ (Except ε α)) : Prop :=
  completion.EndsAfter task.result task.polls

theorem RunBy.poll
    {task : Task ε α} {completion : Completion σ (Except ε α)}
    (run : task.RunBy completion) (state : σ) :
    task.polled.RunBy (completion.poll state).1 :=
  Completion.EndsAfter.poll run state

/-- A pending completion runs a task when what each of its polls leads to runs
what is left of it. -/
theorem RunBy.of_polls
    {task : Task ε α} {advance : σ → Poll σ (Except ε α)} {release : σ → σ}
    (pending : task.polls ≠ 0)
    (polls : ∀ state, ∃ next after, advance state = .advanced next after ∧
      task.polled.RunBy next) :
    task.RunBy (.pending advance release) := by
  obtain ⟨_ | polls, result⟩ := task
  · exact absurd rfl pending
  · exact polls

/-- A completion has failed when nothing is left of its task but a failure. -/
theorem RunBy.failure_iff
    {task : Task ε α} {completion : Completion σ (Except ε α)}
    (run : task.RunBy completion) {error : ε} :
    completion.failure? = some error ↔ task = ⟨0, .error error⟩ := by
  obtain ⟨polls, result⟩ := task
  cases polls with
  | zero =>
      rw [Completion.endsAfter_zero_iff.mp run]
      cases result <;> simp [Completion.failure?]
  | succ polls =>
      obtain ⟨advance, release, rfl⟩ := run.pending
      simp [Completion.failure?]

theorem RunBy.continues
    {task : Task ε α} {completion : Completion σ (Except ε α)}
    (run : task.RunBy completion)
    (met : completion.failure? = none) (error : ε) :
    task ≠ ⟨0, .error error⟩ := by
  intro failed
  rw [run.failure_iff.mpr failed] at met
  cases met

theorem RunBy.not_rests
    {task : Task ε α} {advance : σ → Poll σ (Except ε α)} {release : σ → σ}
    (run : task.RunBy (.pending advance release)) (state : σ) :
    Completion.rests state (.pending advance release) = false := by
  obtain ⟨_ | polls, result⟩ := task
  · exact absurd run id
  · obtain ⟨next, after, reached, _⟩ := run state
    simp [Completion.rests, reached]

/-- The task of two completions that are driven together. -/
def beside (combine : α → β → γ) (first : Task ε α) (second : Task ε β) :
    Task ε γ :=
  match first.result, second.result with
  | .ok value, .ok value' =>
    ⟨max first.polls second.polls, .ok (combine value value')⟩
  | .ok _, .error error => ⟨second.polls, .error error⟩
  | .error error, .ok _ => ⟨max 1 first.polls, .error error⟩
  | .error error, .error error' =>
    if max 1 first.polls ≤ second.polls then ⟨max 1 first.polls, .error error⟩
    else ⟨second.polls, .error error'⟩

/-- The failure of a task, if it is one, is not there from the start. -/
def Waits (task : Task ε α) : Prop := task.Fails → 1 ≤ task.polls

theorem waits_beside
    {combine : α → β → γ} {first : Task ε α} {second : Task ε β}
    (waits : second.Waits) :
    (first.beside combine second).Waits := by
  rintro ⟨error, failed⟩
  obtain ⟨polls, _ | value⟩ := first <;> obtain ⟨polls', _ | value'⟩ := second
  · simp only [beside]
    split
    · exact Nat.le_max_left 1 polls
    · exact waits ⟨_, rfl⟩
  · exact Nat.le_max_left 1 polls
  · exact waits ⟨_, rfl⟩
  · simp [beside] at failed

section Besides

variable {combine : α → β → γ} {first : Task ε α} {second : Task ε β}
  {error : ε}

/-- The failure of the first one is met in its last round. -/
theorem beside_of_first_failed
    (waits : second.Waits) (failed : first.polled = ⟨0, .error error⟩) :
    first.beside combine second = ⟨1, .error error⟩ := by
  obtain ⟨polls, result⟩ := first
  obtain ⟨last, rfl⟩ : polls - 1 = 0 ∧ result = .error error := by
    simpa [polled] using failed
  have least : max 1 polls = 1 := by omega
  obtain ⟨polls', _ | value'⟩ := second
  · have later : 1 ≤ polls' := waits ⟨_, rfl⟩
    simp [beside, least, later]
  · simp [beside, least]

/-- The failure of the second one is met in its last round, unless the first one
has failed by then. -/
theorem beside_of_second_failed
    (waits : second.Waits)
    (continues : ∀ error, first.polled ≠ ⟨0, .error error⟩)
    (failed : second.polled = ⟨0, .error error⟩) :
    first.beside combine second = ⟨1, .error error⟩ := by
  obtain ⟨polls', result'⟩ := second
  obtain ⟨last, rfl⟩ : polls' - 1 = 0 ∧ result' = .error error := by
    simpa [polled] using failed
  have once : polls' = 1 := by
    have later : 1 ≤ polls' := waits ⟨_, rfl⟩
    omega
  subst once
  obtain ⟨polls, error' | value⟩ := first
  · have unfinished : polls - 1 ≠ 0 :=
      fun last => continues error' (by simp [polled, last])
    have later : ¬ max 1 polls ≤ 1 := by omega
    simp only [beside, if_neg later]
  · rfl

/-- A round in which nothing fails takes one poll off the task. -/
theorem beside_of_none_failed
    (pending : first.polls ≠ 0) (waits : second.Waits)
    (continues : ∀ error, first.polled ≠ ⟨0, .error error⟩)
    (continues' : ∀ error, second.polled ≠ ⟨0, .error error⟩) :
    first.polled.beside combine second.polled =
      (first.beside combine second).polled := by
  obtain ⟨polls, error | value⟩ :=
    first <;> obtain ⟨polls', error' | value'⟩ := second
  · have unfinished : polls - 1 ≠ 0 :=
      fun last => continues error (by simp [polled, last])
    have unfinished' : polls' - 1 ≠ 0 :=
      fun last => continues' error' (by simp [polled, last])
    have least : max 1 (polls - 1) = max 1 polls - 1 := by omega
    by_cases before : max 1 polls ≤ polls'
    · have before' : max 1 (polls - 1) ≤ polls' - 1 := by omega
      rw [least] at before'
      simp only [beside, polled, least, if_pos before, if_pos before']
    · have before' : ¬ max 1 (polls - 1) ≤ polls' - 1 := by omega
      rw [least] at before'
      simp only [beside, polled, least, if_neg before, if_neg before']
  · have unfinished : polls - 1 ≠ 0 :=
      fun last => continues error (by simp [polled, last])
    have least : max 1 (polls - 1) = max 1 polls - 1 := by omega
    simp only [beside, polled, least]
  · rfl
  · have least : max (polls - 1) (polls' - 1) = max polls polls' - 1 := by omega
    simp only [beside, polled, least]

/-- After a round in which nothing fails the second one still waits, if it fails
at all. -/
theorem waits_polled (continues : ∀ error, second.polled ≠ ⟨0, .error error⟩) :
    second.polled.Waits := by
  rintro ⟨error, failed⟩
  refine Nat.one_le_iff_ne_zero.mpr fun last => continues error ?_
  rw [← last, ← failed]

theorem polls_beside_ne_zero
    (pending : first.polls ≠ 0) (waits : second.Waits) :
    (first.beside combine second).polls ≠ 0 := by
  have fails (task : Task ε γ) (waits : task.Waits) (failed : task.Fails) :
      task.polls ≠ 0 :=
    Nat.one_le_iff_ne_zero.mp (waits failed)
  obtain ⟨polls, error | value⟩ :=
    first <;> obtain ⟨polls', error' | value'⟩ := second
  · refine fails _ (waits_beside waits) ?_
    simp only [beside]
    split <;> exact ⟨_, rfl⟩
  · exact fails _ (waits_beside waits) ⟨_, rfl⟩
  · exact fails _ (waits_beside waits) ⟨_, rfl⟩
  · have pending : polls ≠ 0 := pending
    simp only [beside]
    omega

/-- Two tasks together succeed when both of them do. -/
theorem result_beside_eq_ok_iff {value : γ} :
    (first.beside combine second).result = .ok value ↔
      ∃ value' value'', first.result = .ok value' ∧
        second.result = .ok value'' ∧
        combine value' value'' = value := by
  obtain ⟨polls, error | value'⟩ :=
    first <;> obtain ⟨polls', error' | value''⟩ := second
  · simp only [beside]
    split <;> simp
  all_goals simp [beside]

/-- The failure of two is that of the first one, unless the second one fails in
an earlier round. -/
theorem result_beside_eq_error
    (failed : (first.beside combine second).result = .error error) :
    (first.result = .error error ∧ (first.beside combine second).polls =
      first.round ∧
        (second.Fails → first.round ≤ second.polls)) ∨
      (second.result = .error error ∧ (first.beside combine second).polls =
        second.polls ∧
        (first.Fails → second.polls < first.round)) := by
  obtain ⟨polls, error' | value'⟩ :=
    first <;> obtain ⟨polls', error'' | value''⟩ := second
  · by_cases before : max 1 polls ≤ polls'
    · have met :
          beside combine ⟨polls, .error error'⟩ ⟨polls', .error error''⟩ =
          ⟨max 1 polls, .error error'⟩ := if_pos before
      rw [met] at failed ⊢
      cases failed
      exact .inl ⟨rfl, rfl, fun _ => before⟩
    · have met :
          beside combine ⟨polls, .error error'⟩ ⟨polls', .error error''⟩ =
          ⟨polls', .error error''⟩ := if_neg before
      rw [met] at failed ⊢
      cases failed
      exact .inr ⟨rfl, rfl, fun _ => Nat.lt_of_not_le before⟩
  · cases failed
    exact .inl ⟨rfl, rfl, fun ⟨_, fails⟩ => nomatch fails⟩
  · cases failed
    exact .inr ⟨rfl, rfl, fun ⟨_, fails⟩ => nomatch fails⟩
  · cases failed

end Besides

/-- Two completions that are driven together run the task of both. -/
theorem RunBy.both
    {combine : α → β → γ} {first : Task ε α} {second : Task ε β}
    {completion : Completion σ (Except ε α)}
    {completion' : Completion σ (Except ε β)} (run : first.RunBy completion)
    (run' : second.RunBy completion') (waits : second.Waits) :
    (first.beside combine second).RunBy
      (Completion.both combine completion completion') := by
  obtain ⟨polls, result⟩ := first
  induction polls generalizing second completion completion' with
  | zero =>
      rw [Completion.endsAfter_zero_iff.mp run]
      cases result with
      | error error =>
          rw [beside_of_first_failed waits rfl, Completion.both]
          exact fun state => ⟨.ready (.error error), _, rfl, rfl⟩
      | ok value =>
          have mapped :=
            Completion.EndsAfter.mapResult (Except.map (combine value)) run'
          rw [Completion.both]
          obtain ⟨polls', error' | value'⟩ := second
          · exact mapped
          · simp only [RunBy, beside, Nat.zero_max]
            exact mapped
  | succ polls ih =>
      obtain ⟨advance, release, rfl⟩ := run.pending
      obtain ⟨release', equal⟩ :=
        Completion.both_pending combine advance release completion'
      rw [equal]
      refine .of_polls (polls_beside_ne_zero (Nat.succ_ne_zero polls) waits)
        fun state => ?_
      have polled := run.poll state
      cases met :
          ((Completion.pending advance release).poll state).1.failure? with
      | some error =>
          rw [beside_of_first_failed waits (polled.failure_iff.mp met),
            Completion.round_of_first_failed met]
          exact ⟨_, _, rfl, rfl⟩
      | none =>
          have continues := polled.continues met
          have polled' :=
            run'.poll (Completion.poll (.pending advance release) state).2
          cases met' :
              (completion'.poll
                  (Completion.poll (.pending advance release)
                      state).2).1.failure? with
          | some error =>
              rw [beside_of_second_failed waits continues
                (polled'.failure_iff.mp met'),
                Completion.round_of_second_failed met met']
              exact ⟨_, _, rfl, rfl⟩
          | none =>
              have continues' := polled'.continues met'
              have moves := run.not_rests state
              rw [← beside_of_none_failed (Nat.succ_ne_zero polls) waits
                continues continues',
                Completion.round_of_none_failed met met', moves, Bool.false_and]
              exact ⟨_, _, rfl, ih polled' (waits_polled continues') polled⟩

end Task

end Phrasebook
