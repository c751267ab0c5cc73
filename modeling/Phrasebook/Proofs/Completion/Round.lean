import Phrasebook.Proofs.Completion.Conduct
import Phrasebook.Proofs.Completion.Drive

/-!
# Ready completions and rounds

A ready completion stays ready through every operation on completions: a
continuation runs at once, and nothing is left to poll or to release.

In a round, each of the completions that are driven together is polled once, the
first one first.  Two completions are done with a round when each of them has
been polled, or with the first failure met.  The round is blocked when there was
nothing to do for either of them. `endRound` is the end of a round in which the
first one moved.

A completion is *doomed* when its next poll, wherever it happens, finds a
failure.  A failure that is met while several computations are being started may
have to wait for one more poll, because an earlier one of them is pending; what
is started after it is started all the same.  The join of them is doomed then,
and so is every chain that begins with it.
-/

namespace Phrasebook

namespace Completion

variable {σ ρ ε α β γ : Type}

@[simp]
theorem andThen_ready_ok
    (value : α) (next : α → σ → Completion σ (Except ε β) × σ) (state : σ) :
    (Completion.ready (.ok value)).andThen next state = next value state :=
  rfl

@[simp]
theorem andThen_ready_error
    (error : ε) (next : α → σ → Completion σ (Except ε β) × σ) (state : σ) :
    (Completion.ready (.error error)).andThen next state =
      (.ready (.error error), state) := by
  simp [andThen, resume]

@[simp]
theorem map_ready
    (f : α → β) (result : Except ε α) :
    (Completion.ready result : Completion σ (Except ε α)).map f =
      .ready (result.map f) := by
  simp [map, mapResult]

@[simp]
theorem poll_ready (result : ρ) (state : σ) :
    (Completion.ready result).poll state = (.ready result, state) :=
  rfl

@[simp]
theorem abandon_ready (result : ρ) (state : σ) :
    (Completion.ready result).abandon state = state :=
  rfl

@[simp]
theorem ending_ready
    (onEnd : ρ → σ → σ) (onRelease : σ → σ) (result : ρ) (state : σ) :
    (Completion.ready result).ending onEnd onRelease state =
      (.ready result, onEnd result state) := by
  simp [ending]

/-- Nothing is released when everything is ready. -/
theorem abandonAll_ready (results : List (Except ε α)) (state : σ) :
    abandonAll (results.map .ready) state = state := by
  induction results with
  | nil => rfl
  | cons result rest ih =>
      simpa [abandonAll] using ih

/-- Joining values that are there gives them all. -/
theorem all_ready_values (values : List α) (state : σ) :
    all (values.map fun value =>
      (.ready (.ok value) : Completion σ (Except ε α))) state =
      (.ready (.ok values), state) := by
  induction values with
  | nil => rfl
  | cons value rest ih =>
      rw [List.map_cons, all, ih]
      dsimp only
      rw [map_ready]
      rfl

/-- The end of a round in which the first of two completions moved, by a poll of
the second one. -/
def endRound
    (rejoin : Completion σ (Except ε β) → Completion σ (Except ε γ))
    (release : σ → σ) (second : Completion σ (Except ε β)) (state : σ) :
    Poll σ (Except ε β) → Poll σ (Except ε γ)
  | .blocked => .advanced (rejoin second) state
  | .advanced (.ready (.error error)) state =>
    .advanced (.ready (.error error)) (release state)
  | .advanced next state => .advanced (rejoin next) state

/-- The end of a round always makes a step. -/
theorem endRound_advances
    (rejoin : Completion σ (Except ε β) → Completion σ (Except ε γ))
    (release : σ → σ) (second : Completion σ (Except ε β)) (state : σ)
    (poll : Poll σ (Except ε β)) :
    ∃ next after, endRound rejoin release second state poll =
      .advanced next after := by
  rcases poll with _ | ⟨⟨_ | _⟩ | _, _⟩ <;> exact ⟨_, _, rfl⟩

theorem behind_pending
    (lead : σ → Lead σ ε β γ) (leadRelease : σ → σ)
    (advance : σ → Poll σ (Except ε β)) (release : σ → σ) :
    behind lead leadRelease (.pending advance release) =
      .pending
        (fun state =>
          match lead state with
          | .blocked => behindPoll lead leadRelease (advance state)
          | .failed error state =>
              .advanced (.ready (.error error)) (release state)
          | .moved rejoin leadRelease state =>
            endRound rejoin leadRelease (.pending advance release) state
              (advance state))
        (fun state => release (leadRelease state)) := by
  rw [behind]
  rfl

/-- The failure that a completion has ended in. -/
def failure? : Completion σ (Except ε α) → Option ε
  | .ready (.error error) => some error
  | _ => none

/-- A poll would neither change anything nor find a failure. -/
def rests (state : σ) : Completion σ (Except ε α) → Bool
  | .ready (.ok _) => true
  | .ready (.error _) => false
  | .pending advance _ =>
    match advance state with
    | .blocked => true
    | .advanced _ _ => false

/-- One round of two completions that are driven together. -/
def round (combine : α → β → γ) (first : Completion σ (Except ε α))
    (second : Completion σ (Except ε β))
    (state : σ) : Poll σ (Except ε γ) :=
  let polled := first.poll state
  match polled.1.failure? with
  | some error => .advanced (.ready (.error error)) (second.abandon polled.2)
  | none =>
    let polled' := second.poll polled.2
    match polled'.1.failure? with
    | some error =>
      .advanced (.ready (.error error)) (polled.1.abandon polled'.2)
    | none =>
      if first.rests state && second.rests polled.2 then .blocked
      else .advanced (both combine polled.1 polled'.1) polled'.2

section Rounds

variable {combine : α → β → γ} {first : Completion σ (Except ε α)}
  {second : Completion σ (Except ε β)}
  {state : σ} {error : ε}

/-- A round ends in the failure of the first completion, and the second one is
released. -/
theorem round_of_first_failed
    (failed : (first.poll state).1.failure? = some error) :
    round combine first second state =
      .advanced (.ready (.error error))
        (second.abandon (first.poll state).2) := by
  simp only [round, failed]

/-- A round ends in the failure of the second completion when the first one has
met none. -/
theorem round_of_second_failed
    (met : (first.poll state).1.failure? = none)
    (failed : (second.poll (first.poll state).2).1.failure? = some error) :
    round combine first second state =
      .advanced (.ready (.error error))
        ((first.poll state).1.abandon
          (second.poll (first.poll state).2).2) := by
  simp only [round, met, failed]

/-- A round without a failure goes on with what is left of both completions,
unless both of them wait. -/
theorem round_of_none_failed
    (met : (first.poll state).1.failure? = none)
    (met' : (second.poll (first.poll state).2).1.failure? = none) :
    round combine first second state =
      if first.rests state && second.rests (first.poll state).2 then .blocked
      else
        .advanced
          (both combine (first.poll state).1
            (second.poll (first.poll state).2).1)
          (second.poll (first.poll state).2).2 := by
  simp only [round, met, met']

end Rounds

/-- Unless the first one is ready, two completions are driven by rounds. -/
theorem both_pending
    (combine : α → β → γ) (advance : σ → Poll σ (Except ε α)) (release : σ → σ)
    (second : Completion σ (Except ε β)) :
    ∃ release', both combine (.pending advance release) second =
      .pending (round combine (.pending advance release) second) release' := by
  rw [both]
  cases second with
  | ready result =>
      refine ⟨release, ?_⟩
      cases result with
      | error error =>
          rw [behind]
          congr 1
          funext state
          rcases reached : advance state with _ | ⟨⟨_ | _⟩ | _, after⟩ <;>
            simp [round, Completion.poll, failure?, leadOf, abandon, reached]
      | ok value =>
          rw [behind]
          congr 1
          funext state
          rcases reached : advance state with _ | ⟨⟨_ | _⟩ | _, after⟩ <;>
            simp [round, rests, Completion.poll, failure?, leadOf, reached]
  | pending advance' release' =>
      refine ⟨fun state => release' (release state), ?_⟩
      rw [behind_pending]
      congr 1
      funext state
      rcases reached : advance state with _ | ⟨⟨_ | _⟩ | _, after⟩
      · rcases reached' : advance' state with _ | ⟨⟨_ | _⟩ | _, after'⟩ <;>
          simp [round, rests, Completion.poll, failure?, leadOf, behindPoll,
            both, abandon, reached, reached']
      · simp [round, Completion.poll, failure?, leadOf, abandon, reached]
      all_goals
        rcases reached' : advance' after with _ | ⟨⟨_ | _⟩ | _, after'⟩ <;>
          simp [round, rests, Completion.poll, failure?, leadOf, endRound,
            reached, reached']

/-- Two completions that are driven together are abandoned one after the
other. -/
theorem abandon_both_pending
    (combine : α → β → γ) (advance : σ → Poll σ (Except ε α)) (release : σ → σ)
    (second : Completion σ (Except ε β)) (state : σ) :
    (both combine (.pending advance release) second).abandon state =
      second.abandon (release state) := by
  rcases second with (error | value) | ⟨advance', release'⟩ <;>
    rw [both, behind] <;> rfl

/-- A property of two completions, the first one of which is ready or the
property holds after each of their rounds that moves on, holds of all pairs of
completions. -/
@[elab_as_elim]
theorem ind_rounds
    {motive : Completion σ (Except ε α) → Completion σ (Except ε β) → Prop}
    (ready : ∀ result second, motive (.ready result) second)
    (pending : ∀ advance release second,
      (∀ state,
        let polled := (Completion.pending advance release).poll state
        (second.poll polled.2).1.failure? = none →
          (rests state (.pending advance release) && second.rests polled.2) =
            false →
            motive polled.1 (second.poll polled.2).1) →
        motive (.pending advance release) second)
    (first : Completion σ (Except ε α)) (second : Completion σ (Except ε β)) :
    motive first second := by
  induction first using Completion.ind generalizing second with
  | ready result => exact ready result second
  | pending advance release ih =>
      -- When the first completion rests, the second one has moved, and the
      -- inner induction goes on.
      induction second using Completion.ind with
      | ready result =>
          refine pending advance release _ fun state met moved => ?_
          cases reached : advance state with
          | blocked => cases result <;>
              simp [rests, Completion.poll, failure?, reached] at met moved
          | advanced next after =>
              simp only [Completion.poll, reached]
              exact ih state next after reached _
      | pending advance' release' ih' =>
          refine pending advance release _ fun state met moved => ?_
          cases reached : advance state with
          | advanced next after =>
              simp only [Completion.poll, reached]
              exact ih state next after reached _
          | blocked =>
              cases reached' : advance' state with
              | blocked => simp [rests, Completion.poll, reached, reached']
                  at moved
              | advanced next after =>
                  simp only [Completion.poll, reached, reached']
                  exact ih' state next after reached'

@[simp]
theorem failure?_eq_some {completion : Completion σ (Except ε α)} {error : ε} :
    completion.failure? = some error ↔ completion = .ready (.error error) := by
  rcases completion with (_ | _) | _ <;> simp [failure?]

/-- The next poll of a completion finds a failure. -/
def Doomed (completion : Completion σ (Except ε α)) : Prop :=
  ∀ state, ∃ error, (completion.poll state).1.failure? = some error

theorem doomed_error
    (error : ε) : (.ready (.error error) : Completion σ (Except ε α)).Doomed :=
  fun _ => ⟨error, rfl⟩

/-- A pending completion is doomed when every poll of it ends in a failure. -/
theorem doomed_pending {advance : σ → Poll σ (Except ε α)} {release : σ → σ} :
    (Completion.pending advance release).Doomed ↔
      ∀ state, ∃ error after,
        advance state = .advanced (.ready (.error error)) after := by
  refine forall_congr' fun state => ?_
  rw [Completion.poll]
  cases advance state with
  | blocked => simp [failure?]
  | advanced next after => simp

variable {completion : Completion σ (Except ε α)}

/-- A success is not doomed. -/
theorem Doomed.ne_ok {value : α} (doomed : completion.Doomed) (state : σ) :
    completion ≠ .ready (.ok value) := by
  rintro rfl
  rcases doomed state with ⟨error, failed⟩
  cases failed

/-- A drive of a doomed completion fails. -/
theorem Doomed.drive (doomed : completion.Doomed) (state : σ) :
    ∃ error after, completion.drive state = (some (.error error), after) := by
  rcases doomed state with ⟨error, failed⟩
  refine ⟨error, (completion.poll state).2, ?_⟩
  rw [← driven_poll, driven, failure?_eq_some.mp failed, drive_ready]

theorem Doomed.map (f : α → β) (doomed : completion.Doomed) :
    (completion.map f).Doomed := by
  match completion with
  | .ready (.error error) =>
      rw [map_ready]
      exact doomed_error error
  | .ready (.ok value) => exact fun state => (doomed.ne_ok state rfl).elim
  | .pending advance release =>
      rw [doomed_pending] at doomed
      simp only [Completion.map, mapResult, doomed_pending]
      intro state
      rcases doomed state with ⟨error, after, reached⟩
      exact ⟨error, after, by rw [reached, mapPoll, mapResult]; rfl⟩

theorem Doomed.andThen
    {next : α → σ → Completion σ (Except ε β) × σ} (doomed : completion.Doomed)
    (state : σ) :
    (completion.andThen next state).1.Doomed := by
  match completion with
  | .ready (.error error) =>
      rw [andThen_ready_error]
      exact doomed_error error
  | .ready (.ok value) => exact (doomed.ne_ok state rfl).elim
  | .pending advance release =>
      rw [doomed_pending] at doomed
      simp only [Completion.andThen, resume, doomed_pending]
      intro state
      rcases doomed state with ⟨error, after, reached⟩
      exact ⟨error, after, by rw [reached, resumePoll, resume]⟩

section Joins

variable {first : Completion σ (Except ε α)}
  {second : Completion σ (Except ε β)}

/-- What is driven together with a doomed completion in front of it is
doomed. -/
theorem Doomed.both_left (combine : α → β → γ) (doomed : first.Doomed) :
    (both combine first second).Doomed := by
  match first with
  | .ready (.error error) =>
      unfold both failing
      rw [doomed_pending]
      exact fun state => ⟨error, second.abandon state, rfl⟩
  | .ready (.ok value) => exact fun state => (doomed.ne_ok state rfl).elim
  | .pending advance release =>
      rcases both_pending combine advance release second with ⟨release', rounds⟩
      rw [rounds, doomed_pending]
      intro state
      rcases doomed state with ⟨error, failed⟩
      exact ⟨error, _, round_of_first_failed failed⟩

/-- What is driven together with a doomed completion behind it is doomed. -/
theorem Doomed.both_right (combine : α → β → γ) (doomed : second.Doomed) :
    (both combine first second).Doomed := by
  match first with
  | .ready (.error error) => exact (doomed_error error).both_left combine
  | .ready (.ok value) =>
      rw [both]
      exact doomed.map (combine value)
  | .pending advance release =>
      rcases both_pending combine advance release second with ⟨release', rounds⟩
      rw [rounds, doomed_pending]
      intro state
      cases met :
          ((Completion.pending advance release).poll state).1.failure? with
      | some error => exact ⟨error, _, round_of_first_failed met⟩
      | none =>
          rcases doomed ((Completion.pending advance release).poll state).2 with
            ⟨error, failed⟩
          exact ⟨error, _, round_of_second_failed met failed⟩

variable {completions : List (Completion σ (Except ε α))}

/-- Completions one of which is doomed are doomed together. -/
theorem doomed_together
    (doomed : completion.Doomed) (member : completion ∈ completions) :
    (together completions).Doomed := by
  induction completions with
  | nil => cases member
  | cons first rest ih =>
      rw [together]
      rcases List.mem_cons.mp member with rfl | later
      · exact doomed.both_left List.cons
      · exact (ih later).both_right List.cons

/-- A join with a doomed completion among its elements is doomed. -/
theorem doomed_all
    (doomed : completion.Doomed) (member : completion ∈ completions)
    (state : σ) :
    (all completions state).1.Doomed := by
  induction completions with
  | nil => cases member
  | cons first rest ih =>
      match first with
      | .ready (.error error) =>
          rw [all]
          exact doomed_error error
      | .pending advance release =>
          rw [all]
          exact doomed_together doomed member
      | .ready (.ok value) =>
          rw [all]
          rcases List.mem_cons.mp member with rfl | later
          · exact (doomed.ne_ok state rfl).elim
          · exact (ih later).map (value :: ·)

end Joins

end Completion

end Phrasebook
