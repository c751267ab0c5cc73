import Phrasebook.Completion.Join
import Phrasebook.Proofs.Completion.Conduct

/-!
# Driving completions

Driving commutes with the operations on completions.  A chain is driven by
driving its first completion and then what comes next, wherever the polls fall;
a completion on a part of the state is driven on that part; and a handle is
driven by driving it and then what is left of its answer.
-/

namespace Phrasebook

namespace Completion

variable {σ τ κ ρ ω ε α β γ : Type}

/-- What a computation that has started ends in, with the state it leaves. -/
def driven (started : Completion σ ρ × σ) : Option ρ × σ :=
  started.1.drive started.2

@[simp]
theorem drive_ready (result : ρ) (state : σ) :
    (Completion.ready result).drive state = (some result, state) := by
  rw [drive]

theorem driven_ready (result : ρ) (state : σ) :
    driven (.ready result, state) = (some result, state) :=
  drive_ready result state

theorem drive_pending (advance : σ → Poll σ ρ) (release : σ → σ) (state : σ) :
    (Completion.pending advance release).drive state =
      drivePoll (advance state) state := by
  rw [drive]

@[simp]
theorem drivePoll_blocked (state : σ) :
    drivePoll (.blocked : Poll σ ρ) state = (none, state) := by
  rw [drivePoll]

@[simp]
theorem drivePoll_advanced (next : Completion σ ρ) (after state : σ) :
    drivePoll (.advanced next after) state = next.drive after := by
  rw [drivePoll]

/-- A poll before the drive makes no difference. -/
@[simp]
theorem driven_poll (completion : Completion σ ρ) (state : σ) :
    driven (completion.poll state) = completion.drive state := by
  cases completion with
  | ready result => rfl
  | pending advance release =>
      rw [Completion.poll, drive_pending]
      cases poll : advance state with
      | blocked =>
          rw [driven, drive_pending, poll]
      | advanced next after => rfl

theorem drivePoll_reach (completion : Completion σ ρ) (state before : σ) :
    drivePoll (completion.reach state) before = completion.drive state := by
  rw [Completion.reach, drivePoll_advanced]
  exact driven_poll completion state

@[simp]
theorem drive_deferred (start : σ → Completion σ ρ × σ) (state : σ) :
    (deferred start).drive state = driven (start state) := by
  rw [deferred, drive_pending, drivePoll_reach, driven]

/-- A result that is mapped is the mapped result of the drive. -/
@[simp]
theorem drive_mapResult (f : ρ → ω) (completion : Completion σ ρ) (state : σ) :
    (completion.mapResult f).drive state =
      ((completion.drive state).1.map f, (completion.drive state).2) := by
  induction completion using Completion.ind generalizing state with
  | ready result =>
      rw [mapResult, drive_ready, drive_ready]
      rfl
  | pending advance release ih =>
      rw [mapResult, drive_pending, drive_pending]
      cases poll : advance state with
      | blocked =>
          rw [mapPoll, drivePoll_blocked, drivePoll_blocked]
          rfl
      | advanced next after =>
          rw [mapPoll, drivePoll_advanced, drivePoll_advanced]
          exact ih state next after poll after

/-- A part of a state that can be replaced. -/
structure IsPart (part : τ → σ) (update : σ → τ → τ) : Prop where
  part_update : ∀ state whole, part (update state whole) = state
  update_part : ∀ whole, update (part whole) whole = whole
  update_update : ∀ state state' whole, update state (update state' whole) =
    update state whole

/-- A completion on a part of the state is driven on this part. -/
theorem drive_within
    {part : τ → σ} {update : σ → τ → τ} (isPart : IsPart part update)
    (completion : Completion σ ρ) (whole : τ) :
    (completion.within part update).drive whole =
      ((completion.drive (part whole)).1,
        update (completion.drive (part whole)).2 whole) := by
  induction completion using Completion.ind generalizing whole with
  | ready result =>
      rw [within, drive_ready, drive_ready, isPart.update_part]
  | pending advance release ih =>
      rw [within, drive_pending, drive_pending]
      cases poll : advance (part whole) with
      | blocked =>
          rw [withinPoll, drivePoll_blocked, drivePoll_blocked,
            isPart.update_part]
      | advanced next after =>
          rw [withinPoll, drivePoll_advanced, drivePoll_advanced,
            ih _ next after poll, isPart.part_update, isPart.update_update]

/-- The private part at the end of a drive goes into the result. -/
theorem drive_enclosed
    (completion : Completion (κ × σ) ρ) (inner : κ) (state : σ) :
    (completion.enclosed inner).drive state =
      ((completion.drive (inner, state)).1.map fun result =>
          (result, (completion.drive (inner, state)).2.1),
        (completion.drive (inner, state)).2.2) := by
  induction completion using Completion.ind generalizing inner state with
  | ready result =>
      rw [enclosed, drive_ready, drive_ready]
      rfl
  | pending advance release ih =>
      rw [enclosed, drive_pending, drive_pending]
      cases poll : advance (inner, state) with
      | blocked =>
          rw [enclosedPoll, drivePoll_blocked, drivePoll_blocked]
          rfl
      | advanced next after =>
          rw [enclosedPoll, drivePoll_advanced, drivePoll_advanced]
          exact ih _ next after poll after.1 after.2

/-- Goes on after a drive: a success with what comes next, a failure not at
all. -/
def driveOn (next : α → σ → Completion σ (Except ε β) × σ) :
    Option (Except ε α) × σ → Option (Except ε β) × σ
  | (some (.ok value), state) => driven (next value state)
  | (some (.error error), state) => (some (.error error), state)
  | (none, state) => (none, state)

/-- What follows a completion is driven on from its end. -/
theorem driven_resume
    (next : α → σ → Completion σ (Except ε β) × σ)
    (completion : Completion σ (Except ε α)) (state : σ) :
    driven (completion.resume next state) =
      driveOn next (completion.drive state) := by
  induction completion using Completion.ind generalizing state with
  | ready result =>
      rw [drive_ready]
      cases result with
      | error error =>
          rw [resume, driven, drive_ready]
          rfl
      | ok value =>
          rw [resume, driven_poll]
          rfl
  | pending advance release ih =>
      rw [resume, driven, drive_pending, drive_pending]
      cases poll : advance state with
      | blocked =>
          rw [resumePoll, drivePoll_blocked, drivePoll_blocked]
          rfl
      | advanced reached after =>
          rw [resumePoll, drivePoll_advanced, drivePoll_advanced]
          exact ih state reached after poll after

/-- A chain of computations is driven on from the end of the first one. -/
@[simp]
theorem driven_andThen
    (next : α → σ → Completion σ (Except ε β) × σ)
    (completion : Completion σ (Except ε α)) (state : σ) :
    driven (completion.andThen next state) =
      driveOn next (completion.drive state) := by
  match completion with
  | .ready (.ok value) =>
      rw [drive_ready]
      rfl
  | .ready (.error _) => exact driven_resume next _ state
  | .pending _ _ => exact driven_resume next _ state

/-- When what comes next is there at once, a drive ends with it. -/
theorem driveOn_ready
    {next : α → σ → Completion σ (Except ε β) × σ} (f : α → Except ε β)
    (ready : ∀ value state, ∃ after,
      next value state = (.ready (f value), after))
    (driven : Option (Except ε α) × σ) :
    (driveOn next driven).1 = driven.1.map fun result => result.bind f := by
  rcases driven with ⟨_ | error | value, state⟩
  case none => rfl
  case some.error => rfl
  case some.ok =>
    rcases ready value state with ⟨after, ready⟩
    rw [driveOn, ready, Completion.driven, drive_ready]
    rfl

/-- Going on with the value itself changes no result. -/
theorem driveOn_same
    {next : α → σ → Completion σ (Except ε α) × σ}
    (same : ∀ value state, ∃ after,
      next value state = (.ready (.ok value), after))
    (driven : Option (Except ε α) × σ) :
    (driveOn next driven).1 = driven.1 := by
  rw [driveOn_ready .ok same]
  rcases driven with ⟨_ | error | value, state⟩ <;> rfl

/-- Beside a success that is there, a completion is driven alone. -/
theorem drive_both_ready
    (combine : α → β → γ) (other : β) (completion : Completion σ (Except ε α))
    (state : σ) :
    (both combine completion (.ready (.ok other))).drive state =
      ((completion.drive state).1.map (Except.map fun value =>
        combine value other),
        (completion.drive state).2) := by
  induction completion using Completion.ind generalizing state with
  | ready result =>
      cases result with
      | error error =>
          rw [both, drive_ready]
          show (failing error _).drive state = _
          rw [failing, drive_pending, drivePoll_advanced, drive_ready]
          rfl
      | ok value =>
          rw [both, drive_ready]
          show ((Completion.ready _).mapResult _).drive state = _
          rw [drive_mapResult, drive_ready]
          rfl
  | pending advance release ih =>
      rw [both, behind, drive_pending, drive_pending]
      cases poll : advance state with
      | blocked =>
          rw [leadOf, drivePoll_blocked]
          exact drivePoll_blocked state
      | advanced next after =>
          have later := ih state next after poll after
          rw [drivePoll_advanced]
          match next with
          | .ready (.error error) =>
              rw [leadOf, drive_ready]
              dsimp only
              rw [drivePoll_advanced, drive_ready]
              rfl
          | .ready (.ok value) => exact later
          | .pending _ _ => exact later

/-- A join of one completion drives it alone. -/
theorem driven_all_singleton
    (completion : Completion σ (Except ε α)) (state : σ) :
    driven (all [completion] state) =
      ((completion.drive state).1.map (Except.map fun value => [value]),
        (completion.drive state).2) := by
  match completion with
  | .ready (.ok value) =>
      rw [all, all, drive_ready]
      show ((Completion.ready _).mapResult _).drive state = _
      rw [drive_mapResult, drive_ready]
      rfl
  | .ready (.error error) =>
      rw [all, driven, drive_ready, drive_ready]
      rfl
  | .pending advance release =>
      rw [all, together, together, driven]
      exact drive_both_ready List.cons [] _ state

end Completion

namespace Resolved

open Completion

variable {σ : Type}

/-- What is left of a drive of a handle: the drive of its answer. -/
def driveAnswer (expression : Expression) (unrestricted : Bool) :
    Option (Resolved σ) × σ → Option (Except EngineError Settled) × σ
  | (some answer, state) => (answer.flatten expression unrestricted).drive state
  | (none, state) => (none, state)

/-- A handle is driven to its end, and then the answer in it is. -/
theorem drive_awaiting
    (expression : Expression) (unrestricted : Bool)
    (handle : Completion σ (Resolved σ)) (state : σ) :
    (awaiting expression unrestricted handle).drive state =
      driveAnswer expression unrestricted (handle.drive state) := by
  induction handle using Completion.ind generalizing state with
  | ready answer =>
      rw [awaiting, drive_pending, drivePoll_reach, drive_ready]
      rfl
  | pending advance release ih =>
      rw [awaiting, drive_pending, drive_pending]
      cases poll : advance state with
      | blocked =>
          rw [awaitingPoll, drivePoll_blocked, drivePoll_blocked]
          rfl
      | advanced next after =>
          rw [drivePoll_advanced]
          cases next with
          | ready answer =>
              rw [awaitingPoll, drivePoll_reach, drive_ready]
              rfl
          | pending advance' release' =>
              rw [awaitingPoll, drivePoll_advanced]
              exact ih state _ after poll after

end Resolved

end Phrasebook
