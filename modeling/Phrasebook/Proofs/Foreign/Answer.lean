import Phrasebook.Proofs.Completion.Vouching
import Phrasebook.Result

/-!
# Foreign handles in answers

When foreign handles are not allowed, taking the handles off an answer fails
where it meets a foreign one, at whatever depth, and never polls it.  So the
restricted taking off vouches for the unrestricted one: where it succeeds, no
foreign handle was met, and both have taken the same course.

`Resolved.watched` makes both facts visible.  It replaces the foreign handles of
an answer, and has an effect on the state at the moment when one of them is met.
-/

namespace Phrasebook

open Completion
  (Leads Vouches PollVouches StartVouches pollVouches_error startVouches_ready
    doomed_error)

namespace Resolved

variable {σ : Type}

/-- What one resolver or supplier has said vouches for what another one has
said: taking the handles off the one answer does so for the other one. -/
def SaidVouches
    (unrestricted unrestricted' : Bool) (said said' : Resolved σ × σ) : Prop :=
  ∀ expression,
    StartVouches (said.1.flatten expression unrestricted, said.2)
      (said'.1.flatten expression unrestricted', said'.2)

/-- Handles that lead each other, up to what is left of their answers. -/
theorem vouches_awaiting_of_leads
    {expression : Expression} {unrestricted unrestricted' : Bool}
    {handle handle' : Completion σ (Resolved σ)}
    (leads :
      Leads (fun answer => (answer.flatten expression unrestricted).Doomed)
        (fun answer answer' =>
          Vouches (answer.flatten expression unrestricted)
            (answer'.flatten expression unrestricted'))
        handle handle') :
    Vouches (awaiting expression unrestricted handle)
      (awaiting expression unrestricted' handle') := by
  induction leads using Leads.ind with
  | ready answer answer' vouches =>
      rw [awaiting, awaiting]
      exact .pending fun state => vouches.reach state
  | pending advance advance' release release' polls _ =>
      rw [awaiting, awaiting]
      refine .pending fun state => ?_
      have found := polls state
      revert found
      generalize advance state = poll, advance' state = poll'
      rintro (doomed | _ | ⟨leads, vouches⟩)
      · exact doomed.reach _ _
      · exact .blocked
      · cases leads with
        | ready same => exact same.reach _
        | pending _ => exact .advanced vouches

mutual

/-- The flattening without foreign handles vouches for the one with them. -/
theorem vouches_flatten
    (expression : Expression) (answer : Resolved σ) (state : σ) :
    StartVouches (answer.flatten expression false, state)
      (answer.flatten expression true, state) := by
  match answer with
  | .value _ | .notFound | .node _ | .failed _ =>
      exact startVouches_ready _ state
  | .completed inner => exact vouches_flatten expression inner state
  | .pending handle => exact .inr ⟨rfl, vouches_awaiting expression handle⟩
  | .foreign handle => exact .inl (doomed_error _)

/-- Waiting for a handle vouches, whatever comes out of it. -/
theorem vouches_awaiting
    (expression : Expression) (handle : Completion σ (Resolved σ)) :
    Vouches (awaiting expression false handle)
      (awaiting expression true handle) := by
  match handle with
  | .ready answer =>
      rw [awaiting, awaiting]
      exact .pending fun state =>
        (vouches_flatten expression answer state).reach
  | .pending advance release =>
      rw [awaiting, awaiting]
      exact .pending fun state =>
        vouches_awaitingPoll expression (advance state)

theorem vouches_awaitingPoll
    (expression : Expression) (poll : Poll σ (Resolved σ)) :
    PollVouches (awaitingPoll expression false poll)
      (awaitingPoll expression true poll) := by
  match poll with
  | .blocked => exact .blocked
  | .advanced (.ready answer) after =>
      exact (vouches_flatten expression answer after).reach
  | .advanced (.pending advance release) after =>
      exact .advanced (vouches_awaiting expression (.pending advance release))

end

/-- The first layer of an answer that is not completed is a foreign handle. -/
def showsForeign : Resolved σ → Bool
  | .completed inner => showsForeign inner
  | .foreign _ => true
  | _ => false

/-- The effect of meeting a foreign handle, if an answer shows one. -/
def meeting (mark : σ → σ) (answer : Resolved σ) (state : σ) : σ :=
  if answer.showsForeign then mark state else state

section Watching

variable (mark : σ → σ)
  (swap : Completion σ (Resolved σ) → Completion σ (Resolved σ))

mutual

/-- The same answer with other foreign handles, and with an effect in each poll
that leads to one. -/
def watched : Resolved σ → Resolved σ
  | .value found => .value found
  | .notFound => .notFound
  | .node result => .node result
  | .failed cause => .failed cause
  | .completed inner => .completed (watched inner)
  | .pending handle => .pending (watchedHandle handle)
  | .foreign handle => .foreign (swap handle)

/-- A handle that is watched.  One that has its answer is polled for it. -/
def watchedHandle : Completion σ (Resolved σ) → Completion σ (Resolved σ)
  | .ready answer =>
    .pending (fun state =>
      .advanced (.ready (watched answer)) (answer.meeting mark state)) id
  | .pending advance release =>
    .pending (fun state => watchedPoll (advance state)) release

/-- Watches what a poll has led to. -/
def watchedPoll : Poll σ (Resolved σ) → Poll σ (Resolved σ)
  | .blocked => .blocked
  | .advanced next state =>
    match next with
    | .ready answer =>
      .advanced (.ready (watched answer)) (answer.meeting mark state)
    | .pending advance release =>
      .advanced (watchedHandle (.pending advance release)) state

end

theorem watchedPoll_ready (answer : Resolved σ) (state : σ) :
    watchedPoll mark swap (.advanced (.ready answer) state) =
      .advanced (.ready (answer.watched mark swap))
        (answer.meeting mark state) := by
  rw [watchedPoll]

theorem watchedPoll_pending
    (advance : σ → Poll σ (Resolved σ)) (release : σ → σ) (state : σ) :
    watchedPoll mark swap (.advanced (.pending advance release) state) =
      .advanced (watchedHandle mark swap (.pending advance release)) state := by
  rw [watchedPoll]

@[simp]
theorem meeting_id (answer : Resolved σ) (state : σ) :
    answer.meeting id state = state :=
  ite_self state

mutual

/-- What stands in a foreign handle makes no difference when it must not be
polled. -/
theorem flatten_watched (expression : Expression) (answer : Resolved σ) :
    (answer.watched id swap).flatten expression false =
      answer.flatten expression false := by
  match answer with
  | .value _ | .notFound | .node _ | .failed _ | .foreign _ => rfl
  | .completed inner =>
      rw [watched, flatten, flatten]
      exact flatten_watched expression inner
  | .pending handle =>
      rw [watched, flatten, flatten]
      exact awaiting_watched expression handle

/-- What has been exchanged behind foreign handles is not seen by who may not
look there. -/
theorem awaiting_watched
    (expression : Expression) (handle : Completion σ (Resolved σ)) :
    awaiting expression false (watchedHandle id swap handle) =
      awaiting expression false handle := by
  match handle with
  | .ready answer =>
      rw [watchedHandle, awaiting, awaiting]
      congr 1
      funext state
      rw [awaitingPoll, flatten_watched expression answer, meeting_id]
  | .pending advance release =>
      rw [watchedHandle, awaiting, awaiting]
      congr 1
      funext state
      exact awaitingPoll_watched expression (advance state)

theorem awaitingPoll_watched
    (expression : Expression) (poll : Poll σ (Resolved σ)) :
    awaitingPoll expression false (watchedPoll id swap poll) =
      awaitingPoll expression false poll := by
  match poll with
  | .blocked => rw [watchedPoll]
  | .advanced (.ready answer) after =>
      rw [watchedPoll_ready, awaitingPoll, awaitingPoll,
        flatten_watched expression answer, meeting_id]
  | .advanced (.pending advance release) after =>
      have inside := awaiting_watched expression (.pending advance release)
      rw [watchedPoll_pending, awaitingPoll, ← inside, watchedHandle,
        awaitingPoll]

end

mutual

/-- Meeting a foreign handle has an effect only on what fails. -/
theorem vouches_watched
    (expression : Expression) (answer : Resolved σ) (state : σ) :
    StartVouches ((answer.watched mark swap).flatten expression false,
      answer.meeting mark state)
      (answer.flatten expression false, state) := by
  match answer with
  | .value _ | .notFound | .node _ | .failed _ =>
      exact startVouches_ready _ state
  | .completed inner => exact vouches_watched expression inner state
  | .pending handle =>
      exact .inr ⟨rfl, vouches_awaiting_watched expression handle⟩
  | .foreign handle => exact .inl (doomed_error _)

/-- Waiting for a watched handle vouches for waiting for the plain one. -/
theorem vouches_awaiting_watched
    (expression : Expression) (handle : Completion σ (Resolved σ)) :
    Vouches (awaiting expression false (watchedHandle mark swap handle))
      (awaiting expression false handle) := by
  match handle with
  | .ready answer =>
      rw [watchedHandle, awaiting, awaiting]
      exact .pending fun state =>
        (vouches_watched expression answer state).reach
  | .pending advance release =>
      rw [watchedHandle, awaiting, awaiting]
      exact .pending fun state =>
        vouches_awaitingPoll_watched expression (advance state)

theorem vouches_awaitingPoll_watched
    (expression : Expression) (poll : Poll σ (Resolved σ)) :
    PollVouches (awaitingPoll expression false (watchedPoll mark swap poll))
      (awaitingPoll expression false poll) := by
  match poll with
  | .blocked => exact .blocked
  | .advanced (.ready answer) after =>
      rw [watchedPoll_ready]
      exact (vouches_watched expression answer after).reach
  | .advanced (.pending advance release) after =>
      rw [watchedPoll_pending]
      exact .advanced
        (vouches_awaiting_watched expression (.pending advance release))

end

end Watching

end Resolved

end Phrasebook
