import Mathlib.Tactic.SplitIfs
import Phrasebook.Proofs.Completion.Drive
import Phrasebook.Proofs.Completion.Round

/-!
# The results that a completion can end in

A completion can end in a result when some course of polls leads to it, at
whatever states these polls happen.  What is put together from completions can
end in a failure only when one of its parts can, so every failure can be
followed back to where it was first met.

A course of polls is the list of the states at which they happen.  A completion
can record its course, and a drive has one of its own.
-/

namespace Phrasebook

namespace Completion

variable {σ τ κ ρ ω ε α β γ : Type}

/-- Some course of polls ends a completion with a result. -/
inductive CanEndIn (result : ρ) : Completion σ ρ → Prop
  | ready : CanEndIn result (.ready result)
  | pending {advance : σ → Poll σ ρ} {release : σ →
      σ} (state : σ) {next : Completion σ ρ} {after : σ}
      (advanced : advance state = .advanced next after)
      (later : CanEndIn result next) :
      CanEndIn result (.pending advance release)

variable {result : ρ} {completion : Completion σ ρ}

@[simp]
theorem canEndIn_ready {result' : ρ} :
    CanEndIn result (.ready result' : Completion σ ρ) ↔ result = result' := by
  constructor
  · rintro ⟨⟩
    rfl
  · rintro rfl
    exact .ready

theorem canEndIn_pending {advance : σ → Poll σ ρ} {release : σ → σ} :
    CanEndIn result (.pending advance release) ↔
      ∃ state next after, advance state = .advanced next after ∧
        CanEndIn result next := by
  constructor
  · rintro (_ | ⟨state, advanced, later⟩)
    exact ⟨state, _, _, advanced, later⟩
  · rintro ⟨state, next, after, advanced, later⟩
    exact .pending state advanced later

/-- What a completion can end in after a poll, it can end in. -/
theorem CanEndIn.of_poll
    {state : σ} (ends : CanEndIn result (completion.poll state).1) :
    CanEndIn result completion := by
  cases completion with
  | ready result' => exact ends
  | pending advance release =>
      rw [Completion.poll] at ends
      cases advanced : advance state with
      | blocked =>
          rw [advanced] at ends
          exact ends
      | advanced next after =>
          rw [advanced] at ends
          exact .pending state advanced ends

/-- A completion can end in what a drive of it ends in. -/
theorem canEndIn_of_drive
    {state after : σ} (driven : completion.drive state = (some result, after)) :
    CanEndIn result completion := by
  induction completion using Completion.ind generalizing state with
  | ready result' =>
      simp only [drive_ready, Prod.mk.injEq, Option.some.injEq] at driven
      rw [driven.1]
      exact .ready
  | pending advance release ih =>
      rw [drive_pending] at driven
      cases advanced : advance state with
      | blocked => simp [advanced] at driven
      | advanced next last =>
          rw [advanced, drivePoll_advanced] at driven
          exact .pending state advanced (ih state next last advanced driven)

/-- What a mapped completion can end in is a mapped result. -/
theorem canEndIn_mapResult
    {f : ρ → ω} {result : ω} (ends : CanEndIn result (completion.mapResult f)) :
    ∃ inner, CanEndIn inner completion ∧ result = f inner := by
  induction completion using Completion.ind with
  | ready inner =>
      rw [mapResult, canEndIn_ready] at ends
      exact ⟨inner, .ready, ends⟩
  | pending advance release ih =>
      rw [mapResult, canEndIn_pending] at ends
      rcases ends with ⟨state, next, after, advanced, later⟩
      cases polled : advance state with
      | blocked => simp [polled, mapPoll] at advanced
      | advanced inner after' =>
          simp only [polled, mapPoll, Poll.advanced.injEq] at advanced
          rcases advanced with ⟨rfl, rfl⟩
          rcases ih state inner after' polled later with ⟨result', ends, rfl⟩
          exact ⟨result', .pending state polled ends, rfl⟩

theorem canEndIn_ending
    {onEnd : ρ → σ → σ} {onRelease : σ → σ} {state : σ}
    (ends : CanEndIn result (completion.ending onEnd onRelease state).1) :
    CanEndIn result completion := by
  induction completion using Completion.ind generalizing state with
  | ready result' => simpa using ends
  | pending advance release ih =>
      rw [ending, canEndIn_pending] at ends
      rcases ends with ⟨state, next, after, advanced, later⟩
      cases polled : advance state with
      | blocked => simp [polled, endingPoll] at advanced
      | advanced inner after' =>
          simp only [polled, endingPoll, Poll.advanced.injEq] at advanced
          rcases advanced with ⟨rfl, -⟩
          exact .pending state polled (ih state inner after' polled later)

theorem canEndIn_within
    {part : τ → σ} {update : σ → τ → τ}
    (ends : CanEndIn result (completion.within part update)) :
    CanEndIn result completion := by
  induction completion using Completion.ind with
  | ready result' =>
      rw [within, canEndIn_ready] at ends
      rw [ends]
      exact .ready
  | pending advance release ih =>
      rw [within, canEndIn_pending] at ends
      rcases ends with ⟨whole, next, after, advanced, later⟩
      cases polled : advance (part whole) with
      | blocked => simp [polled, withinPoll] at advanced
      | advanced inner after' =>
          simp only [polled, withinPoll, Poll.advanced.injEq] at advanced
          rcases advanced with ⟨rfl, -⟩
          exact .pending (part whole) polled
            (ih (part whole) inner after' polled later)

/-- A completion with a private part can end in what it can end in with this
part in the open. -/
theorem canEndIn_enclosed
    {completion : Completion (κ × σ) ρ} {inner last : κ}
    (ends : CanEndIn (result, last) (completion.enclosed inner)) :
    CanEndIn result completion := by
  induction completion using Completion.ind generalizing inner with
  | ready result' =>
      rw [enclosed, canEndIn_ready, Prod.mk.injEq] at ends
      rw [ends.1]
      exact .ready
  | pending advance release ih =>
      rw [enclosed, canEndIn_pending] at ends
      rcases ends with ⟨state, next, after, advanced, later⟩
      cases polled : advance (inner, state) with
      | blocked => simp [polled, enclosedPoll] at advanced
      | advanced inner' after' =>
          simp only [polled, enclosedPoll, Poll.advanced.injEq] at advanced
          rcases advanced with ⟨rfl, -⟩
          exact .pending (inner, state) polled
            (ih (inner, state) inner' after' polled later)

/-- A computation that starts at its first poll starts with the private part
that it has been given. -/
theorem canEndIn_enclosed_deferred
    {start : κ × σ → Completion (κ × σ) ρ × (κ × σ)} {inner last : κ}
    (ends : CanEndIn (result, last) ((deferred start).enclosed inner)) :
    ∃ state, CanEndIn result (start (inner, state)).1 := by
  rw [deferred, enclosed, canEndIn_pending] at ends
  rcases ends with ⟨state, next, after, advanced, later⟩
  simp only [Completion.reach, enclosedPoll, Poll.advanced.injEq] at advanced
  rcases advanced with ⟨rfl, -⟩
  exact ⟨state, (canEndIn_enclosed later).of_poll⟩

section Polls

variable {polls : List σ}

/-- What polls at some states, one after the other, leave of a completion. -/
def polledAt (polls : List σ) (completion : Completion σ ρ) : Completion σ ρ :=
  polls.foldl (fun completion state => (completion.poll state).1) completion

@[simp]
theorem polledAt_ready (polls : List σ) :
    (Completion.ready result).polledAt polls = .ready result := by
  induction polls with
  | nil => rfl
  | cons state rest ih => exact ih

/-- What starts at its first poll has started when the others follow. -/
theorem polledAt_deferred
    (start : σ → Completion σ ρ × σ) (state : σ) (polls : List σ) :
    (deferred start).polledAt (state :: polls) =
      ((start state).1.poll (start state).2).1.polledAt polls :=
  rfl

theorem canEndIn_of_polledAt
    (ended : completion.polledAt polls = .ready result) :
    CanEndIn result completion := by
  induction polls generalizing completion with
  | nil =>
      obtain rfl : completion = .ready result := ended
      exact .ready
  | cons state rest ih => exact (ih ended).of_poll

/-- Polls lead a mapped completion to the mapped result. -/
theorem polledAt_mapResult
    (f : ρ → ω) (polls : List σ) (completion : Completion σ ρ) :
    (completion.mapResult f).polledAt polls =
      (completion.polledAt polls).mapResult f := by
  induction polls generalizing completion with
  | nil => rfl
  | cons state rest ih =>
      have polled : ((completion.mapResult f).poll state).1 =
          (completion.poll state).1.mapResult f := by
        cases completion with
        | ready result =>
            rw [mapResult, Completion.poll, Completion.poll, mapResult]
        | pending advance release =>
            rw [mapResult, Completion.poll, Completion.poll]
            cases advance state with
            | blocked => rw [mapPoll, mapResult]
            | advanced next after => rw [mapPoll]
      exact (congrArg _ polled).trans (ih (completion.poll state).1)

/-- A completion on a part of the state is polled at the parts. -/
theorem polledAt_within
    (part : τ → σ) (update : σ → τ → τ) (polls : List τ)
    (completion : Completion σ ρ) :
    (completion.within part update).polledAt polls =
      (completion.polledAt (polls.map part)).within part update := by
  induction polls generalizing completion with
  | nil => rfl
  | cons whole rest ih =>
      have polled : ((completion.within part update).poll whole).1 =
          (completion.poll (part whole)).1.within part update := by
        cases completion with
        | ready result => rw [within, Completion.poll, Completion.poll, within]
        | pending advance release =>
            rw [within, Completion.poll, Completion.poll]
            cases advance (part whole) with
            | blocked => rw [withinPoll, within]
            | advanced next after => rw [withinPoll]
      exact (congrArg _ polled).trans (ih (completion.poll (part whole)).1)

mutual

/-- The states at which a drive polls. -/
def visited : Completion σ ρ → σ → List σ
  | .ready _, _ => []
  | .pending advance _, state => state :: visitedPoll (advance state)

/-- The states at which a drive polls after a poll. -/
def visitedPoll : Poll σ ρ → List σ
  | .blocked => []
  | .advanced next state => visited next state

end

/-- The states at which a drive polls lead to what the drive ends in. -/
theorem polledAt_visited
    {state after : σ} (driven : completion.drive state = (some result, after)) :
    completion.polledAt (completion.visited state) = .ready result := by
  induction completion using Completion.ind generalizing state with
  | ready result' =>
      simp only [drive_ready, Prod.mk.injEq, Option.some.injEq] at driven
      rw [driven.1, polledAt_ready]
  | pending advance release ih =>
      rw [drive_pending] at driven
      rw [visited, polledAt, List.foldl_cons, Completion.poll]
      cases advanced : advance state with
      | blocked => simp [advanced] at driven
      | advanced next last =>
          rw [advanced, drivePoll_advanced] at driven
          exact ih state next last advanced driven

mutual

/-- The states of the polls that have made a step go into the result. -/
def recording (seen : List σ) : Completion σ ρ → Completion σ (ρ × List σ)
  | .ready result => .ready (result, seen)
  | .pending advance release =>
    .pending (fun state =>
      recordingPoll (seen ++ [state]) (advance state)) release

/-- Goes on after a poll. -/
def recordingPoll (seen : List σ) : Poll σ ρ → Poll σ (ρ × List σ)
  | .blocked => .blocked
  | .advanced next state => .advanced (recording seen next) state

end

/-- The states that have been recorded are those at which polls have led to the
result. -/
theorem polledAt_of_recording
    {seen polls : List σ}
    (ends : CanEndIn (result, polls) (completion.recording seen)) :
    ∃ later, polls = seen ++ later ∧ completion.polledAt later =
      .ready result := by
  induction completion using Completion.ind generalizing seen with
  | ready result' =>
      rw [recording, canEndIn_ready, Prod.mk.injEq] at ends
      rcases ends with ⟨rfl, rfl⟩
      exact ⟨[], (List.append_nil polls).symm, rfl⟩
  | pending advance release ih =>
      rw [recording, canEndIn_pending] at ends
      rcases ends with ⟨state, next, after, advanced, later⟩
      cases polled : advance state with
      | blocked => simp [polled, recordingPoll] at advanced
      | advanced inner after' =>
          simp only [polled, recordingPoll, Poll.advanced.injEq] at advanced
          rcases advanced with ⟨rfl, -⟩
          rcases ih state inner after' polled later with ⟨rest, rfl, ended⟩
          refine ⟨state :: rest, List.append_assoc _ _ _, ?_⟩
          rw [polledAt, List.foldl_cons, Completion.poll, polled]
          exact ended

end Polls

section Failures

variable {completion : Completion σ (Except ε α)} {error : ε}

theorem canFail_of_poll
    {state : σ} (failed : (completion.poll state).1.failure? = some error) :
    CanEndIn (.error error) completion := by
  have ended := failure?_eq_some.mp failed
  apply CanEndIn.of_poll
  rw [ended]
  exact .ready

theorem canFail_map
    {f : α → β} (fails : CanEndIn (.error error) (completion.map f)) :
    CanEndIn (.error error) completion := by
  rcases canEndIn_mapResult fails with ⟨_ | value, ends, same⟩
  · obtain rfl : error = _ := by simpa [Except.map] using same
    exact ends
  · simp [Except.map] at same

/-- A chain fails in its first completion or in what comes next. -/
theorem canFail_resume
    {next : α → σ → Completion σ (Except ε β) × σ} {state : σ}
    (fails : CanEndIn (.error error) (completion.resume next state).1) :
    CanEndIn (.error error) completion ∨
      ∃ value state, CanEndIn (.error error) (next value state).1 := by
  induction completion using Completion.ind generalizing state with
  | ready result =>
      cases result with
      | error error' =>
          rw [resume, canEndIn_ready] at fails
          obtain rfl : error = error' := by simpa using fails
          exact .inl .ready
      | ok value =>
          rw [resume] at fails
          exact .inr ⟨value, state, fails.of_poll⟩
  | pending advance release ih =>
      rw [resume, canEndIn_pending] at fails
      rcases fails with ⟨state, later, after, advanced, fails⟩
      cases polled : advance state with
      | blocked => simp [polled, resumePoll] at advanced
      | advanced inner after' =>
          simp only [polled, resumePoll, Poll.advanced.injEq] at advanced
          rcases advanced with ⟨rfl, -⟩
          exact (ih state inner after' polled fails).imp_left fun fails =>
            .pending state polled fails

theorem canFail_andThen
    {next : α → σ → Completion σ (Except ε β) × σ} {state : σ}
    (fails : CanEndIn (.error error) (completion.andThen next state).1) :
    CanEndIn (.error error) completion ∨
      ∃ value state, CanEndIn (.error error) (next value state).1 := by
  match completion with
  | .ready (.ok value) => exact .inr ⟨value, state, fails⟩
  | .ready (.error _) => exact canFail_resume fails
  | .pending _ _ => exact canFail_resume fails

section Joins

variable {combine : α → β → γ} {first : Completion σ (Except ε α)}
  {second : Completion σ (Except ε β)}

/-- A failure of two completions that are driven together is a failure of one of
them. -/
theorem canFail_both
    (fails : CanEndIn (.error error) (both combine first second)) :
    CanEndIn (.error error) first ∨ CanEndIn (.error error) second := by
  induction first, second using ind_rounds with
  | ready result second =>
      cases result with
      | error error' =>
          unfold both failing at fails
          rcases canEndIn_pending.mp fails with
            ⟨state, next, after, advanced, later⟩
          simp only [Poll.advanced.injEq] at advanced
          rcases advanced with ⟨rfl, -⟩
          obtain rfl : error = error' := by simpa using later
          exact .inl .ready
      | ok value =>
          rw [both] at fails
          exact .inr (canFail_map fails)
  | pending advance release second ih =>
      rcases both_pending combine advance release second with ⟨release', rounds⟩
      rw [rounds, canEndIn_pending] at fails
      rcases fails with ⟨state, next, after, advanced, later⟩
      cases met :
          ((Completion.pending advance release).poll state).1.failure? with
      | some error' =>
          rw [round_of_first_failed met, Poll.advanced.injEq] at advanced
          rcases advanced with ⟨rfl, -⟩
          obtain rfl : error = error' := by simpa using later
          exact .inl (canFail_of_poll met)
      | none =>
          cases met' :
              (second.poll
                  ((Completion.pending advance release).poll
                      state).2).1.failure? with
          | some error' =>
              rw [round_of_second_failed met met', Poll.advanced.injEq]
                at advanced
              rcases advanced with ⟨rfl, -⟩
              obtain rfl : error = error' := by simpa using later
              exact .inr (canFail_of_poll met')
          | none =>
              rw [round_of_none_failed met met'] at advanced
              split_ifs at advanced with rest
              simp only [Poll.advanced.injEq] at advanced
              rcases advanced with ⟨rfl, -⟩
              rw [Bool.not_eq_true] at rest
              exact (ih state met' rest later).imp CanEndIn.of_poll
                CanEndIn.of_poll

variable {completions : List (Completion σ (Except ε α))}

/-- What is driven together fails where one of the completions does. -/
theorem canFail_together
    (fails : CanEndIn (.error error) (together completions)) :
    ∃ completion ∈ completions, CanEndIn (.error error) completion := by
  induction completions with
  | nil => cases fails
  | cons first rest ih =>
      rw [together] at fails
      rcases canFail_both fails with here | later
      · exact ⟨first, List.mem_cons_self, here⟩
      · rcases ih later with ⟨completion, member, fails⟩
        exact ⟨completion, List.mem_cons_of_mem first member, fails⟩

/-- A failure of a join is a failure of one of its elements. -/
theorem canFail_all
    {state : σ} (fails : CanEndIn (.error error) (all completions state).1) :
    ∃ completion ∈ completions, CanEndIn (.error error) completion := by
  induction completions generalizing state with
  | nil => cases fails
  | cons first rest ih =>
      match first with
      | .ready (.error error') =>
          rw [all] at fails
          obtain rfl : error = error' := by simpa using fails
          exact ⟨_, List.mem_cons_self, .ready⟩
      | .ready (.ok value) =>
          rw [all] at fails
          rcases ih (canFail_map fails) with ⟨completion, member, fails⟩
          exact ⟨completion, List.mem_cons_of_mem _ member, fails⟩
      | .pending advance release =>
          rw [all] at fails
          exact canFail_together fails

end Joins

end Failures

end Completion

end Phrasebook
