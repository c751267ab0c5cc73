import Mathlib.Data.List.Forall2
import Phrasebook.Proofs.Joining.Task

/-!
# Schedules

A join does not have to poll its elements in rounds.  A completion *drives* a
list of completions when each of its polls polls some of them any number of
times, in whatever order, and it ends with all of their values in their order
once every one of them has its value, or with the failure of one that has
failed.

Such a completion succeeds exactly when every element does, whatever the order
is that they end in, and with one value for each.  Rounds are one such schedule.
-/

namespace Phrasebook

namespace Completion

variable {σ ρ ε α β : Type}

/-- What a completion comes to when it is polled any number of times, whatever
the state is then. -/
inductive Polled : Completion σ ρ → Completion σ ρ → Prop
  | refl (completion : Completion σ ρ) : Polled completion completion
  | poll {completion next : Completion σ ρ} (polled : Polled completion next)
      (state : σ) :
    Polled completion (next.poll state).1

theorem Polled.of_poll (completion : Completion σ ρ) (state : σ) :
    Polled completion (completion.poll state).1 :=
  .poll (.refl completion) state

/-- A completion that has been polled yields what it yielded before. -/
theorem Polled.yields
    {expected : ρ → Prop} {completion next : Completion σ ρ}
    (polled : Polled completion next) (yields : completion.Yields expected) :
    next.Yields expected := by
  induction polled with
  | refl => exact yields
  | poll _ state ih => exact ih.poll state

theorem forall₂_polled_refl (slots : List (Completion σ ρ)) :
    List.Forall₂ Polled slots slots :=
  List.forall₂_same.mpr fun slot _ => .refl slot

mutual

/-- The completion drives the completions in `slots`, and keeps the order of
their values. -/
def Drives (slots : List (Completion σ (Except ε α))) :
    Completion σ (Except ε (List α)) → Prop
  | .ready (.ok values) => slots = values.map fun value => .ready (.ok value)
  | .ready (.error error) => .ready (.error error) ∈ slots
  | .pending advance _ => ∀ state, PollDrives slots (advance state)

/-- A poll polled some of the slots, and what it led to drives what they came
to. -/
def PollDrives (slots : List (Completion σ (Except ε α))) :
    Poll σ (Except ε (List α)) → Prop
  | .blocked => False
  | .advanced next _ => ∃ slots', List.Forall₂ Polled slots slots' ∧
      Drives slots' next

end

/-- A join drives the slots through a poll: each is polled or left alone. -/
theorem Drives.poll
    {slots : List (Completion σ (Except ε α))}
    {joined : Completion σ (Except ε (List α))}
    (drives : joined.Drives slots) (state : σ) :
    ∃ slots', List.Forall₂ Polled slots slots' ∧
      (joined.poll state).1.Drives slots' := by
  cases joined with
  | ready result => exact ⟨slots, forall₂_polled_refl slots, drives⟩
  | pending advance release =>
      have reached := drives state
      simp only [Completion.poll]
      cases poll : advance state with
      | blocked =>
          rw [poll] at reached
          exact reached.elim
      | advanced next after =>
          rw [poll] at reached
          exact reached

/-- A value that is there in front of the others goes in front of their
values. -/
theorem Drives.cons_value
    {slots : List (Completion σ (Except ε α))}
    {joined : Completion σ (Except ε (List α))}
    (drives : joined.Drives slots) (value : α) :
    (joined.map (value :: ·)).Drives (.ready (.ok value) :: slots) := by
  induction joined using Completion.ind generalizing slots with
  | ready result =>
      rw [map_ready]
      cases result with
      | ok values => exact congrArg (Completion.ready (.ok value) :: ·) drives
      | error error => exact List.mem_cons_of_mem _ drives
  | pending advance release ih =>
      rw [map, mapResult]
      intro state
      have reached := drives state
      cases poll : advance state with
      | blocked =>
          rw [poll] at reached
          exact reached.elim
      | advanced next after =>
          rw [poll] at reached
          obtain ⟨slots', polled, drives'⟩ := reached
          simp only [poll, mapPoll]
          exact ⟨.ready (.ok value) :: slots', .cons (.refl _) polled,
            ih state next after poll drives'⟩

/-- What the slots of a schedule end in. -/
abbrev AllYield
    (results : List (Except ε α)) (slots : List (Completion σ (Except ε α))) :
    Prop :=
  List.Forall₂ (fun result slot => slot.Yields (· = result)) results slots

theorem AllYield.polled
    {results : List (Except ε α)}
    {slots slots' : List (Completion σ (Except ε α))}
    (yields : AllYield results slots)
    (polled : List.Forall₂ Polled slots slots') :
    AllYield results slots' := by
  induction yields generalizing slots' with
  | nil =>
      cases polled
      exact .nil
  | cons first _ ih =>
      cases polled with
      | cons polled rest => exact .cons (polled.yields first) (ih rest)

theorem AllYield.eq_of_values
    {results : List (Except ε α)} {values : List α}
    (yields : AllYield results (values.map fun value =>
      (.ready (.ok value) : Completion σ _))) :
    results = values.map .ok := by
  induction values generalizing results with
  | nil =>
      cases yields
      rfl
  | cons value values ih =>
      cases yields with
      | cons first rest =>
          cases first
          rw [List.map_cons, ← ih rest]

/-- A slot that has failed yields its failure. -/
theorem AllYield.error_mem
    {results : List (Except ε α)} {slots : List (Completion σ (Except ε α))}
    {error : ε}
    (yields : AllYield results slots) (failed : .ready (.error error) ∈ slots) :
    .error error ∈ results := by
  induction yields with
  | nil => cases failed
  | cons first _ ih =>
      cases failed with
      | head =>
          cases first
          exact .head _
      | tail _ failed => exact .tail _ (ih failed)

/-- A completion that drives others succeeds exactly when all of them do, with
their values in their order. -/
theorem Drives.yields
    {slots : List (Completion σ (Except ε α))}
    {joined : Completion σ (Except ε (List α))} (drives : joined.Drives slots)
    {results : List (Except ε α)} (yields : AllYield results slots) :
    joined.Yields fun result => ∀ values, result = .ok values ↔
      results = values.map .ok := by
  induction joined using Completion.ind generalizing slots with
  | ready result =>
      intro values
      cases result with
      | ok values' =>
          cases drives
          have injective : Function.Injective (Except.ok : α → Except ε α) :=
            fun _ _ => Except.ok.inj
          rw [yields.eq_of_values, Except.ok.injEq,
            (List.map_injective_iff.mpr injective).eq_iff]
      | error error =>
          refine iff_of_false nofun fun succeeds => ?_
          have member := yields.error_mem drives
          rw [succeeds] at member
          simp at member
  | pending advance release ih =>
      intro state
      have reached := drives state
      cases poll : advance state with
      | blocked =>
          rw [poll] at reached
          exact reached.elim
      | advanced next after =>
          rw [poll] at reached
          obtain ⟨slots', polled, drives'⟩ := reached
          exact ih state next after poll drives' (yields.polled polled)

/-- Two completions that are driven together drive what they stand for: the
first one itself, and the second one its slots. -/
theorem drives_both
    {slots : List (Completion σ (Except ε α))}
    {first : Completion σ (Except ε α)}
    {second : Completion σ (Except ε (List α))} {task : Task ε α}
    (run : task.RunBy first) (drives : second.Drives slots) :
    (both List.cons first second).Drives (first :: slots) := by
  obtain ⟨polls, result⟩ := task
  induction polls generalizing first second slots with
  | zero =>
      rw [endsAfter_zero_iff.mp run, both.eq_def]
      cases result with
      | ok value => exact drives.cons_value value
      | error error =>
          exact fun state => ⟨_, forall₂_polled_refl _, List.mem_cons_self⟩
  | succ polls ih =>
      obtain ⟨advance, release, rfl⟩ := run.pending
      obtain ⟨release', equal⟩ := both_pending List.cons advance release second
      rw [equal]
      intro state
      have polled := Polled.of_poll (pending advance release) state
      obtain ⟨slots', polled', drives'⟩ :=
        drives.poll (poll (.pending advance release) state).2
      cases met : ((pending advance release).poll state).1.failure? with
      | some error =>
          rw [round_of_first_failed met]
          refine ⟨_, .cons polled (forall₂_polled_refl slots), ?_⟩
          rw [failure?_eq_some.mp met]
          exact List.mem_cons_self
      | none =>
          cases met' :
              (second.poll
                  (poll (.pending advance release) state).2).1.failure? with
          | some error =>
              rw [round_of_second_failed met met']
              refine ⟨_, .cons polled polled', ?_⟩
              rw [failure?_eq_some.mp met'] at drives'
              exact List.mem_cons_of_mem _ drives'
          | none =>
              rw [round_of_none_failed met met', run.not_rests state,
                Bool.false_and]
              exact ⟨_, .cons polled polled', ih drives' (run.poll state)⟩

/-- Rounds are a schedule. -/
theorem drives_together
    {completions : List (Completion σ (Except ε α))}
    (run : ∀ completion ∈ completions, ∃ task : Task ε α,
      task.RunBy completion) :
    (together completions).Drives completions := by
  induction completions with
  | nil => exact rfl
  | cons first rest ih =>
      obtain ⟨task, runs⟩ := run first List.mem_cons_self
      exact drives_both runs (ih fun completion member =>
        run completion (List.mem_cons_of_mem _ member))

end Completion

end Phrasebook
