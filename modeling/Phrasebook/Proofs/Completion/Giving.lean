import Mathlib.Data.List.Forall2
import Phrasebook.Proofs.Completion.Drive
import Phrasebook.Proofs.Completion.Round

/-!
# Completions that give a result

A completion *gives* a result while the state shows something, when polls at
states that show it are never blocked, lead to such states again, and end in the
result.  Less is asked than that no poll is ever blocked: at other states the
completion may do whatever it likes.

What is put together from completions that give their results gives the result
of the whole, and driving it leads to that result.
-/

namespace Phrasebook

namespace Completion

variable {σ τ ρ ω ε α β γ : Type}

mutual

/-- While the state shows something, a completion moves on with each poll, and
ends in a result. -/
def Gives (view : σ → τ) (shown : τ) (result : ρ) : Completion σ ρ → Prop
  | .ready found => found = result
  | .pending advance _ => ∀ state, view state = shown →
      PollGives view shown result (advance state)

/-- A poll has moved on. -/
def PollGives (view : σ → τ) (shown : τ) (result : ρ) : Poll σ ρ → Prop
  | .blocked => False
  | .advanced next after => view after = shown ∧ Gives view shown result next

end

/-- A computation has led to a state that shows the same, and to a completion
that gives a result. -/
structure StartGives
    (view : σ → τ) (shown : τ) (result : ρ) (started : Completion σ ρ × σ) :
    Prop where
  kept : view started.2 = shown
  gives : started.1.Gives view shown result

variable {view : σ → τ} {shown : τ} {result : ρ} {completion : Completion σ ρ}
  {state : σ}

/-- A completion that gives a result still gives it after a poll. -/
theorem Gives.poll
    (gives : completion.Gives view shown result) (shows : view state = shown) :
    StartGives view shown result (completion.poll state) := by
  cases completion with
  | ready found => exact ⟨shows, gives⟩
  | pending advance release =>
      have reached := gives state shows
      rw [Completion.poll]
      cases polled : advance state with
      | blocked =>
          rw [polled] at reached
          exact reached.elim
      | advanced next after =>
          rw [polled] at reached
          exact ⟨reached.1, reached.2⟩

/-- A completion that is never blocked, keeps what is shown, and can only end in
one result. -/
theorem gives_of_yields
    (keeps : completion.Keeps view) (yields : completion.Yields (· = result))
    (shown : τ) :
    completion.Gives view shown result := by
  induction completion using Completion.ind with
  | ready found => exact yields
  | pending advance release ih =>
      intro state shows
      have kept := keeps.1 state
      have expected := yields state
      cases polled : advance state with
      | blocked =>
          rw [polled] at expected
          exact expected.elim
      | advanced next after =>
          rw [polled] at kept expected
          exact ⟨kept.1.trans shows, ih state next after polled kept.2 expected⟩

theorem Gives.mapResult
    (f : ρ → ω) (gives : completion.Gives view shown result) :
    (completion.mapResult f).Gives view shown (f result) := by
  induction completion using Completion.ind with
  | ready found =>
      rw [Completion.mapResult]
      exact congrArg f gives
  | pending advance release ih =>
      rw [Completion.mapResult]
      intro state shows
      have reached := gives state shows
      dsimp only
      cases polled : advance state with
      | blocked =>
          rw [polled] at reached
          exact reached.elim
      | advanced next after =>
          rw [polled] at reached
          exact ⟨reached.1, ih state next after polled reached.2⟩

/-- Driving such a completion ends in its result, at a state that shows the
same. -/
theorem Gives.drive
    (gives : completion.Gives view shown result) (shows : view state = shown) :
    ∃ after, completion.drive state = (some result, after) ∧
      view after = shown := by
  induction completion using Completion.ind generalizing state with
  | ready found =>
      rcases gives with rfl
      exact ⟨state, drive_ready _ _, shows⟩
  | pending advance release ih =>
      have reached := gives state shows
      rw [drive_pending]
      cases polled : advance state with
      | blocked =>
          rw [polled] at reached
          exact reached.elim
      | advanced next after =>
          rw [polled] at reached
          rw [drivePoll_advanced]
          exact ih state next after polled reached.2 reached.1

section Chains

variable {completion : Completion σ (Except ε α)} {value : α}

theorem Gives.map
    (f : α → β) (gives : completion.Gives view shown (.ok value)) :
    (completion.map f).Gives view shown (.ok (f value)) :=
  gives.mapResult (Except.map f)

variable {next : α → σ → Completion σ (Except ε β) × σ} {result : Except ε β}
  (goesOn : ∀ state, view state = shown →
    StartGives view shown result (next value state))

include goesOn

theorem Gives.resume (gives : completion.Gives view shown (.ok value))
    (shows : view state = shown) :
    StartGives view shown result (completion.resume next state) := by
  induction completion using Completion.ind generalizing state with
  | ready found =>
      rcases gives with rfl
      rw [Completion.resume]
      exact (goesOn state shows).gives.poll (goesOn state shows).kept
  | pending advance release ih =>
      rw [Completion.resume]
      refine ⟨shows, fun state shows => ?_⟩
      have reached := gives state shows
      dsimp only
      cases polled : advance state with
      | blocked =>
          rw [polled] at reached
          exact reached.elim
      | advanced later after =>
          rw [polled] at reached
          have resumed := ih state later after polled reached.2 reached.1
          exact ⟨resumed.kept, resumed.gives⟩

/-- A chain gives the result of what follows the value that is given first. -/
theorem StartGives.andThen
    {started : Completion σ (Except ε α) × σ}
    (starts : StartGives view shown (.ok value) started) :
    StartGives view shown result (started.1.andThen next started.2) := by
  rcases started with ⟨completion, state⟩
  rcases starts with ⟨shows, gives⟩
  match completion with
  | .ready (.ok found) =>
      obtain rfl : found = value := by simpa [Gives] using gives
      exact goesOn state shows
  | .ready (.error error) => exact gives.resume goesOn shows
  | .pending advance release => exact gives.resume goesOn shows

end Chains

section Joins

variable {combine : α → β → γ} {first : Completion σ (Except ε α)}
  {second : Completion σ (Except ε β)}
  {value : α} {other : β}

theorem Gives.met
    {completion : Completion σ (Except ε α)}
    (gives : completion.Gives view shown (.ok value)) :
    completion.failure? = none := by
  match completion with
  | .ready (.ok _) => rfl
  | .ready (.error _) => simp [Gives] at gives
  | .pending _ _ => rfl

/-- Two completions that give values give both when they are driven together. -/
theorem Gives.both
    (gives : first.Gives view shown (.ok value))
    (gives' : second.Gives view shown (.ok other)) :
    (both combine first second).Gives view shown
      (.ok (combine value other)) := by
  induction first, second using ind_rounds with
  | ready result second =>
      rcases gives with rfl
      rw [Completion.both]
      exact gives'.map (combine value)
  | pending advance release second ih =>
      rcases both_pending combine advance release second with ⟨release', rounds⟩
      rw [rounds]
      intro state shows
      have polled := gives.poll shows
      have polled' := gives'.poll polled.kept
      have moved : rests state (.pending advance release) = false := by
        have reached := gives state shows
        cases advanced : advance state with
        | blocked =>
            rw [advanced] at reached
            exact reached.elim
        | advanced next after => simp [rests, advanced]
      rw [round_of_none_failed polled.gives.met polled'.gives.met, moved]
      exact ⟨polled'.kept,
        ih state polled'.gives.met (by rw [moved]; rfl) polled.gives
          polled'.gives⟩

variable {values : List α} {completions : List (Completion σ (Except ε α))}

/-- Completions that give a value each. -/
def AllGive
    (view : σ → τ) (shown : τ) (values : List α)
    (completions : List (Completion σ (Except ε α))) :
    Prop :=
  List.Forall₂ (fun value completion => completion.Gives view shown (.ok value))
    values completions

/-- Completions that give values give all of them when they are driven
together. -/
theorem AllGive.together (allGive : AllGive view shown values completions) :
    (together completions).Gives view shown (.ok values) := by
  induction allGive with
  | nil =>
      rw [Completion.together]
      rfl
  | cons gives _ ih =>
      rw [Completion.together]
      exact gives.both ih

/-- A join gives the values that its elements give. -/
theorem AllGive.all (allGive : AllGive view shown values completions)
    (shows : view state = shown) :
    StartGives view shown (.ok values) (all completions state) := by
  induction allGive with
  | nil =>
      rw [Completion.all]
      exact ⟨shows, rfl⟩
  | @cons value completion values completions gives rest ih =>
      cases completion with
      | ready result =>
          cases result with
          | ok found =>
              obtain rfl : found = value := by simpa [Gives] using gives
              rw [Completion.all]
              exact ⟨ih.kept, ih.gives.map (found :: ·)⟩
          | error error => simp [Gives] at gives
      | pending advance release =>
          rw [Completion.all]
          exact ⟨shows, AllGive.together (.cons gives rest)⟩

end Joins

end Completion

end Phrasebook
