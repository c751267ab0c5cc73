import Phrasebook.Proofs.Completion.Conduct
import Phrasebook.Proofs.Completion.Drive
import Phrasebook.Proofs.Completion.Round

/-!
# Keeping a view

A completion that keeps a view of the state goes on keeping it under every
operation on completions, joins included, when whatever runs in between keeps
it.  Hence a computation made of such operations keeps the view from its start
on.
-/

namespace Phrasebook

namespace Completion

variable {σ τ ρ ω ε α β γ : Type}

/-- A computation has led from a state to a completion, and all that it did and
will do keeps the view. -/
structure StartKeeps
    (view : σ → τ) (before : σ) (started : Completion σ ρ × σ) : Prop where
  kept : view started.2 = view before
  keeps : started.1.Keeps view

variable {view : σ → τ} {before : σ} {completion : Completion σ ρ}

theorem startKeeps_ready (result : ρ) (state : σ) :
    StartKeeps view state (.ready result, state) :=
  ⟨rfl, trivial⟩

/-- What keeps the view after a state that has kept it keeps it from before. -/
theorem StartKeeps.after
    {state : σ} {started : Completion σ ρ × σ}
    (starts : StartKeeps view state started) (kept : view state = view before) :
    StartKeeps view before started :=
  ⟨starts.kept.trans kept, starts.keeps⟩

theorem StartKeeps.poll
    {started : Completion σ ρ × σ} (starts : StartKeeps view before started) :
    StartKeeps view before (started.1.poll started.2) := by
  rcases starts.keeps.poll started.2 with ⟨kept, keeps⟩
  exact ⟨kept.trans starts.kept, keeps⟩

/-- Abandoning a completion keeps the view. -/
theorem Keeps.abandon (keeps : completion.Keeps view) (state : σ) :
    view (completion.abandon state) = view state := by
  cases completion with
  | ready result => rfl
  | pending advance release => exact keeps.2 state

/-- Driving a completion keeps the view, whatever it comes to. -/
theorem Keeps.drive (keeps : completion.Keeps view) (state : σ) :
    view (completion.drive state).2 = view state := by
  induction completion using Completion.ind generalizing state with
  | ready result => rw [drive_ready]
  | pending advance release ih =>
      have reached := keeps.1 state
      rw [drive_pending]
      cases polled : advance state with
      | blocked => rw [drivePoll_blocked]
      | advanced next after =>
          rw [polled] at reached
          rw [drivePoll_advanced]
          exact (ih state next after polled reached.2 after).trans reached.1

theorem StartKeeps.driven
    {started : Completion σ ρ × σ} (starts : StartKeeps view before started) :
    view (driven started).2 = view before :=
  (starts.keeps.drive started.2).trans starts.kept

theorem Keeps.mapResult (f : ρ → ω) (keeps : completion.Keeps view) :
    (completion.mapResult f).Keeps view := by
  induction completion using Completion.ind with
  | ready result => trivial
  | pending advance release ih =>
      rw [Completion.mapResult]
      refine ⟨fun state => ?_, keeps.2⟩
      have reached := keeps.1 state
      dsimp only
      cases poll : advance state with
      | blocked => exact trivial
      | advanced next after =>
          rw [poll] at reached
          exact ⟨reached.1, ih state next after poll reached.2⟩

/-- Effects at the end, and when it is given up, that keep the view. -/
theorem Keeps.ending
    {onEnd : ρ → σ → σ} {onRelease : σ → σ}
    (ends : ∀ result state, view (onEnd result state) = view state)
    (leaves : ∀ state, view (onRelease state) = view state)
    (keeps : completion.Keeps view) (state : σ) :
    StartKeeps view state (completion.ending onEnd onRelease state) := by
  induction completion using Completion.ind generalizing state with
  | ready result => exact ⟨ends result state, trivial⟩
  | pending advance release ih =>
      rw [Completion.ending]
      refine ⟨rfl, fun state => ?_, fun state =>
        (leaves _).trans (keeps.2 state)⟩
      have reached := keeps.1 state
      dsimp only
      cases poll : advance state with
      | blocked => exact trivial
      | advanced next after =>
          rw [poll] at reached
          have ended :=
            (ih state next after poll reached.2 after).after reached.1
          exact ⟨ended.kept, ended.keeps⟩

section Chains

variable {completion : Completion σ (Except ε α)}
  {next : α → σ → Completion σ (Except ε β) × σ}
  (continues : ∀ value state, StartKeeps view state (next value state))

theorem Keeps.map (f : α → β) (keeps : completion.Keeps view) :
    (completion.map f).Keeps view :=
  keeps.mapResult _

include continues

theorem Keeps.resume (keeps : completion.Keeps view) (state : σ) :
    StartKeeps view state (completion.resume next state) := by
  induction completion using Completion.ind generalizing state with
  | ready result =>
      cases result with
      | error error =>
          rw [Completion.resume]
          exact startKeeps_ready _ state
      | ok value =>
          rw [Completion.resume]
          exact (continues value state).poll
  | pending advance release ih =>
      rw [Completion.resume]
      refine ⟨rfl, fun state => ?_, keeps.2⟩
      have reached := keeps.1 state
      dsimp only
      cases poll : advance state with
      | blocked => exact trivial
      | advanced later after =>
          rw [poll] at reached
          have resumed :=
            (ih state later after poll reached.2 after).after reached.1
          exact ⟨resumed.kept, resumed.keeps⟩

/-- A chain keeps the view when its computations do. -/
theorem Keeps.andThen (keeps : completion.Keeps view) (state : σ) :
    StartKeeps view state (completion.andThen next state) := by
  match completion with
  | .ready (.ok value) => exact continues value state
  | .ready (.error _) => exact keeps.resume continues state
  | .pending _ _ => exact keeps.resume continues state

theorem StartKeeps.andThen
    {started : Completion σ (Except ε α) × σ}
    (starts : StartKeeps view before started) :
    StartKeeps view before (started.1.andThen next started.2) :=
  (starts.keeps.andThen continues started.2).after starts.kept

end Chains

section Joins

variable {combine : α → β → γ}

/-- What polling a first completion at a state led to kept the view, and going
on with a second completion that keeps it will keep it. -/
def LeadKeeps (view : σ → τ) (state : σ) : Lead σ ε β γ → Prop
  | .blocked => True
  | .failed _ after => view after = view state
  | .moved rejoin release after =>
    view after = view state ∧ (∀ state, view (release state) = view state) ∧
      ∀ second : Completion σ (Except ε β), second.Keeps view →
        (rejoin second).Keeps view

/-- The end of a round after a first completion moved. -/
theorem pollKeeps_endRound
    {rejoin : Completion σ (Except ε β) → Completion σ (Except ε γ)}
    {release : σ → σ} {second : Completion σ (Except ε β)} {state : σ}
    {poll : Poll σ (Except ε β)}
    (rejoins : ∀ second : Completion σ (Except ε β), second.Keeps view →
      (rejoin second).Keeps view)
    (releases : ∀ state, view (release state) = view state)
    (keeps : second.Keeps view) (moved : view state = view before)
    (reached : PollKeeps view state poll) :
    PollKeeps view before (endRound rejoin release second state poll) := by
  match poll with
  | .blocked => exact ⟨moved, rejoins second keeps⟩
  | .advanced (.ready (.error error)) after =>
      exact ⟨(releases after).trans (reached.1.trans moved), trivial⟩
  | .advanced (.ready (.ok value)) after =>
      exact ⟨reached.1.trans moved, rejoins _ reached.2⟩
  | .advanced (.pending _ _) after =>
      exact ⟨reached.1.trans moved, rejoins _ reached.2⟩

theorem Keeps.behind
    {lead : σ → Lead σ ε β γ} {leadRelease : σ → σ}
    (leads : ∀ state, LeadKeeps view state (lead state))
    (releases : ∀ state, view (leadRelease state) = view state)
    {second : Completion σ (Except ε β)} (keeps : second.Keeps view) :
    (Completion.behind lead leadRelease second).Keeps view := by
  induction second using Completion.ind with
  | ready result =>
      cases result with
      | error error =>
          rw [Completion.behind]
          refine ⟨fun state => ?_, releases⟩
          have led := leads state
          revert led
          dsimp only
          cases lead state with
          | blocked => exact fun _ => ⟨releases state, trivial⟩
          | failed first after => exact fun led => ⟨led, trivial⟩
          | moved rejoin release after => exact fun led =>
              ⟨(led.2.1 after).trans led.1, trivial⟩
      | ok value =>
          rw [Completion.behind]
          refine ⟨fun state => ?_, releases⟩
          have led := leads state
          revert led
          dsimp only
          cases lead state with
          | blocked => exact fun _ => trivial
          | failed first after => exact fun led => ⟨led, trivial⟩
          | moved rejoin release after => exact fun led =>
              ⟨led.1, led.2.2 _ trivial⟩
  | pending advance release ih =>
      rw [behind_pending]
      refine ⟨fun state => ?_, fun state => (keeps.2 _).trans (releases state)⟩
      have led := leads state
      revert led
      dsimp only
      cases lead state with
      | blocked =>
          intro _
          have reached := keeps.1 state
          cases poll : advance state with
          | blocked => exact trivial
          | advanced next after =>
              rw [poll] at reached
              have behind := ih state next after poll reached.2
              cases next with
              | ready result =>
                  cases result with
                  | error error =>
                      exact ⟨(releases after).trans reached.1, trivial⟩
                  | ok value => exact ⟨reached.1, behind⟩
              | pending advance release => exact ⟨reached.1, behind⟩
      | failed error after => exact fun led =>
          ⟨(keeps.2 after).trans led, trivial⟩
      | moved rejoin leadRelease after =>
          rintro ⟨moved, releases, rejoins⟩
          exact pollKeeps_endRound rejoins releases keeps moved (keeps.1 after)

/-- Driving two completions together keeps the view. -/
theorem Keeps.both
    {first : Completion σ (Except ε α)} {second : Completion σ (Except ε β)}
    (keeps : first.Keeps view) (keeps' : second.Keeps view) :
    (Completion.both combine first second).Keeps view := by
  induction first using Completion.ind generalizing second with
  | ready result =>
      cases result with
      | error error =>
          rw [Completion.both]
          exact ⟨fun state => ⟨keeps'.abandon state, trivial⟩, keeps'.abandon⟩
      | ok value =>
          rw [Completion.both]
          exact keeps'.map (combine value)
  | pending advance release ih =>
      rw [Completion.both]
      refine keeps'.behind (fun state => ?_) keeps.2
      have reached := keeps.1 state
      cases poll : advance state with
      | blocked => trivial
      | advanced next after =>
          rw [poll] at reached
          have rejoins : ∀ second : Completion σ (Except ε β),
              second.Keeps view →
              (Completion.both combine next second).Keeps view :=
            fun _ => ih state next after poll reached.2
          cases next with
          | ready result =>
              cases result with
              | error error => exact reached.1
              | ok value => exact ⟨reached.1, fun _ => rfl, rejoins⟩
          | pending _ _ => exact ⟨reached.1, reached.2.2, rejoins⟩

/-- Driving completions together keeps the view. -/
theorem keeps_together
    {completions : List (Completion σ (Except ε α))}
    (keeps : ∀ completion ∈ completions, completion.Keeps view) :
    (together completions).Keeps view := by
  induction completions with
  | nil => trivial
  | cons first rest ih =>
      rcases List.forall_mem_cons.mp keeps with ⟨own, others⟩
      exact own.both (ih others)

theorem kept_abandonAll
    {completions : List (Completion σ (Except ε α))}
    (keeps : ∀ completion ∈ completions, completion.Keeps view) (state : σ) :
    view (abandonAll completions state) = view state := by
  induction completions generalizing state with
  | nil => rfl
  | cons first rest ih =>
      rcases List.forall_mem_cons.mp keeps with ⟨own, others⟩
      exact (ih others (first.abandon state)).trans (own.abandon state)

/-- A join keeps the view when its elements do. -/
theorem all_keeps
    {completions : List (Completion σ (Except ε α))}
    (keeps : ∀ completion ∈ completions, completion.Keeps view) (state : σ) :
    StartKeeps view state (all completions state) := by
  induction completions generalizing state with
  | nil => exact startKeeps_ready _ state
  | cons first rest ih =>
      have others := (List.forall_mem_cons.mp keeps).2
      match first with
      | .ready (.ok value) =>
          rw [all]
          have joined := ih others state
          exact ⟨joined.kept, joined.keeps.map _⟩
      | .ready (.error error) =>
          rw [all]
          exact ⟨kept_abandonAll others state, trivial⟩
      | .pending advance release =>
          rw [all]
          exact ⟨rfl, keeps_together keeps⟩

end Joins

end Completion

end Phrasebook
