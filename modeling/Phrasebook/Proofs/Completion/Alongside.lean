import Phrasebook.Proofs.Completion.Conduct
import Phrasebook.Proofs.Completion.Program
import Phrasebook.Proofs.Completion.Round

/-!
# Computations with a record alongside

A computation can be run with a record alongside its state, which it neither
reads nor writes.  This commutes with every operation on completions and on
programs, joins included.
-/

namespace Phrasebook

namespace Completion

variable {σ κ ρ ω ε α β γ : Type}

/-- The same completion with a record alongside its state. -/
def alongside (κ : Type) (completion : Completion σ ρ) : Completion (σ × κ) ρ :=
  completion.within Prod.fst fun state whole => (state, whole.2)

/-- The same poll with a record alongside its state. -/
def alongsidePoll (poll : Poll σ ρ) (record : κ) : Poll (σ × κ) ρ :=
  match poll with
  | .blocked => .blocked
  | .advanced next state => .advanced (next.alongside κ) (state, record)

@[simp]
theorem alongsidePoll_blocked
    (record : κ) : alongsidePoll (.blocked : Poll σ ρ) record = .blocked :=
  rfl

@[simp]
theorem alongsidePoll_advanced
    (next : Completion σ ρ) (state : σ) (record : κ) :
    alongsidePoll (.advanced next state) record =
      .advanced (next.alongside κ) (state, record) :=
  rfl

/-- What has been started, with a record alongside its state. -/
def startedAlongside (started : Completion σ ρ × σ) (record : κ) :
    Completion (σ × κ) ρ × (σ × κ) :=
  (started.1.alongside κ, (started.2, record))

@[simp]
theorem alongside_ready (result : ρ) :
    (Completion.ready result : Completion σ ρ).alongside κ = .ready result := by
  rw [alongside, within]

theorem alongside_pending (advance : σ → Poll σ ρ) (release : σ → σ) :
    (Completion.pending advance release).alongside κ =
      .pending (fun whole => alongsidePoll (advance whole.1) whole.2)
        fun whole => (release whole.1, whole.2) := by
  rw [alongside, within]
  congr 1
  funext whole
  cases advance whole.1 <;> rw [withinPoll] <;> rfl

/-- A poll alongside a record is a poll that leaves the record alone. -/
theorem poll_alongside (completion : Completion σ ρ) (state : σ) (record : κ) :
    (completion.alongside κ).poll (state, record) =
      startedAlongside (completion.poll state) record := by
  cases completion with
  | ready result =>
      rw [alongside_ready, poll_ready, poll_ready, startedAlongside,
        alongside_ready]
  | pending advance release =>
      rw [alongside_pending, Completion.poll, Completion.poll]
      cases polled : advance state with
      | blocked =>
          rw [startedAlongside, alongside_pending]
          rfl
      | advanced next after => rfl

/-- Abandoning alongside a record leaves the record alone. -/
theorem abandon_alongside
    (completion : Completion σ ρ) (state : σ) (record : κ) :
    (completion.alongside κ).abandon (state, record) =
      (completion.abandon state, record) := by
  cases completion with
  | ready result =>
      rw [alongside_ready]
      rfl
  | pending advance release =>
      rw [alongside_pending]
      rfl

theorem abandon_alongside_eq (completion : Completion σ ρ) :
    (completion.alongside κ).abandon = fun whole =>
      (completion.abandon whole.1, whole.2) :=
  funext fun whole => abandon_alongside completion whole.1 whole.2

/-- Mapping a result and running alongside a record can be exchanged. -/
theorem mapResult_alongside (f : ρ → ω) (completion : Completion σ ρ) :
    (completion.alongside κ).mapResult f =
      (completion.mapResult f).alongside κ := by
  induction completion using Completion.ind with
  | ready result => rw [alongside_ready, mapResult, mapResult, alongside_ready]
  | pending advance release ih =>
      rw [alongside_pending, mapResult, mapResult, alongside_pending]
      congr 1
      funext whole
      cases polled : advance whole.1 with
      | blocked => rfl
      | advanced next after =>
          simp only [alongsidePoll_advanced, mapPoll, ih _ next after polled]

section Chains

variable {completion : Completion σ (Except ε α)}

theorem map_alongside (f : α → β) (completion : Completion σ (Except ε α)) :
    (completion.alongside κ).map f = (completion.map f).alongside κ :=
  mapResult_alongside _ completion

/-- A continuation with a record alongside. -/
def nextAlongside (κ : Type) (next : α → σ → Completion σ (Except ε β) × σ)
    (value : α) (whole : σ × κ) :
    Completion (σ × κ) (Except ε β) × (σ × κ) :=
  startedAlongside (next value whole.1) whole.2

variable (next : α → σ → Completion σ (Except ε β) × σ)

/-- What follows a completion runs alongside the same record. -/
theorem resume_alongside
    (completion : Completion σ (Except ε α)) (state : σ) (record : κ) :
    (completion.alongside κ).resume (nextAlongside κ next) (state, record) =
      startedAlongside (completion.resume next state) record := by
  induction completion using Completion.ind generalizing state record with
  | ready result =>
      rw [alongside_ready]
      cases result with
      | error error => rw [resume, resume, startedAlongside, alongside_ready]
      | ok value =>
          rw [resume, resume]
          exact poll_alongside _ _ record
  | pending advance release ih =>
      rw [alongside_pending, resume, resume, startedAlongside,
        alongside_pending]
      congr 2
      funext whole
      cases polled : advance whole.1 with
      | blocked => rfl
      | advanced later after =>
          simp only [alongsidePoll_advanced, resumePoll,
            ih _ later after polled after whole.2]
          rfl

/-- A chain of two computations runs alongside a record when both of them do. -/
theorem andThen_alongside
    (completion : Completion σ (Except ε α)) (state : σ) (record : κ) :
    (completion.alongside κ).andThen (nextAlongside κ next) (state, record) =
      startedAlongside (completion.andThen next state) record := by
  have resumed := resume_alongside next completion state record
  match completion with
  | .ready (.ok value) =>
      rw [alongside_ready]
      rfl
  | .ready (.error error) =>
      rw [alongside_ready] at resumed ⊢
      exact resumed
  | .pending advance release =>
      rw [alongside_pending] at resumed ⊢
      exact resumed

end Chains

section Joins

variable {combine : α → β → γ}

/-- What a poll of a first completion led to, with a record alongside. -/
def LeadsAlongside
    (lead : Lead σ ε β γ) (record : κ) (lead' : Lead (σ × κ) ε β γ) : Prop :=
  match lead with
  | .blocked => lead' = .blocked
  | .failed error state => lead' = .failed error (state, record)
  | .moved rejoin release state =>
    ∃ rejoin', lead' =
      .moved rejoin' (fun whole => (release whole.1, whole.2)) (state, record) ∧
      ∀ second : Completion σ (Except ε β), rejoin' (second.alongside κ) =
        (rejoin second).alongside κ

/-- The end of a round with a record alongside. -/
theorem endRound_alongside
    {rejoin : Completion σ (Except ε β) → Completion σ (Except ε γ)}
    {rejoin' : Completion (σ × κ) (Except ε β) →
      Completion (σ × κ) (Except ε γ)}
    (rejoins : ∀ second, rejoin' (second.alongside κ) =
      (rejoin second).alongside κ) (release : σ → σ)
    (second : Completion σ (Except ε β)) (state : σ) (record : κ)
    (poll : Poll σ (Except ε β)) :
    endRound rejoin' (fun whole => (release whole.1, whole.2))
      (second.alongside κ) (state, record)
        (alongsidePoll poll record) =
      alongsidePoll (endRound rejoin release second state poll) record := by
  cases poll with
  | blocked => simp [endRound, rejoins]
  | advanced next after =>
      have rejoined := rejoins next
      rcases next with (error | value) | ⟨advance, release'⟩
      · simp [endRound]
      · simp_all [endRound]
      · simp_all [endRound, alongside_pending]

/-- A poll of the second completion, while the first one is blocked, with a
record alongside. -/
theorem behindPoll_alongside
    {lead : σ → Lead σ ε β γ} {lead' : σ × κ → Lead (σ × κ) ε β γ}
    {release : σ → σ} {poll : Poll σ (Except ε β)}
    (behinds : ∀ next after, poll = .advanced next after →
      behind lead' (fun whole => (release whole.1, whole.2))
        (next.alongside κ) =
        (behind lead release next).alongside κ)
    (record : κ) :
    behindPoll lead' (fun whole => (release whole.1, whole.2))
      (alongsidePoll poll record) =
      alongsidePoll (behindPoll lead release poll) record := by
  cases poll with
  | blocked => simp [behindPoll]
  | advanced next after =>
      have behind := behinds next after rfl
      rcases next with (error | value) | ⟨advance, release'⟩
      · simp [behindPoll]
      · simp_all [behindPoll]
      · simp_all [behindPoll, alongside_pending]

/-- The second of two completions runs alongside the record of the first one. -/
theorem behind_alongside
    {lead : σ → Lead σ ε β γ} {lead' : σ × κ → Lead (σ × κ) ε β γ}
    (release : σ → σ)
    (leads : ∀ whole, LeadsAlongside (lead whole.1) whole.2 (lead' whole))
    (second : Completion σ (Except ε β)) :
    behind lead' (fun whole => (release whole.1, whole.2))
      (second.alongside κ) =
      (behind lead release second).alongside κ := by
  induction second using Completion.ind with
  | ready result =>
      rw [alongside_ready]
      cases result with
      | error error =>
          rw [behind, behind, alongside_pending]
          congr 1
          funext whole
          have led := leads whole
          revert led
          generalize lead whole.1 = one, lead' whole = one'
          cases one with
          | blocked => rintro rfl; simp
          | failed error state => rintro rfl; simp
          | moved rejoin release state => rintro ⟨_, rfl, _⟩; simp
      | ok value =>
          rw [behind, behind, alongside_pending]
          congr 1
          funext whole
          have led := leads whole
          revert led
          generalize lead whole.1 = one, lead' whole = one'
          cases one with
          | blocked => rintro rfl; rfl
          | failed error state => rintro rfl; simp
          | moved rejoin release state =>
              rintro ⟨rejoin', rfl, rejoins⟩
              have rejoined := rejoins (.ready (.ok value))
              rw [alongside_ready] at rejoined
              simp [rejoined]
  | pending advance release' ih =>
      rw [alongside_pending, behind_pending, behind_pending, alongside_pending]
      congr 1
      funext whole
      have led := leads whole
      revert led
      generalize lead whole.1 = one, lead' whole = one'
      cases one with
      | blocked =>
          rintro rfl
          exact behindPoll_alongside (ih whole.1) whole.2
      | failed error state =>
          rintro rfl
          simp
      | moved rejoin release state =>
          rintro ⟨rejoin', rfl, rejoins⟩
          have ended :=
            endRound_alongside rejoins release (.pending advance release') state
              whole.2 (advance state)
          rw [alongside_pending] at ended
          exact ended

/-- Two completions are joined alongside one record. -/
theorem both_alongside
    (combine : α → β → γ) (first : Completion σ (Except ε α))
    (second : Completion σ (Except ε β)) :
    both combine (first.alongside κ) (second.alongside κ) =
      (both combine first second).alongside κ := by
  induction first using Completion.ind generalizing second with
  | ready result =>
      rw [alongside_ready]
      cases result with
      | ok value =>
          rw [both, both]
          exact map_alongside _ second
      | error error =>
          rw [both, both]
          unfold failing
          dsimp only
          rw [alongside_pending, abandon_alongside_eq]
          simp only [alongsidePoll_advanced, alongside_ready]
  | pending advance release ih =>
      rw [alongside_pending, both, both]
      refine behind_alongside release (fun whole => ?_) second
      cases polled : advance whole.1 with
      | blocked => rfl
      | advanced next after =>
          have rejoins := ih _ next after polled
          have released := abandon_alongside_eq (κ := κ) next
          rcases next with (error | value) | ⟨advance, release⟩
          · simp [leadOf, LeadsAlongside]
          · rw [alongside_ready] at rejoins released
            simp only [alongsidePoll_advanced, alongside_ready, leadOf,
              LeadsAlongside]
            exact ⟨_, by rw [released], rejoins⟩
          · rw [alongside_pending] at rejoins released
            simp only [alongsidePoll_advanced, alongside_pending, leadOf,
              LeadsAlongside]
            exact ⟨_, by rw [released], rejoins⟩

variable (completions : List (Completion σ (Except ε α)))

/-- A list of completions is joined alongside one record. -/
theorem together_alongside :
    together (completions.map (alongside κ)) =
      (together completions).alongside κ := by
  induction completions with
  | nil =>
      rw [List.map_nil, together, together, alongside_ready]
  | cons first rest ih =>
      rw [List.map_cons, together, together, ih]
      exact both_alongside _ first _

theorem abandonAll_alongside (state : σ) (record : κ) :
    abandonAll (completions.map (alongside κ)) (state, record) =
      (abandonAll completions state, record) := by
  induction completions generalizing state with
  | nil => rfl
  | cons first rest ih =>
      rw [List.map_cons, abandonAll, List.foldl_cons, abandon_alongside]
      exact ih _

/-- What is joined alongside a record is the join alongside it. -/
theorem all_alongside (state : σ) (record : κ) :
    all (completions.map (alongside κ)) (state, record) =
      startedAlongside (all completions state) record := by
  induction completions with
  | nil =>
      rw [List.map_nil, all, all, startedAlongside, alongside_ready]
  | cons first rest ih =>
      cases first with
      | ready result =>
          cases result with
          | ok value =>
              rw [List.map_cons, alongside_ready, all, all, ih]
              dsimp only [startedAlongside]
              rw [map_alongside]
          | error error =>
              rw [List.map_cons, alongside_ready, all, all,
                abandonAll_alongside, startedAlongside, alongside_ready]
      | pending advance release =>
          have joined :=
            together_alongside (κ := κ) (.pending advance release :: rest)
          rw [List.map_cons, alongside_pending] at joined ⊢
          rw [all, all, joined]
          rfl

end Joins

end Completion

namespace Program

variable {σ κ α β : Type}

/-- The same program with a record alongside its state. -/
def alongside (κ : Type) (program : Program σ α) : Program (σ × κ) α :=
  fun whole => Completion.startedAlongside (program whole.1) whole.2

/-- Programs in sequence run alongside one record. -/
theorem bind_alongside (program : Program σ α) (next : α → Program σ β) :
    (program.alongside κ).bind (fun value => (next value).alongside κ) =
      (program.bind next).alongside κ := by
  funext whole
  exact Completion.andThen_alongside next (program whole.1).1
    (program whole.1).2 whole.2

theorem map_alongside (f : α → β) (program : Program σ α) :
    (program.alongside κ).map f = (program.map f).alongside κ := by
  funext whole
  exact congrArg (·, _) (Completion.map_alongside f _)

/-- Programs that are started one after the other run alongside one record. -/
theorem startEach_alongside
    (programs : List (Program σ α)) (state : σ) (record : κ) :
    startEach (programs.map (alongside κ)) (state, record) =
      ((startEach programs state).1.map (Completion.alongside κ),
        ((startEach programs state).2, record)) := by
  induction programs generalizing state with
  | nil => rfl
  | cons program rest ih =>
      rw [List.map_cons, startEach, startEach]
      dsimp only [alongside, Completion.startedAlongside]
      rw [ih, List.map_cons]

theorem joinEach_alongside (programs : List (Program σ α)) :
    joinEach (programs.map (alongside κ)) =
      (joinEach programs).alongside κ := by
  funext whole
  rw [joinEach, startEach_alongside]
  exact Completion.all_alongside _ _ _

end Program

end Phrasebook
