import Phrasebook.Proofs.Completion.Alongside
import Phrasebook.Proofs.Completion.InStep

/-!
# Programs that write a record

A program may write a record of what it does, at its start or at its end.  It
*echoes* a program that knows nothing of the record when it does everything else
in step with it: it starts, waits, moves, gives up and ends as the other one
does, whatever is in the record.  Echoes are put together as the programs are.
-/

namespace Phrasebook

namespace Completion

variable {σ κ ρ : Type} {states : σ → σ → Prop} {results : ρ → ρ → Prop}
  {completion completion' : Completion σ ρ}
  {state state' : σ}

/-- Effects at the end of the first of two completions in step that nobody else
sees. -/
theorem InStep.ending_left
    {onEnd : ρ → σ → σ} {onRelease : σ → σ}
    (ends : ∀ result state state', states state state' →
      states (onEnd result state) state')
    (leaves : ∀ state state', states state state' →
      states (onRelease state) state')
    (inStep : InStep states results completion completion')
    (related : states state state') :
    StartInStep states results (completion.ending onEnd onRelease state)
      (completion', state') := by
  induction inStep using InStep.ind generalizing state state' with
  | ready result result' agree =>
      rw [Completion.ending]
      exact ⟨.ready agree, ends result _ _ related⟩
  | pending advance advance' release release' polls releases _ =>
      rw [Completion.ending]
      refine ⟨.pending (fun state state' related => ?_)
        (fun state state' related =>
          leaves _ _ (releases state state' related)), related⟩
      have agree := polls state state' related
      revert agree
      generalize advance state = poll, advance' state' = poll'
      rintro (_ | ⟨moved, -, ended⟩)
      · exact .blocked
      · have later := ended moved
        exact .advanced later.states later.completions

/-- The same state, whatever is in the record. -/
def SameState (whole whole' : σ × κ) : Prop :=
  whole.1 = whole'.1

/-- Alongside any two records a completion runs in step with itself. -/
theorem inStep_alongside
    (same : ∀ result, results result result) (completion : Completion σ ρ) :
    InStep SameState results (completion.alongside κ)
      (completion.alongside κ) := by
  induction completion using Completion.ind with
  | ready result =>
      rw [alongside_ready]
      exact .ready (same result)
  | pending advance release ih =>
      rw [alongside_pending]
      constructor
      · rintro ⟨state, record⟩ ⟨_, record'⟩ ⟨⟩
        dsimp only
        cases polled : advance state with
        | blocked => exact .blocked
        | advanced next after =>
            exact .advanced rfl (ih state next after polled)
      · rintro ⟨state, record⟩ ⟨_, record'⟩ ⟨⟩
        rfl

end Completion

open Completion (InStep StartInStep ResultsAgree SameState Joined)

namespace Program

variable {σ κ α β : Type}

/-- A program that writes the record before it starts. -/
def preceded (write : κ → κ) (program : Program (σ × κ) α) :
    Program (σ × κ) α :=
  fun whole => program (whole.1, write whole.2)

/-- A program that writes the record when it has ended. -/
def noting
    (write : Except EngineError α → κ → κ) (program : Program (σ × κ) α) :
    Program (σ × κ) α :=
  fun whole =>
    (program whole).1.ending (fun result whole =>
      (whole.1, write result whole.2)) id (program whole).2

/-- A program does what another one does that knows nothing of the record. -/
def Echoes (program : Program (σ × κ) α) (plain : Program σ α) : Prop :=
  ∀ whole whole', SameState whole whole' →
    StartInStep SameState (ResultsAgree Eq Eq) (program whole)
      (plain.alongside κ whole')

theorem same_results (result : Except EngineError α) :
    ResultsAgree Eq Eq result result := by
  cases result with
  | error error => exact .error rfl
  | ok value => exact .ok rfl

theorem echoes_alongside
    (plain : Program σ α) : Echoes (plain.alongside κ) plain := by
  rintro ⟨state, record⟩ ⟨_, record'⟩ ⟨⟩
  exact ⟨Completion.inStep_alongside same_results _, rfl⟩

namespace Echoes

variable {program : Program (σ × κ) α} {plain : Program σ α}

/-- A value echoes itself. -/
theorem pure
    (value : α) : Echoes (.pure value : Program (σ × κ) α) (.pure value) := by
  intro whole whole' same
  simp only [Program.alongside, Program.pure, Completion.startedAlongside,
    Completion.alongside_ready]
  exact ⟨.ready (.ok rfl), same⟩

/-- Programs in sequence echo when each of them does. -/
theorem bind
    {next : α → Program (σ × κ) β} {next' : α → Program σ β}
    (echoes : Echoes program plain)
    (continues : ∀ value, Echoes (next value) (next' value)) :
    Echoes (program.bind next) (plain.bind next') := by
  rw [Echoes, ← bind_alongside]
  intro whole whole' same
  refine (echoes whole whole' same).andThen ?_
  rintro value _ rfl
  exact continues value

/-- Mapping preserves an echo. -/
theorem map (f : α → β) (echoes : Echoes program plain) :
    Echoes (program.map f) (plain.map f) := by
  rw [Echoes, ← map_alongside]
  intro whole whole' same
  have started := echoes whole whole' same
  refine ⟨started.completions.map ?_, started.states⟩
  rintro value _ rfl
  rfl

theorem preceded (write : κ → κ) (echoes : Echoes program plain) :
    Echoes (program.preceded write) plain :=
  fun _ _ same => echoes _ _ same

theorem noting
    (write : Except EngineError α → κ → κ) (echoes : Echoes program plain) :
    Echoes (program.noting write) plain := by
  intro whole whole' same
  have started := echoes whole whole' same
  exact started.completions.ending_left (fun _ _ _ same => same)
    (fun _ _ same => same) started.states

variable {programs : List (Program (σ × κ) α)} {plains : List (Program σ α)}

theorem startEach
    (echo : List.Forall₂ Echoes programs plains) (whole whole' : σ × κ)
    (same : SameState whole whole') :
    List.Forall₂ (InStep SameState (ResultsAgree Eq Eq))
      (Program.startEach programs whole).1
        (Program.startEach (plains.map (Program.alongside κ)) whole').1 ∧
      SameState (Program.startEach programs whole).2
        (Program.startEach (plains.map (Program.alongside κ)) whole').2 := by
  induction echo generalizing whole whole' with
  | nil => exact ⟨.nil, same⟩
  | cons first _ ih =>
      have started := first whole whole' same
      have others := ih _ _ started.states
      exact ⟨.cons started.completions others.1, others.2⟩

/-- Programs that are joined echo when each of them does. -/
theorem joinEach (echo : List.Forall₂ Echoes programs plains) :
    Echoes (Program.joinEach programs) (Program.joinEach plains) := by
  rw [Echoes, ← joinEach_alongside]
  intro whole whole' same
  rcases startEach echo whole whole' same with ⟨inStep, same'⟩
  have joined := Completion.all_inStep inStep same'
  refine ⟨joined.completions.mono ?_, joined.states⟩
  rintro _ _ (failure | ⟨values, -⟩)
  · exact .error failure
  · exact .ok (List.forall₂_eq_eq_eq ▸ values)

end Echoes

/-- A program is started and then polled, while something else changes the state
before each poll. -/
def polled (program : Program σ α) (changes : List (σ → σ)) (state : σ) :
    Evaluation σ α × σ :=
  changes.foldl (fun started change => started.1.poll (change started.2))
    (program state)

/-- A change that leaves the record as it is. -/
def changing (change : σ → σ) (whole : σ × κ) : σ × κ :=
  (change whole.1, whole.2)

/-- Whatever happens between the polls, an echo is as far as the program that it
echoes. -/
theorem Echoes.polled
    {program : Program (σ × κ) α} {plain : Program σ α}
    (echoes : Echoes program plain) (changes : List (σ → σ)) (whole : σ × κ) :
    StartInStep SameState (ResultsAgree Eq Eq)
      (program.polled (changes.map changing) whole)
      (Completion.startedAlongside (plain.polled changes whole.1) whole.2) := by
  have goesOn : ∀ (started : Evaluation (σ × κ) α × (σ × κ))
      (plainly : Evaluation σ α × σ),
      StartInStep SameState (ResultsAgree Eq Eq) started
        (Completion.startedAlongside plainly whole.2) →
        StartInStep SameState (ResultsAgree Eq Eq)
          ((changes.map changing).foldl (fun started change =>
            started.1.poll (change started.2)) started)
          (Completion.startedAlongside
            (changes.foldl (fun started change =>
              started.1.poll (change started.2)) plainly) whole.2) := by
    induction changes with
    | nil => exact fun _ _ inStep => inStep
    | cons change rest ih =>
        intro started plainly inStep
        rw [List.map_cons, List.foldl_cons, List.foldl_cons]
        refine ih _ _ ?_
        rw [← Completion.poll_alongside]
        refine inStep.completions.poll ?_
        exact congrArg change inStep.states
  exact goesOn _ _ (echoes whole whole rfl)

section Observing

variable {completion : Evaluation (σ × κ) α} {plain : Evaluation σ α}
  (inStep : InStep SameState (ResultsAgree Eq Eq) completion
    (plain.alongside κ))

include inStep

/-- What echoes has its result when the plain one does. -/
theorem result?_of_echo : completion.result? = plain.result? := by
  cases plain with
  | ready result =>
      rw [Completion.alongside_ready] at inStep
      rcases inStep with ⟨rfl | rfl⟩ <;> rfl
  | pending advance release =>
      rw [Completion.alongside_pending] at inStep
      cases inStep
      rfl

theorem abandon_of_echo
    (whole : σ × κ) : (completion.abandon whole).1 = plain.abandon whole.1 := by
  have same : SameState whole whole := rfl
  have left := inStep.abandon same
  rw [SameState, Completion.abandon_alongside plain whole.1 whole.2] at left
  exact left

end Observing

end Program

end Phrasebook
