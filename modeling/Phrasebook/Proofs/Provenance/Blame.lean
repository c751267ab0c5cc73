import Phrasebook.Proofs.Completion.Ends
import Phrasebook.Proofs.Completion.InStep
import Phrasebook.Proofs.ComputedBinding

/-!
# Evaluating with reasons

An evaluator that *blames* does what the evaluator does, step for step, and
fails with a reason instead of an error: which expression failed, what it asked
and in which scene, and in which scenes the answer was polled. The reason is
made where the failure is met, and everything that the evaluation is put
together from hands it on.

Computations that blame are compared with those that do not: they explain them
when both run in step, every reason tells the error, and what is blamed is so.
-/

namespace Phrasebook

open Completion (CanEndIn InStep StartInStep ResultsAgree canEndIn_ready)

/-- What an evaluation asks, and in which scene: a resolver, or the supplier of
a cell that a lookup has found in an earlier scene. -/
inductive Question where
  | resolver (resolver : Resolver) (request : Request) (scene : Scene)
  | supplier (cell : Cell) (call : Nat) (found scene : Scene)

/-- Why a run fails: the namespace of an expression is unregistered, the answer
to a question about a part of an expression has failed in some polls, or the
results of a render cannot be written. -/
inductive Blame where
  | unregistered (expression : Expression) (qualifier : String)
  | answered (expression : Expression) (question : Question)
      (polls : List Scene) (error : EngineError)
  | unwritten (results : List ResultNode) (state : EngineState)
      (error : ResolutionError)

/-- The error that a run ends in which fails for a reason. -/
def Blame.error : Blame → EngineError
  | .unregistered expression qualifier =>
    .render (.of (.namespaceUnresolved qualifier) expression)
  | .answered _ _ _ error => error
  | .unwritten _ _ error => .render error

/-- A run that fails for the reason ends in the error. -/
def Blame.Tells (blame : Blame) (error : EngineError) : Prop :=
  blame.error = error

/-- A completion that succeeds with a value or fails for a reason. -/
abbrev Reasoned (σ α : Type) := Completion σ (Except Blame α)

/-- A failure gets its reason, which tells in which states it was polled for. -/
def Completion.blaming
    {σ α : Type} (blame : List σ → EngineError → Blame)
    (completion : Evaluation σ α) : Reasoned σ α :=
  (completion.recording []).mapResult fun recorded =>
    recorded.1.mapError (blame recorded.2)

namespace Evaluator

namespace Blaming

variable (evaluator : Evaluator)

/-- Takes the handles off the answer to a question about an expression. -/
def settling
    (expression : Expression) (question : Question) (answer : Resolved Scene) :
    Reasoned Scene Settled :=
  (answer.flatten expression
    evaluator.engine.config.unrestrictedAsyncValues).blaming
    (Blame.answered expression question)

/-- Calls the supplier of a cell that was found in a scene. -/
def runSupplier (expression : Expression) (found : Scene) (cell : Cell)
    (ticket : Nat) (scene : Scene) :
    Reasoned Scene Settled × Scene :=
  let called := scene.noteCall cell
  let question :=
    Question.supplier cell (called.data.memo cell).calls found called
  let answer := (evaluator.callSupplier cell scene).1
  let polled :=
    (settling evaluator expression question answer).poll
      (evaluator.callSupplier cell scene).2
  polled.1.ending
    (fun result scene =>
      match result with
      | .ok settled => scene.updateMemo cell (Memo.keep settled)
      | .error _ => scene.updateMemo cell (Memo.leave ticket))
    (Scene.updateMemo cell (Memo.leave ticket)) polled.2

/-- A lookup that waits in line. -/
def waiting
    (expression : Expression) (found : Scene) (cell : Cell) (ticket : Nat) :
    Reasoned Scene Settled :=
  .pending (fun scene =>
    match (scene.data.memo cell).value with
    | some settled => .advanced (.ready (.ok settled)) scene
    | none =>
      if (scene.data.memo cell).mayRun ticket then
        let ran := runSupplier evaluator expression found cell ticket scene
        .advanced ran.1 ran.2
      else .blocked)
    (Scene.updateMemo cell (Memo.leave ticket))

/-- Looks up a computed binding in the cell found for it. -/
def lookupComputed (expression : Expression) (cell : Cell) (scene : Scene) :
    Reasoned Scene Settled × Scene :=
  match (scene.data.memo cell).value with
  | some settled => (.ready (.ok settled), scene)
  | none =>
    let ticket := scene.nextTicket cell
    let joined := scene.joinLine cell
    if (joined.data.memo cell).mayRun ticket
      then runSupplier evaluator expression scene cell ticket joined
    else (waiting evaluator expression scene cell ticket, joined)

/-- Asks the resolvers of a chain in turn. -/
def ask (expression : Expression) (request : Request) (chain : Chain)
    (scene : Scene) :
    Reasoned Scene Settled × Scene :=
  match chain with
  | [] => (.ready (.ok .notFound), scene)
  | resolver :: rest =>
    if resolver.applies request then
      match resolver.resolve request scene with
      | (none, after) => ask expression request rest after
      | (some answer, after) =>
        (settling evaluator expression (.resolver resolver request scene)
          answer).andThen
          (fun settled scene =>
            if settled.isNotFound then ask expression request rest scene
            else (.ready (.ok settled), scene)) after
    else ask expression request rest scene

/-- Looks up a first part without namespace from a scope outwards. -/
def lookupScopes (expression : Expression) (part : Part) (arguments : List Json)
    (scopes : List (Dictionary Json)) (scene : Scene) :
    Reasoned Scene Settled × Scene :=
  match scopes with
  | [] =>
    let found := if part.isMethod then none else scene.data.get? part.name
    let computed := if part.isMethod then none else scene.data.cell? part.name
    match found, computed with
    | some value, _ => (.ready (.ok (.value value)), scene)
    | none, some cell => lookupComputed evaluator expression cell scene
    | none, none =>
      ask evaluator expression (evaluator.request part arguments .null true)
        evaluator.engine.resolvers scene
  | bindings :: outer =>
    let found := if part.isMethod then none else bindings.get? part.name
    match found with
    | some value => (.ready (.ok (.value value)), scene)
    | none =>
      let asked :=
        ask evaluator expression
          (evaluator.request part arguments (.object bindings) true)
          evaluator.engine.resolvers scene
      asked.1.andThen (fun settled scene =>
        if settled.isNotFound
          then lookupScopes expression part arguments outer scene
        else (.ready (.ok settled), scene)) asked.2

/-- Resolves a part whose arguments are evaluated. -/
def resolvePart
    (scopes : List (Dictionary Json)) (expression : Expression) (part : Part)
    (arguments : List Json) (base : Option Json) (scene : Scene) :
    Reasoned Scene Settled × Scene :=
  match base, expression.qualifier with
  | some base, _ =>
    ask evaluator expression (evaluator.request part arguments base false)
      evaluator.engine.resolvers scene
  | none, none => lookupScopes evaluator expression part arguments scopes scene
  | none, some qualifier =>
    match evaluator.engine.namespaces.get? qualifier with
    | none => (.ready (.error (.unregistered expression qualifier)), scene)
    | some chain =>
      ask evaluator expression (evaluator.request part arguments .null true)
        chain scene

mutual

/-- Evaluates an expression in a stack of scopes. -/
def evaluate (scopes : List (Dictionary Json)) (expression : Expression)
    (scene : Scene) :
    Reasoned Scene Settled × Scene :=
  match expression with
  | .mk qualifier parts constant origin =>
    match (Expression.mk qualifier parts constant origin).literalValue? with
    | some value => (.ready (.ok (.value value)), scene)
    | none =>
      evaluateParts scopes (.mk qualifier parts constant origin) none
        parts scene

/-- Evaluates the remaining parts of an expression against a base. -/
def evaluateParts (scopes : List (Dictionary Json)) (expression : Expression)
    (base : Option Json)
    (parts : List Part) (scene : Scene) : Reasoned Scene Settled × Scene :=
  match parts with
  | [] => (.ready (.ok .notFound), scene)
  | part :: rest =>
    let started := startArguments scopes part scene
    let arguments := Completion.all started.1 started.2
    arguments.1.andThen (fun values scene =>
      let resolved :=
        resolvePart evaluator scopes expression part values base scene
      resolved.1.andThen (fun settled scene =>
        if settled.isNotFound || rest.isEmpty then (.ready (.ok settled), scene)
        else evaluateParts scopes expression (some settled.toValue) rest scene)
        resolved.2) arguments.2

def startArguments
    (scopes : List (Dictionary Json)) (part : Part) (scene : Scene) :
    List (Reasoned Scene Json) × Scene :=
  match part with
  | .property _ => ([], scene)
  | .method _ arguments => startAll scopes arguments scene

def startAll (scopes : List (Dictionary Json)) (expressions : List Expression)
    (scene : Scene) :
    List (Reasoned Scene Json) × Scene :=
  match expressions with
  | [] => ([], scene)
  | expression :: rest =>
    let first := evaluate scopes expression scene
    let others := startAll scopes rest first.2
    (first.1.map Settled.toValue :: others.1, others.2)

end

end Blaming

end Evaluator

/-- Giving reasons changes nothing but the failures, which the reasons tell. -/
theorem Completion.blaming_inStep
    {σ α : Type} {blame : List σ → EngineError → Blame}
    (same : ∀ polls error, (blame polls error).error = error)
    (completion : Evaluation σ α) :
    InStep Eq (ResultsAgree Blame.Tells Eq)
      (completion.blaming blame) completion := by
  suffices recorded : ∀ seen, InStep Eq (ResultsAgree Blame.Tells Eq)
      ((completion.recording seen).mapResult fun recorded =>
        recorded.1.mapError (blame recorded.2))
      completion from recorded []
  induction completion using Completion.ind with
  | ready result =>
      intro seen
      rw [recording, mapResult]
      cases result with
      | error error => exact .ready (.error (same seen error))
      | ok value => exact .ready (.ok rfl)
  | pending advance release ih =>
      intro seen
      rw [recording, mapResult]
      constructor
      · rintro state _ rfl
        cases polled : advance state with
        | blocked => exact .blocked
        | advanced next after =>
            exact .advanced rfl (ih state next after polled _)
      · rintro state _ rfl
        rfl

/-- Completions in step are so after the same polls. -/
theorem Completion.InStep.polledAt
    {σ ρ ρ' : Type} {results : ρ → ρ' → Prop} {completion : Completion σ ρ}
    {completion' : Completion σ ρ'}
    (inStep : InStep Eq results completion completion') (polls : List σ) :
    InStep Eq results (completion.polledAt polls)
      (completion'.polledAt polls) := by
  induction polls generalizing completion completion' with
  | nil => exact inStep
  | cons state rest ih => exact ih (inStep.poll rfl).completions

/-- A computation that blames does what another one does, and blames what is
so. -/
structure Explains
    {σ α : Type} (holds : Blame → Prop) (blaming : Reasoned σ α × σ)
    (plain : Evaluation σ α × σ) :
    Prop where
  inStep : StartInStep Eq (ResultsAgree Blame.Tells Eq) blaming plain
  justified : ∀ blame, CanEndIn (.error blame) blaming.1 → holds blame

namespace Explains

variable {σ α β : Type} {holds holds' : Blame → Prop}

theorem value (value : α) (state : σ) :
    Explains holds (.ready (.ok value), state) (.ready (.ok value), state) where
  inStep := ⟨.ready (.ok rfl), rfl⟩
  justified := fun _ fails => nomatch fails

/-- A failure is explained by the reason that tells it. -/
theorem failure {blame : Blame} (is : holds blame) (state : σ) :
    Explains (α := α) holds (.ready (.error blame), state)
      (.ready (.error blame.error), state) where
  inStep := ⟨.ready (.error rfl), rfl⟩
  justified := by
    intro blame' fails
    rw [canEndIn_ready, Except.error.injEq] at fails
    rwa [fails]

/-- What is blamed for something is blamed for whatever follows from it. -/
theorem mono
    {blaming : Reasoned σ α × σ} {plain : Evaluation σ α × σ}
    (explains : Explains holds blaming plain)
    (implies : ∀ blame, holds blame → holds' blame) :
    Explains holds' blaming plain where
  inStep := explains.inStep
  justified := fun blame fails => implies blame (explains.justified blame fails)

theorem map
    {blaming : Reasoned σ α × σ} {plain : Evaluation σ α × σ} (f : α → β)
    (explains : Explains holds blaming plain) :
    Explains holds (blaming.1.map f, blaming.2) (plain.1.map f, plain.2) where
  inStep :=
    ⟨explains.inStep.completions.map fun _ _ => congrArg f,
      explains.inStep.states⟩
  justified := fun blame fails =>
    explains.justified blame (Completion.canFail_map fails)

/-- A chain is explained when its first computation is, and all that can
follow. -/
theorem andThen
    {blaming : Reasoned σ α × σ} {plain : Evaluation σ α × σ}
    {next : α → σ → Reasoned σ β × σ} {next' : α → σ → Evaluation σ β × σ}
    (explains : Explains holds blaming plain)
    (continues : ∀ value state,
      Explains holds (next value state) (next' value state)) :
    Explains holds (blaming.1.andThen next blaming.2)
      (plain.1.andThen next' plain.2) where
  inStep := by
    refine explains.inStep.andThen ?_
    rintro value _ rfl state _ rfl
    exact (continues value state).inStep
  justified := by
    intro blame fails
    rcases Completion.canFail_andThen fails with fails | ⟨value, state, fails⟩
    · exact explains.justified blame fails
    · exact (continues value state).justified blame fails

/-- The first poll of what has been started. -/
theorem poll {blaming : Reasoned σ α × σ} {plain : Evaluation σ α × σ}
    (explains : Explains holds blaming plain) :
    Explains holds (blaming.1.poll blaming.2) (plain.1.poll plain.2) where
  inStep := explains.inStep.completions.poll explains.inStep.states
  justified := fun blame fails => explains.justified blame fails.of_poll

/-- Polls lead to an error when they lead to a reason that tells it. -/
theorem polledAt_iff
    {blaming : Reasoned σ α × σ} {plain : Evaluation σ α × σ}
    (explains : Explains holds blaming plain)
    (polls : List σ) (error : EngineError) :
    plain.1.polledAt polls = .ready (.error error) ↔
      ∃ blame, blaming.1.polledAt polls = .ready (.error blame) ∧
        blame.error = error := by
  have polled := explains.inStep.completions.polledAt polls
  constructor
  · intro ended
    rw [ended] at polled
    generalize blaming.1.polledAt polls = reached at polled
    cases polled with
    | ready agree =>
        cases agree with
        | error tells => exact ⟨_, rfl, tells⟩
  · rintro ⟨blame, ended, rfl⟩
    rw [ended] at polled
    generalize plain.1.polledAt polls = reached at polled
    cases polled with
    | ready agree =>
        cases agree with
        | error tells => rw [← tells]

/-- Completions that blame, started one after the other. -/
structure All
    (holds : Blame → Prop) (blaming : List (Reasoned σ α) × σ)
    (plain : List (Evaluation σ α) × σ) :
    Prop where
  inStep : List.Forall₂ (InStep Eq (ResultsAgree Blame.Tells Eq))
    blaming.1 plain.1
  states : blaming.2 = plain.2
  justified : ∀ completion ∈ blaming.1, ∀ blame,
    CanEndIn (.error blame) completion → holds blame

theorem All.nil (state : σ) : All (α := α) holds ([], state) ([], state) :=
  ⟨.nil, rfl, nofun⟩

theorem All.cons
    {blaming : Reasoned σ α × σ} {plain : Evaluation σ α × σ}
    {others : List (Reasoned σ α) × σ} {others' : List (Evaluation σ α) × σ}
    (first : Explains holds blaming plain) (rest : All holds others others') :
    All holds (blaming.1 :: others.1, others.2) (plain.1 :: others'.1,
      others'.2) where
  inStep := .cons first.inStep.completions rest.inStep
  states := rest.states
  justified := List.forall_mem_cons.mpr ⟨first.justified, rest.justified⟩

theorem All.mono
    {blaming : List (Reasoned σ α) × σ} {plain : List (Evaluation σ α) × σ}
    (all : All holds blaming plain)
    (implies : ∀ blame, holds blame → holds' blame) :
    All holds' blaming plain where
  inStep := all.inStep
  states := all.states
  justified := fun completion member blame fails =>
    implies blame (all.justified completion member blame fails)

/-- A join is explained when its elements are. -/
theorem All.join
    {blaming : List (Reasoned σ α) × σ} {plain : List (Evaluation σ α) × σ}
    (all : All holds blaming plain) :
    Explains holds (Completion.all blaming.1 blaming.2)
      (Completion.all plain.1 plain.2) where
  inStep := by
    have joined := Completion.all_inStep all.inStep all.states
    refine ⟨joined.completions.mono ?_, joined.states⟩
    rintro _ _ (agree | ⟨agree, -⟩)
    · exact .error agree
    · exact .ok (List.forall₂_eq_eq_eq ▸ agree)
  justified := by
    intro blame fails
    rcases Completion.canFail_all fails with ⟨completion, member, fails⟩
    exact all.justified completion member blame fails

end Explains

end Phrasebook
