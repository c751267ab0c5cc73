import Mathlib.Tactic.SplitIfs
import Phrasebook.Proofs.Completion.Echo
import Phrasebook.Proofs.Evaluation.Program
import Phrasebook.Proofs.Turns.Trace

/-!
# Tracing an evaluation

An evaluation can be traced: it is the same evaluation, with a trace alongside
the scene into which every deed is written when it is done.  Nothing else in it
depends on the trace, and it echoes the evaluation that is not traced: in every
state, at every poll and when it is given up, both do the same.
-/

namespace Phrasebook

open Trace (note)
open Program (Echoes)

/-- How a computation ended. -/
def Outcome.of : Except EngineError Settled → Outcome
  | .ok settled => if settled.isNotFound then .notFound else .found
  | .error _ => .failed

namespace Trace

variable (address : Address) (part level position : Nat)

/-- Writes down how the answer of a resolver settled. -/
def noteAnswer (result : Except EngineError Settled) : Trace → Trace :=
  note address (.answered part level position (.of result))

/-- Writes down that a part failed when its arguments did. -/
def noteFailure : Except EngineError (List Json) → Trace → Trace
  | .ok _ => id
  | .error _ => note address (.settled part .failed)

/-- Writes down how a part settled. -/
def noteSettled (result : Except EngineError Settled) : Trace → Trace :=
  note address (.settled part (.of result))

end Trace

namespace Evaluator

namespace Traced

variable (evaluator : Evaluator) (expression : Expression) (address : Address)
  (index level : Nat)

/-- An answer that is settled. -/
def settling (answer : Resolved Scene) : Program Scene Settled :=
  fun scene =>
    (answer.flatten expression evaluator.engine.config.unrestrictedAsyncValues,
      scene)

/-- Asks the resolvers of a chain, from a position on. -/
def ask (request : Request) (chain : Chain) (position : Nat) :
    Program (Scene × Trace) Settled :=
  match chain with
  | [] => .pure .notFound
  | resolver :: rest =>
    if resolver.applies request then
      .preceded (note address (.asked index level position resolver))
          fun whole =>
        match resolver.resolve request whole.1 with
        | (none, scene) =>
          (ask request rest (position + 1)).preceded
            (note address (.declined index level position))
            (scene, whole.2)
        | (some answer, scene) =>
          (((settling evaluator expression answer).alongside Trace).noting
            (Trace.noteAnswer address index level position)).bind
              (fun settled =>
                if settled.isNotFound then ask request rest (position + 1) else
                  .pure settled)
              (scene, whole.2)
    else (ask request rest (position + 1)).preceded
      (note address (.skipped index level position))

/-- Looks up a first part without namespace from a scope outwards. -/
def lookupScopes (part : Part) (arguments : List Json) (level : Nat) :
    List (Dictionary Json) → Program (Scene × Trace) Settled
  | [] =>
    .preceded (note address (.searched index level)) fun whole =>
      let found := if part.isMethod then none else whole.1.data.get? part.name
      let computed := if part.isMethod then none
        else whole.1.data.cell? part.name
      match found, computed with
      | some value, _ => Program.pure (.value value) whole
      | none, some cell =>
        Program.alongside Trace (evaluator.lookupComputed expression cell) whole
      | none, none =>
        ask evaluator expression address index level
          (evaluator.request part arguments .null true)
          evaluator.engine.resolvers 0 whole
  | bindings :: outer =>
    .preceded (note address (.searched index level))
      (match if part.isMethod then none else bindings.get? part.name with
      | some value => .pure (.value value)
      | none =>
        (ask evaluator expression address index level
          (evaluator.request part arguments (.object bindings) true)
          evaluator.engine.resolvers 0).bind fun settled =>
            if settled.isNotFound then lookupScopes part arguments
              (level + 1) outer else .pure settled)

/-- Resolves a part whose arguments are evaluated. -/
def resolvePart (scopes : List (Dictionary Json)) (part : Part)
    (arguments : List Json) (base : Option Json) :
    Program (Scene × Trace) Settled :=
  match base, expression.qualifier with
  | none, none =>
    lookupScopes evaluator expression address index part arguments 0 scopes
  | none, some qualifier =>
    .preceded (note address (.searched index 0))
      (match evaluator.engine.namespaces.get? qualifier with
      | none => Program.alongside Trace fun scene =>
        (failed (.namespaceUnresolved qualifier) expression, scene)
      | some chain =>
        ask evaluator expression address index 0
          (evaluator.request part arguments .null true) chain 0)
  | some base, _ =>
    .preceded (note address (.searched index 0))
      (ask evaluator expression address index 0
        (evaluator.request part arguments base false)
        evaluator.engine.resolvers 0)

variable (scopes : List (Dictionary Json))

mutual

/-- Evaluates an expression at an address. -/
def evaluate (address : Address) : Expression → Program (Scene × Trace) Settled
  | .mk qualifier parts constant origin =>
    match (Expression.mk qualifier parts constant origin).literalValue? with
    | some value => .pure (.value value)
    | none =>
      evaluateParts address (.mk qualifier parts constant origin) none 0 parts

/-- Evaluates the parts of an expression from an index on. -/
def evaluateParts
    (address : Address) (expression : Expression) (base : Option Json)
    (index : Nat) :
    List Part → Program (Scene × Trace) Settled
  | [] => .pure .notFound
  | part :: rest =>
    ((Program.joinEach (argumentPrograms address index part)).noting
      (Trace.noteFailure address index)).bind
      fun values =>
        ((resolvePart evaluator expression address index scopes part values
          base).noting
          (Trace.noteSettled address index)).bind fun settled =>
            if settled.isNotFound || rest.isEmpty then .pure settled
            else evaluateParts address expression (some settled.toValue)
              (index + 1) rest

/-- The programs of the arguments of a part. -/
def argumentPrograms (address : Address) (index : Nat) :
    Part → List (Program (Scene × Trace) Json)
  | .property _ => []
  | .method _ arguments => evaluateAll address index 0 arguments

/-- The programs of some arguments of a part, from a number on. -/
def evaluateAll (address : Address) (index argument : Nat) :
    List Expression → List (Program (Scene × Trace) Json)
  | [] => []
  | expression :: rest =>
    .preceded (note address (.started index argument))
      ((evaluate (address ++ [(index, argument)]) expression).map
        Settled.toValue) ::
        evaluateAll address index (argument + 1) rest

end

variable {evaluator expression address index level scopes}

/-- Asking a chain with a trace is asking the chain. -/
theorem ask_echoes (request : Request) (chain : Chain) (position : Nat) :
    Echoes (ask evaluator expression address index level request chain position)
      (evaluator.ask expression request chain) := by
  induction chain generalizing position with
  | nil => exact .pure Settled.notFound
  | cons resolver rest ih =>
      unfold ask
      split_ifs with applies
      · refine Echoes.preceded _ ?_
        rintro ⟨scene, trace⟩ ⟨_, trace'⟩ ⟨⟩
        have asked : evaluator.ask expression request (resolver :: rest) scene =
            match resolver.resolve request scene with
            | (none, scene) => evaluator.ask expression request rest scene
            | (some answer, scene) =>
              ((settling evaluator expression answer).bind fun settled scene =>
                if settled.isNotFound
                  then evaluator.ask expression request rest scene
                else Program.pure settled scene) scene := by
          rw [Evaluator.ask, if_pos applies]
          rfl
        rw [Program.alongside, asked]
        dsimp only
        generalize resolver.resolve request scene = said
        rcases said with ⟨_ | answer, after⟩
        · exact (ih (position + 1)).preceded _ (after, _) (after, _) rfl
        · refine ((Program.echoes_alongside _).noting _).bind (fun settled =>
            ?_) (after, _) (after, _) rfl
          split_ifs
          · exact ih (position + 1)
          · exact .pure settled
      · have passed : evaluator.ask expression request (resolver :: rest) =
            evaluator.ask expression request rest := by
          funext scene
          rw [Evaluator.ask, if_neg applies]
        rw [passed]
        exact (ih (position + 1)).preceded _

/-- Looking up with a trace is looking up. -/
theorem lookupScopes_echoes (part : Part) (arguments : List Json) (level : Nat)
    (scopes : List (Dictionary Json)) :
    Echoes
      (lookupScopes evaluator expression address index part arguments
        level scopes)
      (evaluator.lookupScopes expression part arguments scopes) := by
  induction scopes generalizing level with
  | nil =>
      unfold lookupScopes
      refine Echoes.preceded _ ?_
      rintro ⟨scene, trace⟩ ⟨_, trace'⟩ ⟨⟩
      rw [Program.alongside, Evaluator.lookupScopes]
      dsimp only
      generalize (if part.isMethod then none else scene.data.get? part.name) =
        found
      generalize (if part.isMethod then none else scene.data.cell? part.name) =
        computed
      cases found with
      | some value =>
          exact Echoes.pure (Settled.value value) (scene, _) (scene, _) rfl
      | none =>
          cases computed with
          | some cell =>
              exact Program.echoes_alongside
                (evaluator.lookupComputed expression cell) (scene, _)
                (scene, _) rfl
          | none => exact ask_echoes _ _ 0 (scene, _) (scene, _) rfl
  | cons bindings outer ih =>
      unfold lookupScopes
      refine Echoes.preceded _ ?_
      cases absent :
          (if part.isMethod then none else bindings.get? part.name) with
      | some value =>
          have here : evaluator.lookupScopes expression part arguments
              (bindings :: outer) =
              Program.pure (.value value) := by
            funext scene
            rw [Evaluator.lookupScopes, absent]
            rfl
          rw [here]
          exact .pure _
      | none =>
          rw [lookupScopes_cons absent]
          refine (ask_echoes _ _ _).bind fun settled => ?_
          split_ifs
          · exact ih (level + 1)
          · exact .pure settled

theorem resolvePart_echoes
    (part : Part) (arguments : List Json) (base : Option Json) :
    Echoes
      (resolvePart evaluator expression address index scopes part
        arguments base)
      (evaluator.resolvePart scopes expression part arguments base) := by
  unfold resolvePart Evaluator.resolvePart Evaluator.resolveFirst
  cases base with
  | some base => exact (ask_echoes _ _ _).preceded _
  | none =>
      cases expression.qualifier with
      | none => exact lookupScopes_echoes part arguments 0 scopes
      | some qualifier =>
          refine Echoes.preceded _ ?_
          dsimp only
          cases evaluator.engine.namespaces.get? qualifier with
          | none => exact Program.echoes_alongside _
          | some chain => exact ask_echoes _ _ _

mutual

/-- Tracing an evaluation changes nothing in it. -/
theorem evaluate_echoes (address : Address) (expression : Expression) :
    Echoes (evaluate evaluator scopes address expression)
      (evaluator.evaluate scopes expression) := by
  match expression with
  | .mk qualifier parts constant origin =>
      rw [evaluate]
      cases literal :
          (Expression.mk qualifier parts constant origin).literalValue? with
      | some value =>
          rw [evaluate_literal literal]
          exact .pure (Settled.value value)
      | none =>
          rw [evaluate_path literal]
          exact evaluateParts_echoes address _ none 0 parts

/-- Evaluating parts with a trace is evaluating them. -/
theorem evaluateParts_echoes
    (address : Address) (expression : Expression) (base : Option Json)
    (index : Nat) (parts : List Part) :
    Echoes (evaluateParts evaluator scopes address expression base index parts)
      (evaluator.evaluateParts scopes expression base parts) := by
  match parts with
  | [] =>
      rw [evaluateParts, evaluateParts_nil]
      exact .pure Settled.notFound
  | part :: rest =>
      rw [evaluateParts, evaluateParts_cons]
      refine ((Echoes.joinEach
        (argumentPrograms_echo address index part)).noting _).bind fun values =>
        ?_
      refine ((resolvePart_echoes part values base).noting _).bind
        fun settled => ?_
      unfold goOn
      split_ifs
      · exact .pure settled
      · exact evaluateParts_echoes address expression _ (index + 1) rest

theorem argumentPrograms_echo (address : Address) (index : Nat) (part : Part) :
    List.Forall₂ Echoes (argumentPrograms evaluator scopes address index part)
      (evaluator.argumentPrograms scopes part.arguments) := by
  match part with
  | .property _ =>
      rw [argumentPrograms]
      exact .nil
  | .method _ arguments =>
      rw [argumentPrograms]
      exact evaluateAll_echo address index 0 arguments

theorem evaluateAll_echo
    (address : Address) (index argument : Nat) (expressions : List Expression) :
    List.Forall₂ Echoes
      (evaluateAll evaluator scopes address index argument expressions)
      (evaluator.argumentPrograms scopes expressions) := by
  match expressions with
  | [] =>
      rw [evaluateAll]
      exact .nil
  | expression :: rest =>
      rw [evaluateAll]
      exact .cons (((evaluate_echoes _ expression).map _).preceded _)
        (evaluateAll_echo address index _ rest)

end

end Traced

end Evaluator

end Phrasebook
