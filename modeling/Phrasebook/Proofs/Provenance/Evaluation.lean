import Mathlib.Logic.Relation
import Phrasebook.Proofs.Evaluation.Discipline
import Phrasebook.Proofs.Provenance.Answer
import Phrasebook.Proofs.Provenance.Blame

/-!
# Where failures of evaluations arise

An expression fails by itself when its namespace is unregistered or when an
answer to one of its parts runs into a fault.  What an evaluation is blamed for
is such a failure, of its expression or of an argument expression inside it at
any depth: the resolver or the supplier was asked about a part of this very
expression, it gave the answer, and the answer ran into the fault in the polls
that are told.
-/

namespace Phrasebook

open Completion (CanEndIn InStep StartInStep ResultsAgree)

/-- One expression is an argument of a method in another one. -/
def Expression.HasArgument (expression argument : Expression) : Prop :=
  ∃ part ∈ expression.parts, argument ∈ part.arguments

namespace Evaluator

variable (evaluator : Evaluator)

/-- An answer to a question about a part of an expression: by a resolver that is
asked about it, or by the supplier of the cell that the name of the part is
bound to. -/
inductive Answers (expression : Expression) : Question → Resolved Scene → Prop
  | resolver {part : Part} {resolver : Resolver} {answer : Resolved Scene}
      (arguments : List Json) (base : Json) (topLevel : Bool) (scene : Scene)
      (known : part ∈ expression.parts)
      (asks : evaluator.Asks expression resolver)
      (said :
        (resolver.resolve (evaluator.request part arguments base topLevel)
          scene).1 = some answer) :
      Answers expression
        (.resolver resolver (evaluator.request part arguments base topLevel)
          scene) answer
  | supplier {part : Part} {cell : Cell} (call : Nat) (found scene : Scene)
      (known : part ∈ expression.parts) (property : part.isMethod = false)
      (unqualified : expression.qualifier = none)
      (bound : found.data.cell? part.name = some cell) :
      Answers expression (.supplier cell call found scene)
        (evaluator.suppliers cell.supplier evaluator.services cell.key call
          scene).1

/-- What an expression is blamed for is so. -/
inductive Justified (expression : Expression) : Blame → Prop
  | unregistered {qualifier : String}
      (qualified : expression.qualifier = some qualifier)
      (unknown : evaluator.engine.namespaces.get? qualifier = none) :
      Justified expression (.unregistered expression qualifier)
  | answered {question : Question} {answer : Resolved Scene}
      {polls : List Scene} {fault : Fault}
      (answers : evaluator.Answers expression question answer)
      (runs : answer.RunsInto evaluator.engine.config.unrestrictedAsyncValues
        fault polls) :
      Justified expression
        (.answered expression question polls (fault.error expression))

/-- What an expression, or an argument expression inside it at any depth, is
blamed for is so. -/
def JustifiedIn (expression : Expression) (blame : Blame) : Prop :=
  ∃ inner, Relation.ReflTransGen Expression.HasArgument expression inner ∧
    evaluator.Justified inner blame

variable {evaluator} {expression : Expression}

theorem Justified.here
    {blame : Blame} (justified : evaluator.Justified expression blame) :
    evaluator.JustifiedIn expression blame :=
  ⟨expression, .refl, justified⟩

namespace Blaming

section Answers

variable {question : Question} {answer : Resolved Scene}
  (answers : evaluator.Answers expression question answer)

theorem settling_inStep :
    InStep Eq (ResultsAgree Blame.Tells Eq)
      (settling evaluator expression question answer)
      (answer.flatten expression
        evaluator.engine.config.unrestrictedAsyncValues) :=
  Completion.blaming_inStep (fun _ _ => rfl) _

include answers

/-- The polls that a failed answer is blamed with are those in which it ran into
its fault. -/
theorem justified_of_settling
    {blame : Blame}
    (fails :
      CanEndIn (.error blame) (settling evaluator expression question answer)) :
    evaluator.JustifiedIn expression blame := by
  rcases Completion.canEndIn_mapResult fails with
    ⟨⟨result, polls⟩, recorded, same⟩
  rcases Completion.polledAt_of_recording recorded with ⟨later, rfl, ended⟩
  cases result with
  | ok settled => cases same
  | error error =>
      cases same
      rcases Resolved.runsInto_of_flatten ended with ⟨fault, runs, rfl⟩
      exact (Justified.answered answers runs).here

/-- An answer is explained by the question that it answers, and by the fault
that it runs into. -/
theorem settling_explains (after : Scene) :
    Explains (evaluator.JustifiedIn expression)
      (settling evaluator expression question answer, after)
      (answer.flatten expression
        evaluator.engine.config.unrestrictedAsyncValues, after) where
  inStep := ⟨settling_inStep, rfl⟩
  justified := fun _ => justified_of_settling answers

end Answers

section Lookups

variable {part : Part} {cell : Cell} {found : Scene}
  (known : part ∈ expression.parts)
  (property : part.isMethod = false) (unqualified : expression.qualifier = none)
  (bound : found.data.cell? part.name = some cell)

include known property unqualified bound

/-- The run of a supplier is explained by the cell that has been found. -/
theorem runSupplier_explains (ticket : Nat) (scene : Scene) :
    Explains (evaluator.JustifiedIn expression)
      (runSupplier evaluator expression found cell ticket scene)
      (evaluator.runSupplier expression cell ticket scene) where
  inStep := by
    have settles := @settling_inStep evaluator expression
      (.supplier cell ((scene.noteCall cell).data.memo cell).calls found
        (scene.noteCall cell))
      (evaluator.callSupplier cell scene).1
    have polled :=
      settles.poll (rfl : (evaluator.callSupplier cell scene).2 = _)
    rw [runSupplier_eq]
    refine polled.completions.ending ?_ (fun _ _ same =>
      congrArg _ same) polled.states
    rintro _ _ (_ | rfl) state _ rfl <;> rfl
  justified := by
    intro blame fails
    exact justified_of_settling
      (.supplier _ found _ known property unqualified bound)
      (Completion.canEndIn_ending fails).of_poll

/-- A lookup that waits is explained by the cell that has been found for it. -/
theorem waiting_explains (ticket : Nat) (scene : Scene) :
    Explains (evaluator.JustifiedIn expression)
      (waiting evaluator expression found cell ticket, scene)
      (evaluator.waiting expression cell ticket, scene) where
  inStep := by
    refine ⟨.pending ?_ fun _ _ same => congrArg _ same, rfl⟩
    rintro scene _ rfl
    dsimp only
    cases (scene.data.memo cell).value with
    | some settled => exact .advanced rfl (.ready (.ok rfl))
    | none =>
        dsimp only
        split_ifs
        · have ran : Explains (evaluator.JustifiedIn expression) _ _ :=
            runSupplier_explains known property unqualified bound ticket scene
          exact .advanced ran.inStep.states ran.inStep.completions
        · exact .blocked
  justified := by
    intro blame fails
    rw [waiting, Completion.canEndIn_pending] at fails
    rcases fails with ⟨scene, next, after, advanced, later⟩
    dsimp only at advanced
    split at advanced
    · cases advanced
      cases later
    · split_ifs at advanced
      simp only [Poll.advanced.injEq] at advanced
      rcases advanced with ⟨rfl, -⟩
      exact
        (runSupplier_explains known property unqualified bound ticket
          scene).justified blame later

omit bound in
/-- The lookup of a computed binding is explained by the cell of the name. -/
theorem lookupComputed_explains
    {scene : Scene} (bound : scene.data.cell? part.name = some cell) :
    Explains (evaluator.JustifiedIn expression)
      (lookupComputed evaluator expression cell scene)
      (evaluator.lookupComputed expression cell scene) := by
  cases kept : (scene.data.memo cell).value with
  | some settled =>
      rw [lookupComputed_of_kept _ _ kept, lookupComputed, kept]
      exact .value settled scene
  | none =>
      rw [lookupComputed_of_not_kept _ _ kept, lookupComputed, kept]
      dsimp only
      split_ifs
      · exact runSupplier_explains known property unqualified bound _ _
      · exact waiting_explains known property unqualified bound _ _

end Lookups

section Parts

variable {part : Part} (known : part ∈ expression.parts)

include known

/-- Asking a chain is explained by the resolver that gives the answer. -/
theorem ask_explains
    {chain : Chain}
    (asked : ∀ resolver ∈ chain, evaluator.Asks expression resolver)
    (arguments : List Json) (base : Json) (topLevel : Bool) (scene : Scene) :
    Explains (evaluator.JustifiedIn expression)
      (ask evaluator expression (evaluator.request part arguments base topLevel)
        chain scene)
      (evaluator.ask expression (evaluator.request part arguments base topLevel)
        chain scene) := by
  induction chain generalizing scene with
  | nil => exact .value _ scene
  | cons resolver rest ih =>
      rcases List.forall_mem_cons.mp asked with ⟨first, others⟩
      rw [ask, Evaluator.ask]
      split_ifs
      · have answers := fun answer =>
          @Answers.resolver evaluator expression part resolver answer arguments
            base topLevel scene known first
        revert answers
        generalize resolver.resolve _ scene = said
        rcases said with ⟨_ | answer, after⟩
        · exact fun _ => ih others after
        · intro answers
          refine (settling_explains (answers answer rfl) after).andThen
            fun settled scene => ?_
          split_ifs
          · exact ih others scene
          · exact .value settled scene
      · exact ih others scene

/-- A lookup through the scopes is explained by what has been asked there. -/
theorem lookupScopes_explains
    (unqualified : expression.qualifier = none) (arguments : List Json)
    (scopes : List (Dictionary Json)) (scene : Scene) :
    Explains (evaluator.JustifiedIn expression)
      (lookupScopes evaluator expression part arguments scopes scene)
      (evaluator.lookupScopes expression part arguments scopes scene) := by
  have asked : ∀ resolver ∈ evaluator.engine.resolvers,
      evaluator.Asks expression resolver :=
    fun _ => .inl
  induction scopes generalizing scene with
  | nil =>
      rw [lookupScopes, Evaluator.lookupScopes]
      cases property : part.isMethod with
      | true => exact ask_explains known asked arguments .null true scene
      | false =>
          simp only [Bool.false_eq_true, if_false]
          cases scene.data.get? part.name with
          | some value => exact .value _ scene
          | none =>
              cases bound : scene.data.cell? part.name with
              | some cell =>
                  exact lookupComputed_explains known property unqualified bound
              | none =>
                  exact ask_explains known asked arguments .null true scene
  | cons bindings outer ih =>
      rw [lookupScopes, Evaluator.lookupScopes]
      dsimp only
      generalize (if part.isMethod then none else bindings.get? part.name) =
        found
      cases found with
      | some value => exact .value _ scene
      | none =>
          refine (ask_explains known asked arguments (.object bindings) true
            scene).andThen
            fun settled scene => ?_
          split_ifs
          · exact ih scene
          · exact .value settled scene

theorem resolvePart_explains
    (scopes : List (Dictionary Json)) (arguments : List Json)
    (base : Option Json) (scene : Scene) :
    Explains (evaluator.JustifiedIn expression)
      (resolvePart evaluator scopes expression part arguments base scene)
      (evaluator.resolvePart scopes expression part arguments base scene) := by
  unfold resolvePart Evaluator.resolvePart resolveFirst
  cases base with
  | some base =>
      exact ask_explains known (fun _ => .inl) arguments base false scene
  | none =>
      cases qualified : expression.qualifier with
      | none =>
          exact lookupScopes_explains known qualified arguments scopes scene
      | some qualifier =>
          dsimp only
          cases registered : evaluator.engine.namespaces.get? qualifier with
          | none =>
              exact .failure
                (Justified.unregistered qualified registered).here scene
          | some chain =>
              refine ask_explains known (fun resolver member =>
                ?_) arguments .null true scene
              exact .inr ⟨qualifier, chain, qualified, registered, member⟩

end Parts

mutual

/-- The evaluator that blames does what the evaluator does, and blames what is
so. -/
theorem evaluate_explains
    (scopes : List (Dictionary Json)) (expression : Expression)
    (scene : Scene) :
    Explains (evaluator.JustifiedIn expression)
      (evaluate evaluator scopes expression scene)
      (evaluator.evaluate scopes expression scene) := by
  match expression with
  | .mk qualifier parts constant origin =>
      rw [evaluate, Evaluator.evaluate]
      cases (Expression.mk qualifier parts constant origin).literalValue? with
      | some value => exact .value _ scene
      | none =>
          exact evaluateParts_explains scopes
            (.mk qualifier parts constant origin) none parts
            (fun _ member => member) scene

theorem evaluateParts_explains
    (scopes : List (Dictionary Json)) (expression : Expression)
    (base : Option Json) (parts : List Part)
    (known : ∀ part ∈ parts, part ∈ expression.parts) (scene : Scene) :
    Explains (evaluator.JustifiedIn expression)
      (evaluateParts evaluator scopes expression base parts scene)
      (evaluator.evaluateParts scopes expression base parts scene) := by
  match parts with
  | [] =>
      rw [evaluateParts, Evaluator.evaluateParts]
      exact .value _ scene
  | part :: rest =>
      rcases List.forall_mem_cons.mp known with ⟨first, others⟩
      have arguments := startArguments_explain scopes part scene
      rw [evaluateParts, Evaluator.evaluateParts]
      -- An argument is blamed inside the expression.
      have inside : ∀ blame,
          (∃ argument ∈ part.arguments, evaluator.JustifiedIn argument blame) →
          evaluator.JustifiedIn expression blame := by
        rintro blame ⟨argument, member, inner, deeper, justified⟩
        exact ⟨inner, .head ⟨part, first, member⟩ deeper, justified⟩
      refine (arguments.mono inside).join.andThen fun values scene => ?_
      refine (resolvePart_explains first scopes values base scene).andThen
        fun settled scene => ?_
      split_ifs
      · exact .value settled scene
      · exact evaluateParts_explains scopes expression _ rest others scene

theorem startArguments_explain
    (scopes : List (Dictionary Json)) (part : Part) (scene : Scene) :
    Explains.All (fun blame => ∃ argument ∈ part.arguments,
      evaluator.JustifiedIn argument blame)
      (startArguments evaluator scopes part scene)
      (evaluator.startArguments scopes part scene) := by
  match part with
  | .property _ =>
      rw [startArguments, Evaluator.startArguments]
      exact .nil scene
  | .method _ arguments =>
      rw [startArguments, Evaluator.startArguments]
      exact startAll_explain scopes arguments scene

theorem startAll_explain
    (scopes : List (Dictionary Json)) (expressions : List Expression)
    (scene : Scene) :
    Explains.All (fun blame => ∃ expression ∈ expressions,
      evaluator.JustifiedIn expression blame)
      (startAll evaluator scopes expressions scene)
      (evaluator.startAll scopes expressions scene) := by
  match expressions with
  | [] =>
      rw [startAll, Evaluator.startAll]
      exact .nil scene
  | expression :: rest =>
      have first := evaluate_explains scopes expression scene
      have others :=
        startAll_explain scopes rest
          (evaluate evaluator scopes expression scene).2
      rw [startAll, Evaluator.startAll]
      rw [first.inStep.states] at others ⊢
      refine Explains.All.cons
        ((first.map Settled.toValue).mono fun blame justified => ?_)
        (others.mono fun blame => ?_)
      · exact ⟨expression, List.mem_cons_self, justified⟩
      · rintro ⟨argument, member, justified⟩
        exact ⟨argument, List.mem_cons_of_mem _ member, justified⟩

end

end Blaming

end Evaluator

end Phrasebook
