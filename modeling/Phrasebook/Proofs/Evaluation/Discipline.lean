import Mathlib.Tactic.SplitIfs
import Phrasebook.Engine.Render

/-!
# Disciplines of evaluation

An evaluation is put together from a few kinds of steps.  A value is there at
once; a resolver or a supplier is asked and answers; a computation is continued,
mapped, or joined with others; and the namespace of an expression may turn out
to be unregistered.  A discipline is a property of what is started for an
expression that each of these steps respects.  Every evaluation has it, in every
stack of scopes and from every scene, and hence also the computations that a
render starts for its placeholders.
-/

namespace Phrasebook

namespace Evaluator

/-- A resolver is in a chain that is asked about an expression: the general one,
or the one of its namespace. -/
def Asks
    (evaluator : Evaluator) (expression : Expression) (resolver : Resolver) :
    Prop :=
  resolver ∈ evaluator.engine.resolvers ∨
    ∃ qualifier chain, expression.qualifier = some qualifier ∧
      evaluator.engine.namespaces.get? qualifier = some chain ∧ resolver ∈ chain

/-- Computations that were started one after the other, each with a property
that refers to the scene that it started from. -/
inductive StartsAll
    {α : Type} (holds : Scene → Evaluation Scene α × Scene → Prop) :
    Scene → List (Evaluation Scene α) × Scene → Prop
  | nil (scene : Scene) : StartsAll holds scene ([], scene)
  | cons {scene next last : Scene} {first : Evaluation Scene α}
      {others : List (Evaluation Scene α)} (one : holds scene (first, next))
      (rest : StartsAll holds next (others, last)) :
      StartsAll holds scene (first :: others, last)

theorem StartsAll.mono
    {α : Type} {holds holds' : Scene → Evaluation Scene α × Scene → Prop}
    {scene : Scene} {started : List (Evaluation Scene α) × Scene}
    (weaker : ∀ scene started, holds scene started → holds' scene started)
    (starts : StartsAll holds scene started) :
    StartsAll holds' scene started := by
  induction starts with
  | nil scene => exact .nil scene
  | cons one _ ih => exact .cons (weaker _ _ one) ih

/-- A property of what is started for an expression at a scene, respected by all
that an evaluator does. -/
structure Discipline
    (evaluator : Evaluator)
    (Holds : ∀ {α : Type}, Expression → Scene → Evaluation Scene α × Scene →
      Prop) : Prop where
  value : ∀ {α : Type} expression scene (value : α),
    Holds expression scene (.ready (.ok value), scene)
  unregistered : ∀ {expression : Expression} {qualifier : String}
    (scene : Scene),
    expression.qualifier = some qualifier →
      evaluator.engine.namespaces.get? qualifier = none →
      Holds (α := Settled) expression scene
        (failed (.namespaceUnresolved qualifier) expression, scene)
  declined : ∀ {expression : Expression} {part : Part} {resolver : Resolver}
    (scene : Scene)
    (arguments : List Json) (base : Json) (topLevel : Bool),
    part ∈ expression.parts → evaluator.Asks expression resolver →
      (resolver.resolve (evaluator.request part arguments base topLevel)
        scene).1 = none →
        ∀ {started : Evaluation Scene Settled × Scene},
          Holds expression
              (resolver.resolve (evaluator.request part arguments base topLevel)
                scene).2 started →
            Holds expression scene started
  answered : ∀ {expression : Expression} {part : Part} {resolver : Resolver}
    (scene : Scene)
    (arguments : List Json) (base : Json) (topLevel : Bool),
    part ∈ expression.parts → evaluator.Asks expression resolver →
      ∀ answer : Resolved Scene,
        (resolver.resolve (evaluator.request part arguments base topLevel)
          scene).1 = some answer →
          Holds expression scene
            (answer.flatten expression
              evaluator.engine.config.unrestrictedAsyncValues,
              (resolver.resolve (evaluator.request part arguments base topLevel)
                scene).2)
  computed : ∀ {expression : Expression} {part : Part} {cell : Cell}
    (scene : Scene),
    part ∈ expression.parts → part.isMethod = false →
      expression.qualifier = none →
      scene.data.cell? part.name = some cell →
        Holds expression scene (evaluator.lookupComputed expression cell scene)
  argument : ∀ {α : Type} {expression argument : Expression} {part : Part}
    {scene : Scene}
    {started : Evaluation Scene α × Scene},
    part ∈ expression.parts → argument ∈ part.arguments →
      Holds argument scene started → Holds expression scene started
  mapped : ∀ {α β : Type} {expression : Expression} {scene : Scene}
    {started : Evaluation Scene α × Scene} (f : α → β),
    Holds expression scene started →
      Holds expression scene (started.1.map f, started.2)
  chained : ∀ {α β : Type} {expression : Expression} {scene : Scene}
    {started : Evaluation Scene α × Scene} {next : α → Scene →
      Evaluation Scene β × Scene},
    Holds expression scene started →
      (∀ value scene, Holds expression scene (next value scene)) →
      Holds expression scene (started.1.andThen next started.2)
  joined : ∀ {α : Type} {expression : Expression} {scene : Scene}
    {started : List (Evaluation Scene α) × Scene},
    StartsAll (Holds expression) scene started →
      Holds expression scene (Completion.all started.1 started.2)

namespace Discipline

variable {evaluator : Evaluator}
  {Holds : ∀ {α : Type}, Expression → Scene → Evaluation Scene α × Scene → Prop}
  (discipline : evaluator.Discipline Holds) {expression : Expression}
  {part : Part}

include discipline

/-- Asking a chain keeps to the discipline when each resolver in it does. -/
theorem ask
    (known : part ∈ expression.parts) {chain : Chain}
    (asked : ∀ resolver ∈ chain, evaluator.Asks expression resolver)
    (arguments : List Json) (base : Json) (topLevel : Bool) (scene : Scene) :
    Holds expression scene
      (evaluator.ask expression (evaluator.request part arguments base topLevel)
        chain scene) := by
  induction chain generalizing scene with
  | nil => exact discipline.value expression scene _
  | cons resolver rest ih =>
      rcases List.forall_mem_cons.mp asked with ⟨first, others⟩
      rw [Evaluator.ask]
      split_ifs
      · have declined :=
          discipline.declined scene arguments base topLevel known first
        have answered :=
          discipline.answered scene arguments base topLevel known first
        revert declined answered
        generalize resolver.resolve _ scene = said
        rcases said with ⟨_ | answer, after⟩
        · exact fun declined _ => declined rfl (ih others after)
        · intro _ answered
          refine discipline.chained (answered answer rfl) fun settled scene =>
            ?_
          split_ifs
          · exact ih others scene
          · exact discipline.value expression scene settled
      · exact ih others scene

/-- A lookup through the scopes keeps to the discipline. -/
theorem lookupScopes
    (known : part ∈ expression.parts)
    (unqualified : expression.qualifier = none)
    (arguments : List Json) (scopes : List (Dictionary Json)) (scene : Scene) :
    Holds expression scene
      (evaluator.lookupScopes expression part arguments scopes scene) := by
  have asked : ∀ resolver ∈ evaluator.engine.resolvers,
      evaluator.Asks expression resolver :=
    fun _ => .inl
  induction scopes generalizing scene with
  | nil =>
      rw [Evaluator.lookupScopes]
      cases property : part.isMethod with
      | true => exact discipline.ask known asked arguments .null true scene
      | false =>
          simp only [Bool.false_eq_true, if_false]
          cases scene.data.get? part.name with
          | some value => exact discipline.value expression scene _
          | none =>
              cases bound : scene.data.cell? part.name with
              | some cell =>
                  exact discipline.computed scene known property
                    unqualified bound
              | none =>
                  exact discipline.ask known asked arguments .null true scene
  | cons bindings outer ih =>
      rw [Evaluator.lookupScopes]
      dsimp only
      split
      · exact discipline.value expression scene _
      · refine discipline.chained
          (discipline.ask known asked arguments (.object bindings) true scene)
          fun settled scene => ?_
        split_ifs
        · exact ih scene
        · exact discipline.value expression scene settled

/-- Resolving a part keeps to the discipline. -/
theorem resolvePart
    (known : part ∈ expression.parts) (scopes : List (Dictionary Json))
    (arguments : List Json) (base : Option Json) (scene : Scene) :
    Holds expression scene
      (evaluator.resolvePart scopes expression part arguments base scene) := by
  cases base with
  | some base =>
      exact discipline.ask known (fun _ => .inl) arguments base false scene
  | none =>
      rw [Evaluator.resolvePart, Evaluator.resolveFirst]
      cases qualified : expression.qualifier with
      | none =>
          exact discipline.lookupScopes known qualified arguments scopes scene
      | some qualifier =>
          dsimp only
          cases found : evaluator.engine.namespaces.get? qualifier with
          | none => exact discipline.unregistered scene qualified found
          | some chain =>
              refine discipline.ask known (fun resolver member =>
                ?_) arguments .null true scene
              exact .inr ⟨qualifier, chain, qualified, found, member⟩

omit discipline

mutual

/-- Whatever an evaluator evaluates has its disciplines. -/
theorem evaluate
    (discipline : evaluator.Discipline Holds) (scopes : List (Dictionary Json))
    (expression : Expression) (scene : Scene) :
    Holds expression scene (evaluator.evaluate scopes expression scene) := by
  match expression with
  | .mk qualifier parts constant origin =>
      rw [Evaluator.evaluate]
      split
      · exact discipline.value _ scene _
      · exact evaluateParts discipline scopes
          (.mk qualifier parts constant origin) none parts
          (fun _ member => member) scene

/-- Evaluating parts keeps to the discipline. -/
theorem evaluateParts
    (discipline : evaluator.Discipline Holds) (scopes : List (Dictionary Json))
    (expression : Expression) (base : Option Json) (parts : List Part)
    (known : ∀ part ∈ parts, part ∈ expression.parts) (scene : Scene) :
    Holds expression scene
      (evaluator.evaluateParts scopes expression base parts scene) := by
  match parts with
  | [] =>
      rw [Evaluator.evaluateParts]
      exact discipline.value expression scene _
  | part :: rest =>
      rcases List.forall_mem_cons.mp known with ⟨first, others⟩
      have arguments := startArguments discipline scopes part scene
      rw [Evaluator.evaluateParts]
      refine discipline.chained (discipline.joined ?_) fun values scene => ?_
      · refine arguments.mono fun scene started => ?_
        rintro ⟨argument, member, holds⟩
        exact discipline.argument first member holds
      · refine discipline.chained
          (discipline.resolvePart first scopes values base scene)
          fun settled scene => ?_
        split_ifs
        · exact discipline.value expression scene settled
        · exact evaluateParts discipline scopes expression _ rest others scene

theorem startArguments
    (discipline : evaluator.Discipline Holds) (scopes : List (Dictionary Json))
    (part : Part) (scene : Scene) :
    StartsAll
      (fun scene started => ∃ argument ∈ part.arguments,
        Holds argument scene started)
      scene (evaluator.startArguments scopes part scene) := by
  match part with
  | .property _ =>
      rw [Evaluator.startArguments]
      exact .nil scene
  | .method _ arguments =>
      rw [Evaluator.startArguments]
      exact startAll discipline scopes arguments scene

theorem startAll
    (discipline : evaluator.Discipline Holds) (scopes : List (Dictionary Json))
    (expressions : List Expression) (scene : Scene) :
    StartsAll
      (fun scene started => ∃ expression ∈ expressions,
        Holds expression scene started)
      scene (evaluator.startAll scopes expressions scene) := by
  match expressions with
  | [] =>
      rw [Evaluator.startAll]
      exact .nil scene
  | expression :: rest =>
      have first := evaluate discipline scopes expression scene
      have others :=
        startAll discipline scopes rest
          (evaluator.evaluate scopes expression scene).2
      have later : StartsAll
          (fun scene started => ∃ argument ∈ expression :: rest,
              Holds argument scene started) _ _ :=
        others.mono fun scene started ⟨argument, member, holds⟩ =>
          ⟨argument, List.mem_cons_of_mem _ member, holds⟩
      rw [Evaluator.startAll]
      refine .cons ⟨expression, List.mem_cons_self, ?_⟩ later
      exact discipline.mapped Settled.toValue first

end

end Discipline

end Evaluator

end Phrasebook
