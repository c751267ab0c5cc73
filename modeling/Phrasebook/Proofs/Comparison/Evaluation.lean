import Mathlib.Tactic.SplitIfs
import Phrasebook.Proofs.Comparison.Renaming
import Phrasebook.Proofs.Completion.InStep
import Phrasebook.Proofs.ComputedBinding

/-!
# Comparing two evaluations

Two evaluators may be asked for the same expression, the second one perhaps
under another id of the template.  A `Comparison` says which data and which
states of the engine count as alike, and which failures do.  When every part of
the expression, and of the argument expressions inside it, is resolved in step
by both evaluators, then the expression is evaluated in step as well: what is
started, polled and given up on the one side is so on the other side, and the
outcomes are the same up to the renaming.

How a part is resolved is settled by the chains of resolvers: chains that answer
in step, one resolver beside the other, resolve in step.
-/

namespace Phrasebook

open Completion (InStep StartInStep ResultsAgree PartsAgree Joined)

/-- What counts as alike when two evaluations are compared. `ids` renames the
templates of the first one. -/
structure Comparison where
  ids : String → String
  data : RenderData → RenderData → Prop
  states : EngineState → EngineState → Prop
  failures : EngineError → EngineError → Prop
  logged : ∀ {state state'} (event : Event), event.isDetail = true →
    states state state' →
    states (state.log event) (state'.log (event.rename ids))
  failed : ∀ reason expression,
    failures (.render (.of reason expression))
      (.render (.of reason (expression.rename ids)))

namespace Comparison

/-- Two scenes with data that are alike, over states that are. -/
structure Scenes (comparison : Comparison) (scene scene' : Scene) : Prop where
  data : comparison.data scene.data scene'.data
  engine : comparison.states scene.engine scene'.engine

variable (comparison : Comparison)

/-- The same outcome, up to the renaming. -/
def Renamed (settled settled' : Settled) : Prop :=
  settled' = settled.rename comparison.ids

/-- Evaluations that run in step from scenes that are alike, to values that are
related. -/
abbrev StartsAlike
    {α : Type} (values : α → α → Prop)
    (started started' : Evaluation Scene α × Scene) : Prop :=
  StartInStep comparison.Scenes (ResultsAgree comparison.failures values)
    started started'

/-- Evaluations that were started one after the other, in step. -/
structure StartsAllAlike
    {α : Type} (values : α → α → Prop)
    (started started' : List (Evaluation Scene α) × Scene) :
    Prop where
  completions :
    List.Forall₂
      (InStep comparison.Scenes (ResultsAgree comparison.failures values))
      started.1 started'.1
  scenes : comparison.Scenes started.2 started'.2

variable {comparison}

theorem Scenes.log
    {scene scene' : Scene} (alike : comparison.Scenes scene scene')
    (event : Event) (detail : event.isDetail = true) :
    comparison.Scenes (scene.log event)
      (scene'.log (event.rename comparison.ids)) :=
  ⟨alike.data, comparison.logged event detail alike.engine⟩

theorem StartsAllAlike.all
    {α : Type} {values : α → α → Prop}
    {started started' : List (Evaluation Scene α) × Scene}
    (alike : comparison.StartsAllAlike values started started') :
    comparison.StartsAlike (Joined values started.1.length)
      (Completion.all started.1 started.2)
      (Completion.all started'.1 started'.2) :=
  Completion.all_inStep alike.completions alike.scenes

section Expressions

variable (comparison) (evaluator evaluator' : Evaluator)
  (scopes : List (Dictionary Json))

/-- A part of an expression is resolved in step against a base, with as many
arguments as it has argument expressions. -/
def ResolvesPart
    (expression : Expression) (part : Part) (base : Option Json) : Prop :=
  ∀ arguments : List Json, arguments.length = part.arguments.length →
    ∀ scene scene', comparison.Scenes scene scene' →
      comparison.StartsAlike comparison.Renamed
        (evaluator.resolvePart scopes expression part arguments base scene)
        (evaluator'.resolvePart scopes (expression.rename comparison.ids)
          (part.rename comparison.ids)
          arguments base scene')

/-- All parts of an expression are resolved in step, the first one without a
base. -/
structure Resolves (expression : Expression) : Prop where
  first : ∀ part rest, expression.parts = part :: rest →
    comparison.ResolvesPart evaluator evaluator' scopes expression part none
  later : ∀ part ∈ expression.parts.tail, ∀ base,
    comparison.ResolvesPart evaluator evaluator' scopes expression part
      (some base)

/-- The parts of an expression are resolved in step, unless it is a literal,
which is not resolved. -/
def ResolvesUnlessLiteral (expression : Expression) : Prop :=
  expression.literalValue? = none →
    comparison.Resolves evaluator evaluator' scopes expression

variable {comparison evaluator evaluator' scopes}

theorem length_startAll (expressions : List Expression) (scene : Scene) :
    (evaluator.startAll scopes expressions scene).1.length =
      expressions.length := by
  induction expressions generalizing scene with
  | nil => simp [Evaluator.startAll]
  | cons expression rest ih => simp [Evaluator.startAll, ih]

theorem length_startArguments (part : Part) (scene : Scene) :
    (evaluator.startArguments scopes part scene).1.length =
      part.arguments.length := by
  cases part with
  | property name => simp [Evaluator.startArguments, Part.arguments]
  | method name arguments =>
      simp [Evaluator.startArguments, Part.arguments, length_startAll]

mutual

/-- An expression is evaluated in step when the parts of it and of the
expressions inside it are resolved in step. -/
theorem evaluate_alike
    (expression : Expression)
    (resolves : ∀ inner ∈ expression.withArguments,
      comparison.ResolvesUnlessLiteral evaluator evaluator' scopes inner)
    {scene scene' : Scene} (alike : comparison.Scenes scene scene') :
    comparison.StartsAlike comparison.Renamed
      (evaluator.evaluate scopes expression scene)
      (evaluator'.evaluate scopes (expression.rename comparison.ids)
        scene') := by
  match expression with
  | .mk qualifier parts constant origin =>
      have literal :
          ((Expression.mk qualifier parts constant origin).rename
            comparison.ids).literalValue? =
            (Expression.mk qualifier parts constant origin).literalValue? :=
        Expression.literalValue?_rename _
      rw [Expression.withArguments] at resolves
      rcases List.forall_mem_cons.mp resolves with ⟨own, inside⟩
      rw [Expression.rename] at literal ⊢
      rw [Evaluator.evaluate, Evaluator.evaluate, literal]
      cases constant? :
          (Expression.mk qualifier parts constant origin).literalValue? with
      | some value => exact ⟨.ready (.ok rfl), alike⟩
      | none =>
          have resolved := own constant?
          exact evaluateParts_alike _ none parts resolved.first resolved.later
            inside alike

/-- Parts are evaluated alike when each of them is resolved alike. -/
theorem evaluateParts_alike
    (expression : Expression) (base : Option Json) (parts : List Part)
    (first : ∀ part rest, parts = part :: rest →
      comparison.ResolvesPart evaluator evaluator' scopes expression part base)
    (later : ∀ part ∈ parts.tail, ∀ base,
      comparison.ResolvesPart evaluator evaluator' scopes expression part
        (some base))
    (resolves : ∀ inner ∈ Expression.argumentsOfParts parts,
      comparison.ResolvesUnlessLiteral evaluator evaluator' scopes inner)
    {scene scene' : Scene} (alike : comparison.Scenes scene scene') :
    comparison.StartsAlike comparison.Renamed
      (evaluator.evaluateParts scopes expression base parts scene)
      (evaluator'.evaluateParts scopes (expression.rename comparison.ids) base
        (Expression.renameParts comparison.ids parts) scene') := by
  match parts with
  | [] =>
      rw [Expression.renameParts, Evaluator.evaluateParts,
        Evaluator.evaluateParts]
      exact ⟨.ready (.ok rfl), alike⟩
  | part :: rest =>
      have split :
          (∀ inner ∈ Expression.argumentsOfAll part.arguments,
            comparison.ResolvesUnlessLiteral evaluator evaluator' scopes
              inner) ∧
          ∀ inner ∈ Expression.argumentsOfParts rest,
            comparison.ResolvesUnlessLiteral evaluator evaluator' scopes
                inner := by
        cases part with
        | property name => exact ⟨List.forall_mem_nil _, resolves⟩
        | method name arguments => exact List.forall_mem_append.mp resolves
      have started := startArguments_alike part split.1 alike
      rw [Expression.renameParts, Evaluator.evaluateParts,
        Evaluator.evaluateParts]
      apply started.all.andThen
      rintro values _ ⟨same, counted⟩ state state' alike
      rcases List.forall₂_eq_eq_eq ▸ same with rfl
      rw [length_startArguments] at counted
      apply (first part rest rfl values counted state state' alike).andThen
      rintro settled _ rfl state state' alike
      simp only [Settled.isNotFound_rename, Settled.toValue_rename,
        Expression.isEmpty_renameParts]
      split_ifs
      · exact ⟨.ready (.ok rfl), alike⟩
      · apply evaluateParts_alike expression (some _) rest _ _ split.2 alike
        · rintro next others rfl
          exact later next List.mem_cons_self _
        · intro next member
          exact later next (List.mem_of_mem_tail member)

theorem startArguments_alike
    (part : Part)
    (resolves : ∀ inner ∈ Expression.argumentsOfAll part.arguments,
      comparison.ResolvesUnlessLiteral evaluator evaluator' scopes inner)
    {scene scene' : Scene} (alike : comparison.Scenes scene scene') :
    comparison.StartsAllAlike Eq
      (evaluator.startArguments scopes part scene)
      (evaluator'.startArguments scopes
        (Expression.renamePart comparison.ids part) scene') := by
  match part with
  | .property _ =>
      rw [Expression.renamePart, Evaluator.startArguments,
        Evaluator.startArguments]
      exact ⟨.nil, alike⟩
  | .method _ arguments =>
      rw [Expression.renamePart, Evaluator.startArguments,
        Evaluator.startArguments]
      exact startAll_alike arguments resolves alike

theorem startAll_alike
    (expressions : List Expression)
    (resolves : ∀ inner ∈ Expression.argumentsOfAll expressions,
      comparison.ResolvesUnlessLiteral evaluator evaluator' scopes inner)
    {scene scene' : Scene} (alike : comparison.Scenes scene scene') :
    comparison.StartsAllAlike Eq
      (evaluator.startAll scopes expressions scene)
      (evaluator'.startAll scopes
        (Expression.renameAll comparison.ids expressions) scene') := by
  match expressions with
  | [] =>
      rw [Expression.renameAll, Evaluator.startAll, Evaluator.startAll]
      exact ⟨.nil, alike⟩
  | expression :: rest =>
      rw [Expression.argumentsOfAll] at resolves
      rcases List.forall_mem_append.mp resolves with ⟨inside, others⟩
      rw [Expression.renameAll, Evaluator.startAll, Evaluator.startAll]
      have first := evaluate_alike expression inside alike
      have later := startAll_alike rest others first.states
      refine ⟨.cons (first.completions.map ?_) later.completions, later.scenes⟩
      rintro settled _ rfl
      exact settled.toValue_rename.symm

end

end Expressions

section Chains

variable (comparison) (unrestricted : Bool) (expression : Expression)

/-- Two answers that settle in step. -/
def AnswersAlike (answer answer' : Resolved Scene) : Prop :=
  InStep comparison.Scenes (ResultsAgree comparison.failures comparison.Renamed)
    (answer.flatten expression unrestricted)
    (answer'.flatten (expression.rename comparison.ids) unrestricted)

/-- Two resolvers that answer two requests in step. -/
structure RespondsAlike
    (request request' : Request) (resolver resolver' : Resolver) : Prop where
  applies : resolver.applies request = resolver'.applies request'
  answers : ∀ scene scene', comparison.Scenes scene scene' →
    Option.Rel (comparison.AnswersAlike unrestricted expression)
        (resolver.resolve request scene).1
          (resolver'.resolve request' scene').1 ∧
      comparison.Scenes (resolver.resolve request scene).2
        (resolver'.resolve request' scene').2

/-- Chains of resolvers that answer two requests in step, one beside the
other. -/
abbrev ChainsAlike (request request' : Request) (chain chain' : Chain) : Prop :=
  List.Forall₂
    (comparison.RespondsAlike unrestricted expression request request')
    chain chain'

variable {comparison unrestricted expression} {evaluator evaluator' : Evaluator}
  {scene scene' : Scene}

/-- Handles in step whose answers settle in step settle in step. -/
theorem awaiting_alike
    {handle handle' : Completion Scene (Resolved Scene)}
    (inStep : InStep comparison.Scenes
      (comparison.AnswersAlike unrestricted expression) handle handle') :
    InStep comparison.Scenes
      (ResultsAgree comparison.failures comparison.Renamed)
      (Resolved.awaiting expression unrestricted handle)
      (Resolved.awaiting (expression.rename comparison.ids) unrestricted
        handle') := by
  induction inStep using InStep.ind with
  | ready answer answer' agree =>
      rw [Resolved.awaiting, Resolved.awaiting]
      exact .pending (fun _ _ alike => agree.reach alike) fun _ _ alike => alike
  | pending advance advance' release release' polls releases _ =>
      rw [Resolved.awaiting, Resolved.awaiting]
      refine .pending (fun scene scene' alike => ?_) releases
      have agree := polls scene scene' alike
      revert agree
      generalize advance scene = poll, advance' scene' = poll'
      rintro (_ | ⟨moved, next, later⟩)
      · exact .blocked
      · cases next with
        | ready agree => exact agree.reach moved
        | pending _ _ => exact .advanced moved later

theorem partsAgree_engine :
    PartsAgree Scene.engine (fun engine scene => { scene with engine })
      comparison.Scenes comparison.states where
  parts _ _ alike := alike.engine
  updates _ _ _ _ engine alike := ⟨alike.data, engine⟩

/-- Renders in step are answers that settle in step, when failures stay alike as
they are handed on. -/
theorem answersAlike_ofRender
    (handedOn : ∀ error error', comparison.failures error error' →
      comparison.failures (.ofCause (.engine error) expression)
        (.ofCause (.engine error') (expression.rename comparison.ids)))
    {render render' : Evaluation EngineState String}
    (inStep : InStep comparison.states (ResultsAgree comparison.failures Eq)
      render render') :
    comparison.AnswersAlike unrestricted expression (.ofRender render)
      (.ofRender render') := by
  apply awaiting_alike
  apply (inStep.within partsAgree_engine).mapResult
  rintro _ _ (failure | rfl)
  · exact .ready (.error (handedOn _ _ failure))
  · exact .ready (.ok rfl)

/-- Chains that are alike are asked alike. -/
theorem ask_alike
    (config : evaluator.engine.config = evaluator'.engine.config)
    {request request' : Request} {chain chain' : Chain}
    (chains :
      comparison.ChainsAlike evaluator.engine.config.unrestrictedAsyncValues
        expression
      request request' chain chain')
    (alike : comparison.Scenes scene scene') :
    comparison.StartsAlike comparison.Renamed
      (evaluator.ask expression request chain scene)
      (evaluator'.ask (expression.rename comparison.ids) request' chain'
        scene') := by
  induction chains generalizing scene scene' with
  | nil => exact ⟨.ready (.ok rfl), alike⟩
  | @cons resolver resolver' rest rest' first _ ih =>
      rw [Evaluator.ask, Evaluator.ask, first.applies, ← config]
      split_ifs
      · have said := first.answers scene scene' alike
        revert said
        generalize resolver.resolve request scene = said
        generalize resolver'.resolve request' scene' = said'
        rcases said with ⟨answer, after⟩
        rcases said' with ⟨answer', after'⟩
        rintro ⟨answers | _, scenes⟩
        · apply answers.andThen _ scenes
          rintro settled _ rfl state state' alike
          simp only [Settled.isNotFound_rename]
          split_ifs
          · exact ih alike
          · exact ⟨.ready (.ok rfl), alike⟩
        · exact ih scenes
      · exact ih alike

variable {part : Part}

/-- A later part asks the general resolvers. -/
theorem resolvesPart_later
    {scopes : List (Dictionary Json)} {base : Json}
    (config : evaluator.engine.config = evaluator'.engine.config)
    (chains : ∀ arguments : List Json,
      arguments.length = part.arguments.length →
      comparison.ChainsAlike evaluator.engine.config.unrestrictedAsyncValues
        expression
        (evaluator.request part arguments base false)
        (evaluator'.request (part.rename comparison.ids) arguments base false)
        evaluator.engine.resolvers evaluator'.engine.resolvers) :
    comparison.ResolvesPart evaluator evaluator' scopes expression part
      (some base) :=
  fun arguments counted _ _ alike =>
    ask_alike config (chains arguments counted) alike

/-- The first part of a namespaced expression asks the resolvers of its
namespace. -/
theorem resolvesPart_named
    {scopes : List (Dictionary Json)} {qualifier : String}
    (named : expression.qualifier = some qualifier)
    (config : evaluator.engine.config = evaluator'.engine.config)
    (chains : ∀ arguments : List Json,
      arguments.length = part.arguments.length →
      Option.Rel
        (comparison.ChainsAlike evaluator.engine.config.unrestrictedAsyncValues
          expression
          (evaluator.request part arguments .null true)
          (evaluator'.request (part.rename comparison.ids) arguments
            .null true))
        (evaluator.engine.namespaces.get? qualifier)
        (evaluator'.engine.namespaces.get? qualifier)) :
    comparison.ResolvesPart evaluator evaluator' scopes expression part
      none := by
  intro arguments counted scene scene' alike
  have served := chains arguments counted
  rw [Evaluator.resolvePart, Evaluator.resolvePart, Evaluator.resolveFirst,
    Evaluator.resolveFirst, Expression.qualifier_rename, named]
  dsimp only
  revert served
  generalize evaluator.engine.namespaces.get? qualifier = found
  generalize evaluator'.engine.namespaces.get? qualifier = found'
  rintro (chains | _)
  · exact ask_alike config chains alike
  · exact ⟨.ready (.error (comparison.failed _ _)), alike⟩

/-- The first part of an expression without namespace is a value of the data, or
a computed binding, or asks the general resolvers. -/
theorem resolvesPart_root
    (unnamed : expression.qualifier = none)
    (config : evaluator.engine.config = evaluator'.engine.config)
    (found : part.isMethod = false → ∀ scene scene',
      comparison.Scenes scene scene' →
      scene.data.get? part.name = scene'.data.get? part.name)
    (computed : part.isMethod = false → ∀ scene scene',
      comparison.Scenes scene scene' →
      Option.Rel
        (fun cell cell' => comparison.StartsAlike comparison.Renamed
          (evaluator.lookupComputed expression cell scene)
          (evaluator'.lookupComputed (expression.rename comparison.ids) cell'
            scene'))
        (scene.data.cell? part.name) (scene'.data.cell? part.name))
    (chains : ∀ arguments : List Json,
      arguments.length = part.arguments.length →
      comparison.ChainsAlike evaluator.engine.config.unrestrictedAsyncValues
        expression
        (evaluator.request part arguments .null true)
        (evaluator'.request (part.rename comparison.ids) arguments .null true)
        evaluator.engine.resolvers evaluator'.engine.resolvers) :
    comparison.ResolvesPart evaluator evaluator' [] expression part none := by
  intro arguments counted scene scene' alike
  have asked := ask_alike config (chains arguments counted) alike
  rw [Evaluator.resolvePart, Evaluator.resolvePart, Evaluator.resolveFirst,
    Evaluator.resolveFirst, Expression.qualifier_rename, unnamed]
  simp only [Evaluator.lookupScopes, Part.name_rename, Part.isMethod_rename]
  cases method : part.isMethod with
  | true => exact asked
  | false =>
      simp only [Bool.false_eq_true, if_false]
      rw [found method scene scene' alike]
      cases scene'.data.get? part.name with
      | some value => exact ⟨.ready (.ok rfl), alike⟩
      | none =>
          have bound := computed method scene scene' alike
          revert bound
          generalize scene.data.cell? part.name = cell
          generalize scene'.data.cell? part.name = cell'
          rintro (lookup | _)
          · exact lookup
          · exact asked

/-- Resolvers of values that apply to two requests alike and give the same
answer to them. -/
theorem respondsAlike_ofValue
    {priority : Int} {applies : Request → Bool} {answer : Request → Option Json}
    {request request' : Request} (same : applies request = applies request')
    (answers : answer request = answer request') :
    comparison.RespondsAlike unrestricted expression request request'
      (.ofValue priority applies answer)
      (.ofValue priority applies answer) where
  applies := same
  answers scene scene' alike := by
    refine ⟨?_, alike⟩
    show Option.Rel _ ((answer request).map _) ((answer request').map _)
    rw [answers]
    cases answer request' with
    | none => exact .none
    | some value => exact .some (.ready (.ok rfl))

/-- The built-in resolvers look at the name and the kind of a part, at the base
and at the values of the arguments. -/
theorem respondsAlike_builtIn
    {resolver : Resolver} (builtIn : resolver ∈ Resolver.BuiltIn.all)
    (arguments : List Json) (base : Json) (topLevel : Bool)
    (services services' : Services) :
    comparison.RespondsAlike unrestricted expression
      ⟨base, part, arguments, topLevel, services⟩
      ⟨base, part.rename comparison.ids, arguments, topLevel,
        services'⟩ resolver resolver := by
  simp only [Resolver.BuiltIn.all, List.mem_cons, List.not_mem_nil, or_false]
    at builtIn
  cases part with
  | property name =>
      rcases builtIn with rfl | rfl | rfl | rfl <;>
        exact respondsAlike_ofValue rfl rfl
  | method name expressions =>
      rcases builtIn with rfl | rfl | rfl | rfl <;>
        exact respondsAlike_ofValue rfl rfl

/-- Chains of built-in resolvers answer in step. -/
theorem chainsAlike_builtIn
    {chain : Chain}
    (builtIn : ∀ resolver ∈ chain, resolver ∈ Resolver.BuiltIn.all)
    (arguments : List Json) (base : Json) (topLevel : Bool)
    (services services' : Services) :
    comparison.ChainsAlike unrestricted expression
      ⟨base, part, arguments, topLevel, services⟩
      ⟨base, part.rename comparison.ids, arguments, topLevel, services'⟩ chain
        chain := by
  apply List.forall₂_same.mpr
  intro resolver member
  exact respondsAlike_builtIn (builtIn resolver member) arguments base topLevel
    services services'

end Chains

end Comparison

end Phrasebook
