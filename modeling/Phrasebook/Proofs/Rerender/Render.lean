import Phrasebook.Proofs.Evaluation.Program
import Phrasebook.Proofs.Rerender.Lookup
import Phrasebook.Proofs.Transparency.Meaning

/-!
# Renders that give the same again

Evaluating an expression is steady, and so is rendering a template: what the
first evaluator ends in is what the other one, with whatever suppliers, gives
from then on without calling any of them.  The induction follows the evaluator.
Arguments and placeholders are joins of programs that are started one after the
other, and where an explicit value or a cell decides what a lookup does, the
decision is the same again because what is bound to keys is.
-/

namespace Phrasebook

open Watch

namespace Evaluator

variable {watch : Watch} {among : Set Services} {services : Services}
  {suppliers : Suppliers}
  {evaluator : Evaluator} {expression : Expression}

section Resolvers

/-- What a resolver answers to a request, without its handles. -/
def answering (evaluator : Evaluator) (expression : Expression)
    (request : Request) (resolver : Resolver) :
    Program Scene Settled :=
  fun scene =>
    (((resolver.resolve request scene).1.getD .notFound).flatten expression
      evaluator.unrestricted,
      (resolver.resolve request scene).2)

/-- Goes on to the resolvers after one that has settled to not-found. -/
def askOn (evaluator : Evaluator) (expression : Expression) (request : Request)
    (rest : Chain)
    (settled : Settled) : Program Scene Settled :=
  fun scene =>
    if settled.isNotFound then evaluator.ask expression request rest scene
      else (.ready (.ok settled), scene)

variable {request : Request} {resolver : Resolver} {rest : Chain}
  {applies : Bool} {response : Option Shape}

/-- A resolver that does not apply is passed by. -/
theorem ask_of_not_applies (applies : resolver.applies request = false) :
    evaluator.ask expression request (resolver :: rest) =
      evaluator.ask expression request rest := by
  funext scene
  rw [ask, applies]
  rfl

/-- A resolver that declines is passed by. -/
theorem ask_of_declines
    (responds : resolver.Responds evaluator.unrestricted request true none) :
    evaluator.ask expression request (resolver :: rest) =
      fun scene =>
        evaluator.ask expression request rest
          (resolver.resolve request scene).2 := by
  funext scene
  have declined := responds.answers scene
  rw [ask, responds.applies]
  revert declined
  generalize resolver.resolve request scene = said
  rcases said with ⟨_ | answer, after⟩
  · exact fun _ => rfl
  · intro declined
    cases declined

theorem ask_of_responds
    {shape : Shape}
    (responds : resolver.Responds evaluator.unrestricted request true
      (some shape)) :
    evaluator.ask expression request (resolver :: rest) =
      (evaluator.answering expression request resolver).bind
        (evaluator.askOn expression request rest) := by
  funext scene
  have answered := responds.answers scene
  rw [ask, responds.applies, Program.bind, answering]
  revert answered
  generalize resolver.resolve request scene = said
  rcases said with ⟨_ | answer, after⟩
  · intro answered
    cases answered
  · exact fun _ => rfl

theorem settles_answering
    {shape : Shape}
    (responds : resolver.Responds evaluator.unrestricted request true
      (some shape)) :
    Settles (evaluator.answering expression request resolver)
      (shape.outcome expression) := by
  have delivers : ∀ scene, Resolved.Delivers evaluator.unrestricted
      ((resolver.resolve request scene).1.getD .notFound) shape := by
    intro scene
    have answered := responds.answers scene
    cases said : (resolver.resolve request scene).1 with
    | none =>
        rw [said] at answered
        cases answered
    | some answer =>
        rw [said] at answered
        cases answered with
        | some delivers => exact delivers
  exact ⟨responds.data, fun scene => (delivers scene).2.flatten expression _,
    fun scene => (delivers scene).1.flatten expression⟩

/-- Asking a chain of consistent resolvers is steady. -/
theorem steady_ask
    {chain : Chain} (repeatable : evaluator.Repeatable among services)
    (consistent : ∀ resolver ∈ chain,
      resolver.Consistent evaluator.unrestricted among)
    (part : Part) (arguments : List Json) (base : Json) (topLevel : Bool) :
    watch.Steady
      (evaluator.ask expression
        (evaluator.request part arguments base topLevel) chain)
      ((evaluator.renewed services suppliers).ask expression
        ((evaluator.renewed services suppliers).request part arguments base
          topLevel) chain) := by
  induction chain with
  | nil => exact steady_pure Settled.notFound
  | cons resolver rest ih =>
      rcases List.forall_mem_cons.mp consistent with ⟨first, others⟩
      have later := ih others
      rcases first base part arguments topLevel with
        ⟨applies, response, responds⟩
      have here : resolver.Responds evaluator.unrestricted
          (evaluator.request part arguments base topLevel) applies response :=
        responds evaluator.services repeatable.first
      have again :
          resolver.Responds (evaluator.renewed services suppliers).unrestricted
          ((evaluator.renewed services suppliers).request part arguments base
              topLevel) applies response :=
        responds services repeatable.again
      cases applies with
      | false =>
          rw [ask_of_not_applies here.applies, ask_of_not_applies again.applies]
          exact later
      | true =>
          cases response with
          | none =>
              rw [ask_of_declines here, ask_of_declines again]
              exact later.prepared here.data again.data
          | some shape =>
              rw [ask_of_responds here, ask_of_responds again]
              refine (Settles.steady (settles_answering here)
                (settles_answering again)).bind fun settled => ?_
              unfold askOn
              split_ifs
              · exact later
              · exact steady_pure settled

end Resolvers

section FirstParts

variable {part : Part} {arguments : List Json} {scene : Scene}

variable (repeatable : evaluator.Repeatable among services)

include repeatable

/-- At the root a property is an explicit value, a computed binding, or asked of
the resolvers: the same again, since the explicit values and the cells under
keys are the same. -/
theorem steady_lookupRoot
    (expression : Expression) (part : Part) (arguments : List Json) :
    watch.Steady (evaluator.lookupScopes expression part arguments [])
      ((evaluator.renewed services suppliers).lookupScopes expression part
        arguments []) := by
  have asked : watch.Steady
      (evaluator.ask expression (evaluator.request part arguments .null true)
        evaluator.engine.resolvers)
      ((evaluator.renewed services suppliers).ask expression
        ((evaluator.renewed services suppliers).request part arguments
          .null true)
        evaluator.engine.resolvers) :=
    steady_ask repeatable repeatable.consistent.resolvers part arguments
      .null true
  cases property : part.isMethod with
  | true =>
      rw [lookupScopes_method property, lookupScopes_method property]
      exact asked
  | false =>
      intro scene sound
      cases found : scene.data.get? part.name with
      | some value =>
          rw [lookupScopes_explicit property found]
          refine Starts.recalled_congr sound (fun scene' same => ?_)
            (steady_pure (Settled.value value) scene sound)
          exact lookupScopes_explicit property
            ((RenderData.get?_of_bound same _).trans found)
      | none =>
          cases bound : scene.data.cell? part.name with
          | none =>
              rw [lookupScopes_unbound property found bound]
              refine Starts.recalled_congr sound (fun scene' same => ?_)
                (asked scene sound)
              exact lookupScopes_unbound property
                ((RenderData.get?_of_bound same _).trans found)
                ((RenderData.cell?_of_bound same _).trans bound)
          | some cell =>
              rw [lookupScopes_bound property found bound]
              refine Starts.recalled_congr sound (fun scene' same => ?_)
                (steady_lookupComputed expression
                  (repeatable.writeNothing cell.supplier)
                  (evaluator.renewed services suppliers) scene sound)
              exact lookupScopes_bound property
                ((RenderData.get?_of_bound same _).trans found)
                ((RenderData.cell?_of_bound same _).trans bound)

/-- A lookup through the scopes is steady. -/
theorem steady_lookupScopes
    (expression : Expression) (part : Part) (arguments : List Json)
    (scopes : List (Dictionary Json)) :
    watch.Steady (evaluator.lookupScopes expression part arguments scopes)
      ((evaluator.renewed services suppliers).lookupScopes expression part
        arguments scopes) := by
  induction scopes with
  | nil => exact steady_lookupRoot repeatable expression part arguments
  | cons bindings outer ih =>
      cases absent :
          (if part.isMethod then none else bindings.get? part.name) with
      | some value =>
          have here : ∀ evaluator : Evaluator,
              evaluator.lookupScopes expression part arguments
                (bindings :: outer) =
                fun scene => (.ready (.ok (.value value)), scene) := by
            intro evaluator
            funext scene
            rw [lookupScopes, absent]
          rw [here, here]
          exact steady_pure (Settled.value value)
      | none =>
          rw [lookupScopes_cons absent, lookupScopes_cons absent]
          refine (steady_ask repeatable repeatable.consistent.resolvers part
            arguments _ true).bind
            fun settled => ?_
          split_ifs
          · exact ih
          · exact steady_pure settled

theorem steady_resolvePart
    (scopes : List (Dictionary Json)) (expression : Expression) (part : Part)
    (arguments : List Json) (base : Option Json) :
    watch.Steady (evaluator.resolvePart scopes expression part arguments base)
      ((evaluator.renewed services suppliers).resolvePart scopes expression part
        arguments base) := by
  cases base with
  | some base =>
      exact steady_ask repeatable repeatable.consistent.resolvers part arguments
        base false
  | none =>
      unfold Evaluator.resolvePart Evaluator.resolveFirst
      cases expression.qualifier with
      | none =>
          exact steady_lookupScopes repeatable expression part arguments scopes
      | some qualifier =>
          dsimp only [renewed]
          cases found : evaluator.engine.namespaces.get? qualifier with
          | none => exact steady_failure _ _
          | some chain =>
              exact steady_ask repeatable
                (repeatable.consistent.namespaces qualifier chain found) part
                arguments .null true

end FirstParts

section Expressions

mutual

/-- An expression that is evaluated again gives what it gave. -/
theorem steady_evaluate
    (repeatable : evaluator.Repeatable among services)
    (scopes : List (Dictionary Json)) (expression : Expression) :
    watch.Steady (evaluator.evaluate scopes expression)
      ((evaluator.renewed services suppliers).evaluate scopes expression) := by
  match expression with
  | .mk qualifier parts constant origin =>
      cases literal :
          (Expression.mk qualifier parts constant origin).literalValue? with
      | some value =>
          rw [evaluate_literal literal, evaluate_literal literal]
          exact steady_pure (Settled.value value)
      | none =>
          rw [evaluate_path literal, evaluate_path literal]
          exact steady_evaluateParts repeatable scopes _ none parts

/-- Evaluating parts is steady. -/
theorem steady_evaluateParts
    (repeatable : evaluator.Repeatable among services)
    (scopes : List (Dictionary Json))
    (expression : Expression) (base : Option Json) (parts : List Part) :
    watch.Steady (evaluator.evaluateParts scopes expression base parts)
      ((evaluator.renewed services suppliers).evaluateParts scopes expression
        base parts) := by
  match parts with
  | [] =>
      rw [evaluateParts_nil, evaluateParts_nil]
      exact steady_pure Settled.notFound
  | part :: rest =>
      rw [evaluateParts_cons, evaluateParts_cons]
      refine (Steady.joinEach (steady_arguments repeatable scopes part)).bind
        fun values => ?_
      refine (steady_resolvePart repeatable scopes expression part values
        base).bind fun settled => ?_
      unfold goOn
      split_ifs
      · exact steady_pure settled
      · exact steady_evaluateParts repeatable scopes expression _ rest

theorem steady_arguments
    (repeatable : evaluator.Repeatable among services)
    (scopes : List (Dictionary Json)) (part : Part) :
    List.Forall₂ watch.Steady (evaluator.argumentPrograms scopes part.arguments)
      ((evaluator.renewed services suppliers).argumentPrograms scopes
        part.arguments) := by
  match part with
  | .property _ => exact .nil
  | .method _ arguments => exact steady_evaluateAll repeatable scopes arguments

theorem steady_evaluateAll
    (repeatable : evaluator.Repeatable among services)
    (scopes : List (Dictionary Json)) (expressions : List Expression) :
    List.Forall₂ watch.Steady (evaluator.argumentPrograms scopes expressions)
      ((evaluator.renewed services suppliers).argumentPrograms scopes
        expressions) := by
  match expressions with
  | [] => exact .nil
  | expression :: rest =>
      exact .cons
        ((steady_evaluate repeatable scopes expression).map Settled.toValue)
        (steady_evaluateAll repeatable scopes rest)

end

end Expressions

section Templates

/-- Starting a node is steady. -/
theorem steady_startNode
    (repeatable : evaluator.Repeatable among services) (node : TemplateNode) :
    watch.Steady (evaluator.startNode node)
      ((evaluator.renewed services suppliers).startNode node) := by
  cases node with
  | text text => exact steady_pure (ResultNode.constant text)
  | placeholder expression =>
      have evaluated : watch.Steady (evaluator.evaluate [] expression)
          ((evaluator.renewed services suppliers).evaluate [] expression) :=
        steady_evaluate repeatable [] expression
      refine (evaluated.prepared (Scene.data_log (.resolveStarted expression))
        (Scene.data_log (.resolveStarted expression))).bind fun settled => ?_
      exact (steady_pure (settled.toNode expression)).prepared
        (Scene.data_log _) (Scene.data_log _)

theorem steady_startNodes
    (repeatable : evaluator.Repeatable among services)
    (nodes : List TemplateNode) :
    List.Forall₂ watch.Steady (nodes.map evaluator.startNode)
      (nodes.map (evaluator.renewed services suppliers).startNode) := by
  induction nodes with
  | nil => exact .nil
  | cons node rest ih => exact .cons (steady_startNode repeatable node) ih

/-- Stateless mappers write the same text again. -/
theorem steady_write
    (repeatable : evaluator.Repeatable among services)
    (results : List ResultNode) :
    watch.Steady (evaluator.write results)
      ((evaluator.renewed services suppliers).write results) := by
  have settles : ∀ again : Evaluator, again.engine = evaluator.engine →
      Settles (again.write results)
        ((Mapper.writeAll evaluator.engine.config evaluator.engine.mappers ""
          results default).1.mapError
          .render) := by
    intro again same
    refine ⟨fun _ => rfl, fun _ => trivial, fun scene => ?_⟩
    rw [Evaluator.write, same]
    exact congrArg (Except.mapError EngineError.render)
      (Mapper.writeAll_stateless _ repeatable.consistent.mappers "" results
        scene.engine default)
  exact (settles evaluator rfl).steady (settles _ rfl)

/-- A template that is rendered again gives the text that it gave. -/
theorem Repeatable.steady_renderTemplate
    (repeatable : evaluator.Repeatable among services) (watch : Watch)
    (template : Template) :
    watch.Steady (evaluator.renderTemplate template)
      ((evaluator.renewed services suppliers).renderTemplate template) := by
  have programs : ∀ evaluator : Evaluator,
      evaluator.renderTemplate template = fun scene =>
        (Program.joinEach (template.nodes.map evaluator.startNode)).bind
          evaluator.write
          (scene.log (.renderingTemplate template.id)) := by
    intro evaluator
    funext scene
    rw [renderTemplate, startNodes_eq]
    rfl
  rw [programs, programs]
  refine Steady.prepared (Scene.data_log _) (Scene.data_log _) ?_
  exact (Steady.joinEach (steady_startNodes repeatable template.nodes)).bind
    (steady_write repeatable)

end Templates

end Evaluator

end Phrasebook
