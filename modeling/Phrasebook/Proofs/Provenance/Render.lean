import Phrasebook.Bundle.Resolver
import Phrasebook.Proofs.Comparison.Render
import Phrasebook.Proofs.Provenance.Evaluation

/-!
# Where failures of renders arise

A run is the evaluation of an expression or a render, polled in certain states.
It fails with an error when these polls have led to it, and then there is one
thing to blame in this run: an expression that its template or its arguments
lead to, or the writing of the results.

When a call of a message is to blame, the run leads to another one: the render
of the template of the message, with the arguments of the call as its data, from
the state in which the message was called, and polled when the call was.  That
run fails with the very same error.  So the error of a run is the one that arose
at the end of such a chain, however deep, and it carries the text and the origin
of the expression that is to blame there, unless a resolver or a supplier of its
own making hands over the error of some other expression.
-/

namespace Phrasebook

open Completion (CanEndIn InStep StartInStep ResultsAgree PartsAgree BothAgree)

namespace Evaluator

variable (evaluator : Evaluator)

namespace Blaming

def startNode (node : TemplateNode) (scene : Scene) :
    Reasoned Scene ResultNode × Scene :=
  match node with
  | .text text => (.ready (.ok (.constant text)), scene)
  | .placeholder expression =>
    let evaluated :=
      evaluate evaluator [] expression (scene.log (.resolveStarted expression))
    evaluated.1.andThen (fun settled scene =>
      (.ready (.ok (settled.toNode expression)),
        scene.log (.resolveCompleted expression (!settled.isNotFound))))
        evaluated.2

def startNodes (nodes : List TemplateNode) (scene : Scene) :
    List (Reasoned Scene ResultNode) × Scene :=
  match nodes with
  | [] => ([], scene)
  | node :: rest =>
    let first := startNode evaluator node scene
    let others := startNodes rest first.2
    (first.1 :: others.1, others.2)

def write (results : List ResultNode) (scene : Scene) :
    Reasoned Scene String × Scene :=
  let written :=
    Mapper.writeAll evaluator.engine.config evaluator.engine.mappers "" results
      scene.engine
  (.ready (written.1.mapError (Blame.unwritten results scene.engine)),
    { scene with engine := written.2 })

/-- Renders a template against the data of a scene. -/
def renderTemplate (template : Template) (scene : Scene) :
    Reasoned Scene String × Scene :=
  let started :=
    startNodes evaluator template.nodes
      (scene.log (.renderingTemplate template.id))
  let joined := Completion.all started.1 started.2
  joined.1.andThen (write evaluator) joined.2

end Blaming

/-- What the render of a template is blamed for is so: for a placeholder, or for
the results that it could not write. -/
inductive JustifiedRender (template : Template) : Blame → Prop
  | placeholder {expression : Expression} {blame : Blame}
      (member : expression ∈ template.expressions)
      (justified : evaluator.JustifiedIn expression blame) :
      JustifiedRender template blame
  | unwritten {results : List ResultNode} {state : EngineState}
      {error : ResolutionError}
      (writes :
        (Mapper.writeAll evaluator.engine.config evaluator.engine.mappers ""
          results state).1 =
        .error error) :
      JustifiedRender template (.unwritten results state error)

variable {evaluator}

namespace Blaming

theorem startNode_explains (node : TemplateNode) (scene : Scene) :
    Explains (fun blame => ∃ expression, node.expression? = some expression ∧
        evaluator.JustifiedIn expression blame)
      (startNode evaluator node scene) (evaluator.startNode node scene) := by
  cases node with
  | text text => exact .value _ scene
  | placeholder expression =>
      have evaluated :=
        @evaluate_explains evaluator [] expression
          (scene.log (.resolveStarted expression))
      refine Explains.mono (evaluated.andThen fun _ _ => .value _ _) ?_
      exact fun _ justified => ⟨expression, rfl, justified⟩

theorem startNodes_explain (nodes : List TemplateNode) (scene : Scene) :
    Explains.All (fun blame =>
      ∃ expression ∈ nodes.filterMap TemplateNode.expression?,
        evaluator.JustifiedIn expression blame)
      (startNodes evaluator nodes scene)
      (evaluator.startNodes nodes scene) := by
  induction nodes generalizing scene with
  | nil => exact .nil scene
  | cons node rest ih =>
      have first := @startNode_explains evaluator node scene
      have others := ih (startNode evaluator node scene).2
      rw [startNodes, Evaluator.startNodes]
      rw [first.inStep.states] at others ⊢
      refine Explains.All.cons (first.mono ?_) (others.mono ?_)
      · rintro blame ⟨expression, read, justified⟩
        exact ⟨expression,
          List.mem_filterMap.mpr ⟨node, List.mem_cons_self, read⟩, justified⟩
      · rintro blame ⟨expression, member, justified⟩
        rcases List.mem_filterMap.mp member with ⟨other, among, read⟩
        exact ⟨expression,
          List.mem_filterMap.mpr ⟨other, List.mem_cons_of_mem _ among, read⟩,
            justified⟩

theorem write_explains
    (template : Template) (results : List ResultNode) (scene : Scene) :
    Explains (evaluator.JustifiedRender template)
      (write evaluator results scene)
      (evaluator.write results scene) := by
  have justified :=
    @JustifiedRender.unwritten evaluator template results scene.engine
  rw [write, Evaluator.write]
  revert justified
  generalize Mapper.writeAll evaluator.engine.config evaluator.engine.mappers ""
    results scene.engine = written
  rcases written with ⟨error | text, after⟩
  · exact fun justified => .failure (justified rfl) _
  · exact fun _ => .value text _

theorem renderTemplate_explains (template : Template) (scene : Scene) :
    Explains (evaluator.JustifiedRender template)
      (renderTemplate evaluator template scene)
      (evaluator.renderTemplate template scene) := by
  have started :=
    @startNodes_explain evaluator template.nodes
      (scene.log (.renderingTemplate template.id))
  have inside : ∀ blame,
      (∃ expression ∈ template.nodes.filterMap TemplateNode.expression?,
      evaluator.JustifiedIn expression blame) →
      evaluator.JustifiedRender template blame := by
    rintro blame ⟨expression, member, justified⟩
    exact .placeholder member justified
  exact (started.mono inside).join.andThen fun results scene =>
    write_explains template results scene

end Blaming

end Evaluator

namespace Engine

variable (engine : Engine)

def evaluator (depth : Nat) (suppliers : Suppliers) : Evaluator :=
  ⟨engine, engine.services depth, suppliers⟩

namespace Blaming

/-- Renders an instance and fires its callbacks on success. -/
def renderInstance (services : Services) (whole : Instance × EngineState) :
    Reasoned (Instance × EngineState) String × (Instance × EngineState) :=
  let evaluator : Evaluator := ⟨engine, services, whole.1.bindings.suppliers⟩
  let rendered :=
    Evaluator.Blaming.renderTemplate evaluator whole.1.template (sceneOf whole)
  (rendered.1.within sceneOf withScene).andThen
    (fun text whole => (.ready (.ok text), whole.1.fire whole.2))
    (withScene rendered.2 whole)

/-- A template rendered in a new instance with the given data. -/
def renderNested
    (services : Services) (template : Template) (values : List (String × Json))
    (state : EngineState) : Reasoned EngineState String × EngineState :=
  let made := engine.prepared template values state
  (((Completion.deferred (renderInstance engine services)).enclosed
    made.1).mapResult Prod.fst, made.2)

variable {engine}

theorem renderInstance_explains
    (services : Services) (whole : Instance × EngineState) :
    Explains
      (Evaluator.JustifiedRender ⟨engine, services, whole.1.bindings.suppliers⟩
        whole.1.template)
      (renderInstance engine services whole)
      (engine.renderInstance services whole) := by
  have rendered := @Evaluator.Blaming.renderTemplate_explains
    ⟨engine, services, whole.1.bindings.suppliers⟩ whole.1.template
      (sceneOf whole)
  have parts : PartsAgree sceneOf withScene Eq Eq := by
    constructor
    · rintro whole _ rfl
      rfl
    · rintro scene _ whole _ rfl rfl
      rfl
  have inWhole : Explains
      (Evaluator.JustifiedRender ⟨engine, services, whole.1.bindings.suppliers⟩
        whole.1.template)
      (_, withScene _ whole) (_, withScene _ whole) :=
    { inStep :=
        ⟨rendered.inStep.completions.within parts,
          congrArg (withScene · whole) rendered.inStep.states⟩
      justified := fun blame fails =>
        rendered.justified blame (Completion.canEndIn_within fails) }
  exact inWhole.andThen fun text whole => .value text (whole.1.fire whole.2)

theorem bothAgree_eq
    {κ σ : Type} : (BothAgree Eq Eq : κ × σ → κ × σ → Prop) = Eq := by
  funext whole whole'
  rw [BothAgree, Prod.ext_iff]

/-- A nested render is a render of the instance that is made for it. -/
theorem renderNested_explains
    (services : Services) (template : Template) (values : List (String × Json))
    (state : EngineState) :
    let target := (engine.prepared template values state).1
    Explains
      (Evaluator.JustifiedRender ⟨engine, services, target.bindings.suppliers⟩
        target.template)
      (renderNested engine services template values state)
      (engine.renderNested services template values state) where
  inStep := by
    refine ⟨?_, rfl⟩
    have starts : InStep (BothAgree Eq Eq) (ResultsAgree Blame.Tells Eq)
        (Completion.deferred (renderInstance engine services))
        (Completion.deferred (engine.renderInstance services)) := by
      rw [bothAgree_eq]
      refine Completion.inStep_deferred ?_
      rintro whole _ rfl
      exact (renderInstance_explains services whole).inStep
    exact (starts.enclosed rfl).mapResult fun _ _ agree => agree.1
  justified := by
    intro blame fails
    rcases Completion.canEndIn_mapResult fails with ⟨⟨_, last⟩, ends, rfl⟩
    rcases Completion.canEndIn_enclosed_deferred ends with ⟨after, fails⟩
    exact (renderInstance_explains services (_, after)).justified blame fails

end Blaming

/-- A run: the evaluation of an expression in a stack of scopes, the render of
an instance, or a render of a template that resolvers and suppliers ask for.
`depth` says how many more renders may nest in it; the polls are the states in
which it is polled, after its first state for the render of an instance. -/
inductive Run where
  | evaluation (depth : Nat) (suppliers : Suppliers)
      (scopes : List (Dictionary Json))
      (expression : Expression) (scene : Scene) (polls : List Scene)
  | render (depth : Nat) (target : Instance) (state : EngineState)
      (polls : List (Instance × EngineState))
  | nested (depth : Nat) (template : Template) (values : List (String × Json))
      (state : EngineState) (polls : List EngineState)

/-- The polls of a run have led to an error. -/
def FailsWith : Run → EngineError → Prop
  | .evaluation depth suppliers scopes expression scene polls, error =>
    ((engine.evaluator depth suppliers).evaluate scopes expression
      scene).1.polledAt polls =
      .ready (.error error)
  | .render depth target state polls, error =>
    (Completion.deferred
      (engine.renderInstance (engine.services depth))).polledAt
      ((target, state) :: polls) =
      .ready (.error error)
  | .nested depth template values state polls, error =>
    ((engine.services (depth + 1)).nested template values state).1.polledAt
      polls = .ready (.error error)

/-- What is to blame for the failure of a run: the reason to which the same
polls lead when reasons are given. -/
def Blames : Run → Blame → Prop
  | .evaluation depth suppliers scopes expression scene polls, blame =>
    (Evaluator.Blaming.evaluate (engine.evaluator depth suppliers) scopes
      expression scene).1.polledAt polls =
      .ready (.error blame)
  | .render depth target state polls, blame =>
    (Completion.deferred
      (Blaming.renderInstance engine (engine.services depth))).polledAt
      ((target, state) :: polls) = .ready (.error blame)
  | .nested depth template values state polls, blame =>
    (Blaming.renderNested engine (engine.services depth) template values
      state).1.polledAt polls =
      .ready (.error blame)

/-- The number of renders that may nest in a run. -/
def Run.depth : Run → Nat
  | .evaluation depth _ _ _ _ _ | .render depth _ _ _ | .nested depth _ _ _ _ =>
    depth

/-- The evaluator of a run. -/
def evaluatorOf : Run → Evaluator
  | .evaluation depth suppliers _ _ _ _ => engine.evaluator depth suppliers
  | .render depth target _ _ => engine.evaluator depth target.bindings.suppliers
  | .nested depth template values state _ =>
    engine.evaluator depth
      (engine.prepared template values state).1.bindings.suppliers

/-- What a run is blamed for is so. -/
def Justifies (run : Run) (blame : Blame) : Prop :=
  match run with
  | .evaluation _ _ _ expression _ _ =>
    (engine.evaluatorOf run).JustifiedIn expression blame
  | .render _ target _ _ =>
    (engine.evaluatorOf run).JustifiedRender target.template blame
  | .nested _ template values state _ =>
    (engine.evaluatorOf run).JustifiedRender
      (engine.prepared template values state).1.template blame

/-- One run leads to another one: a call of a message is to blame, and the other
run is the render of its template in this call. -/
inductive Leads : Run → Run → Prop
  | message {run : Run} {expression : Expression} {bundle : Bundle}
      {message : Message} {request : Request} {scene : Scene}
      {polls : List Scene} {error : EngineError} {depth : Nat} {id : String}
      {template : Template}
      (blames : engine.Blames run
        (.answered expression
          (.resolver bundle.namespaceResolver.resolver request scene)
          polls error))
      (services : request.services = engine.services (depth + 1))
      (called : bundle.byMethod? request.part.name = some message)
      (counted : request.arguments.length = message.parameters.length)
      (body : message.body (Bundle.sceneLocale scene) = .template id)
      (registered : scene.engine.registry.get id = .ok template) :
      Leads run
        (.nested depth template
          (message.data (Bundle.sceneLocale scene) request.arguments)
          scene.engine
          (polls.map Scene.engine))

end Engine

namespace Evaluator

/-- Something to blame for an error that has arisen here: an unregistered
namespace, a foreign handle that is not allowed, a cause that is not the error
of an expression yet, or one that already is and does not come from a message;
or the results of a render that could not be written. -/
inductive Original (evaluator : Evaluator) : Blame → Prop
  | unregistered {expression : Expression} {qualifier : String}
      (qualified : expression.qualifier = some qualifier)
      (unknown : evaluator.engine.namespaces.get? qualifier = none) :
      Original evaluator (.unregistered expression qualifier)
  | foreign {expression : Expression} {question : Question}
      {answer : Resolved Scene} {polls : List Scene}
      (answers : evaluator.Answers expression question answer)
      (runs : answer.RunsInto evaluator.engine.config.unrestrictedAsyncValues
        .foreign polls) :
      Original evaluator
        (.answered expression question polls
          (.render (.of .foreignAsyncValue expression)))
  | untagged {expression : Expression} {question : Question}
      {answer : Resolved Scene} {polls : List Scene}
      {cause : Cause} (answers : evaluator.Answers expression question answer)
      (runs : answer.RunsInto evaluator.engine.config.unrestrictedAsyncValues
        (.failed cause) polls)
      (untagged : cause.error? = none) :
      Original evaluator
        (.answered expression question polls
          (.render (.of (.resolverFailure cause) expression)))
  | tagged {expression : Expression} {question : Question}
      {answer : Resolved Scene} {polls : List Scene}
      {cause : Cause} {error : EngineError}
      (answers : evaluator.Answers expression question answer)
      (runs : answer.RunsInto evaluator.engine.config.unrestrictedAsyncValues
        (.failed cause) polls)
      (tagged : cause.error? = some error)
      (noMessage : ∀ (bundle : Bundle) request scene,
        question ≠ .resolver bundle.namespaceResolver.resolver request scene) :
      Original evaluator (.answered expression question polls error)
  | unwritten {results : List ResultNode} {state : EngineState}
      {error : ResolutionError}
      (writes :
        (Mapper.writeAll evaluator.engine.config evaluator.engine.mappers ""
          results state).1 =
        .error error) :
      Original evaluator (.unwritten results state error)

end Evaluator

section Messages

/-- What the answer of a finished render runs into is the error that the same
polls of the render lead to. -/
theorem Resolved.runsInto_ofRender
    {render : Evaluation EngineState String} {unrestricted : Bool}
    {fault : Fault} {polls : List Scene}
    (runs : (Resolved.ofRender render).RunsInto unrestricted fault polls) :
    ∃ error, fault = .failed (.engine error) ∧
      render.polledAt (polls.map Scene.engine) = .ready (.error error) := by
  cases runs with
  | pending arrives inside =>
      have ended := arrives.polledAt
      rw [Completion.polledAt_mapResult, Completion.polledAt_within] at ended
      cases polled : render.polledAt (polls.map Scene.engine) with
      | pending advance release =>
          rw [polled, Completion.within, Completion.mapResult] at ended
          cases ended
      | ready result =>
          rw [polled, Completion.within, Completion.mapResult] at ended
          cases result with
          | ok text =>
              cases ended
              cases inside
          | error error =>
              cases ended
              cases inside with
              | failed _ _ same => exact ⟨error, same, rfl⟩

/-- The answer to the call of a message that has a template, with the right
number of arguments. -/
theorem Bundle.resolve_template
    {bundle : Bundle} {message : Message} {request : Request} {scene : Scene}
    {id : String} {template : Template}
    (called : bundle.byMethod? request.part.name = some message)
    (counted : request.arguments.length = message.parameters.length)
    (body : message.body (Bundle.sceneLocale scene) = .template id)
    (registered : scene.engine.registry.get id = .ok template) :
    (bundle.resolve request scene).1 =
      some (.ofRender (request.services.nested template
        (message.data (Bundle.sceneLocale scene) request.arguments)
          scene.engine).1) := by
  simp [Bundle.resolve, called, counted, Bundle.callMessage, body, registered]

/-- When a call of a message runs into the error of an expression, the message
has a template, and the call stands for its render. -/
theorem Bundle.template_of_resolve
    {bundle : Bundle} {request : Request} {scene : Scene}
    {answer : Resolved Scene} {unrestricted : Bool}
    {cause : Cause} {error : EngineError} {polls : List Scene}
    (said : (bundle.resolve request scene).1 = some answer)
    (runs : answer.RunsInto unrestricted (.failed cause) polls)
    (tagged : cause.error? = some error) :
    ∃ message id template,
      bundle.byMethod? request.part.name = some message ∧
        request.arguments.length = message.parameters.length ∧
          message.body (Bundle.sceneLocale scene) = .template id ∧
            scene.engine.registry.get id = .ok template := by
  rw [Bundle.resolve] at said
  cases found : bundle.byMethod? request.part.name with
  | none => simp [found] at said
  | some message =>
      rw [found] at said
      dsimp only at said
      split_ifs at said with arity
      · cases said
        cases runs with
        | failed _ _ same =>
            cases same
            cases tagged
      · rw [Bundle.callMessage] at said
        cases body : message.body (Bundle.sceneLocale scene) with
        | constant text =>
            rw [body] at said
            cases said
            cases runs
        | template id =>
            rw [body] at said
            dsimp only at said
            cases registered : scene.engine.registry.get id with
            | error missing =>
                rw [registered] at said
                cases said
                have unknown : missing = .templateNotFound id := by
                  rw [Registry.get] at registered
                  split at registered <;> simp_all
                cases runs with
                | failed _ _ same =>
                    cases same
                    rw [unknown] at tagged
                    cases tagged
            | ok template =>
                exact ⟨message, id, template, rfl, not_not.mp arity, body,
                  registered⟩

end Messages

namespace Engine

variable {engine : Engine} {run later : Run} {blame : Blame}
  {error : EngineError}

/-- A run fails with an error when something is to blame for it. -/
theorem failsWith_iff (run : Run) (error : EngineError) :
    engine.FailsWith run error ↔ ∃ blame, engine.Blames run blame ∧
      blame.error = error := by
  cases run with
  | evaluation depth suppliers scopes expression scene polls =>
      exact
        (Evaluator.Blaming.evaluate_explains scopes expression
          scene).polledAt_iff polls error
  | render depth target state polls =>
      have started :=
        (@Blaming.renderInstance_explains engine (engine.services depth)
          (target, state)).poll
      exact started.polledAt_iff polls error
  | nested depth template values state polls =>
      exact
        (Blaming.renderNested_explains (engine.services depth) template values
          state).polledAt_iff polls error

/-- What is to blame for the failure of a run is so. -/
theorem justifies_of_blames (blames : engine.Blames run blame) :
    engine.Justifies run blame := by
  cases run with
  | evaluation depth suppliers scopes expression scene polls =>
      exact
        (Evaluator.Blaming.evaluate_explains scopes expression scene).justified
        blame
        (Completion.canEndIn_of_polledAt blames)
  | render depth target state polls =>
      have started :=
        (@Blaming.renderInstance_explains engine (engine.services depth)
          (target, state)).poll
      exact started.justified blame (Completion.canEndIn_of_polledAt blames)
  | nested depth template values state polls =>
      exact
        (Blaming.renderNested_explains (engine.services depth) template values
          state).justified blame
        (Completion.canEndIn_of_polledAt blames)

/-- One thing is to blame for the failure of a run. -/
theorem blames_unique
    {blame' : Blame} (blames : engine.Blames run blame)
    (blames' : engine.Blames run blame') :
    blame' = blame := by
  cases run with
  | evaluation | render | nested =>
      have same := blames'.symm.trans blames
      rwa [Completion.ready.injEq, Except.error.injEq] at same

/-- What is so of a run is so of one of its expressions, or its results could
not be written. -/
theorem Justifies.cases (justifies : engine.Justifies run blame) :
    (∃ expression, (engine.evaluatorOf run).Justified expression blame) ∨
      ∃ results state error, blame = .unwritten results state error ∧
        (Mapper.writeAll (engine.evaluatorOf run).engine.config
          (engine.evaluatorOf run).engine.mappers ""
          results state).1 = .error error := by
  cases run with
  | evaluation depth suppliers scopes expression scene polls =>
      rcases justifies with ⟨inner, -, justified⟩
      exact .inl ⟨inner, justified⟩
  | render | nested =>
      rcases justifies with ⟨-, inner, -, justified⟩ | writes
      · exact .inl ⟨inner, justified⟩
      · exact .inr ⟨_, _, _, rfl, writes⟩

theorem services_evaluatorOf (run : Run) :
    (engine.evaluatorOf run).services = engine.services run.depth := by
  cases run <;> rfl

/-- The error of a run is handed on as it is by every expression. -/
theorem error?_of_failsWith (fails : engine.FailsWith run error) :
    (Cause.engine error).error? = some error := by
  rcases (failsWith_iff run error).mp fails with ⟨blame, blames, rfl⟩
  rcases (justifies_of_blames blames).cases with
    ⟨expression, justified⟩ | ⟨results, state, error, rfl, -⟩
  · cases justified with
    | unregistered => rfl
    | answered answers runs => exact Fault.error?_error _ _
  · rfl

/-- The run that a run leads to fails with the very same error. -/
theorem Leads.failsWith
    (leads : engine.Leads run later) (fails : engine.FailsWith run error) :
    engine.FailsWith later error := by
  rcases (failsWith_iff run error).mp fails with ⟨blame, blames', rfl⟩
  cases leads with
  | message blames services called counted body registered =>
      obtain rfl := blames_unique blames blames'
      rcases (justifies_of_blames blames).cases with
        ⟨_, justified⟩ | ⟨_, _, _, impossible, -⟩
      · cases justified with
        | answered answers runs =>
            cases answers with
            | resolver arguments base topLevel scene known asks said =>
                have rendered :=
                  Bundle.resolve_template called counted body registered
                obtain rfl := Option.some.inj (said.symm.trans rendered)
                rcases Resolved.runsInto_ofRender runs with ⟨inner, rfl, polled⟩
                rw [services] at polled
                have later : engine.FailsWith (.nested _ _ _ _ _) inner :=
                  polled
                have same :=
                  EngineError.ofCause_of_error? (error?_of_failsWith later)
                rw [Blame.error, Fault.error, same]
                exact later
      · cases impossible

/-- The error of every run at a depth has arisen at the end of a chain of
runs. -/
def ArisesAt (engine : Engine) (depth : Nat) : Prop :=
  ∀ run blame, run.depth = depth → engine.Blames run blame →
    ∃ origin reason, Relation.ReflTransGen engine.Leads run origin ∧
      engine.Blames origin reason ∧
      reason.error = blame.error ∧ (engine.evaluatorOf origin).Original reason

theorem arises_here
    (blames : engine.Blames run blame)
    (original : (engine.evaluatorOf run).Original blame) :
    ∃ origin reason, Relation.ReflTransGen engine.Leads run origin ∧
      engine.Blames origin reason ∧
      reason.error = blame.error ∧
        (engine.evaluatorOf origin).Original reason :=
  ⟨run, blame, .refl, blames, rfl, original⟩

/-- A call of a message that hands over the error of an expression leads to the
render of the message. -/
theorem exists_leads
    {expression : Expression} {bundle : Bundle} {request : Request}
    {scene : Scene} {polls : List Scene}
    {answer : Resolved Scene} {cause : Cause} {unrestricted : Bool}
    (blames : engine.Blames run
      (.answered expression
        (.resolver bundle.namespaceResolver.resolver request scene)
        polls error))
    (services : request.services = engine.services run.depth)
    (said : (bundle.resolve request scene).1 = some answer)
    (runs : answer.RunsInto unrestricted (.failed cause) polls)
    (tagged : cause.error? = some error) :
    ∃ later, engine.Leads run later ∧ later.depth + 1 = run.depth := by
  rcases Bundle.template_of_resolve said runs tagged with
    ⟨message, id, template, called, counted, body, registered⟩
  have rendered := Bundle.resolve_template called counted body registered
  obtain rfl := Option.some.inj (said.symm.trans rendered)
  rcases Resolved.runsInto_ofRender runs with ⟨inner, same, polled⟩
  cases same
  cases below : run.depth with
  | zero =>
      rw [services, below, Engine.services, Completion.polledAt_ready] at polled
      cases polled
      cases tagged
  | succ depth =>
      rw [below] at services
      exact ⟨_, .message blames services called counted body registered, rfl⟩

theorem arises_of_message
    {expression : Expression} {bundle : Bundle} {request : Request}
    {scene : Scene} {polls : List Scene}
    {answer : Resolved Scene} {cause : Cause}
    (below : ∀ depth, run.depth = depth + 1 → engine.ArisesAt depth)
    (blames : engine.Blames run
      (.answered expression
        (.resolver bundle.namespaceResolver.resolver request scene)
        polls error))
    (answers : (engine.evaluatorOf run).Answers expression
      (.resolver bundle.namespaceResolver.resolver request scene) answer)
    (runs :
      answer.RunsInto
        (engine.evaluatorOf run).engine.config.unrestrictedAsyncValues
        (.failed cause)
      polls)
    (tagged : cause.error? = some error) :
    ∃ origin reason, Relation.ReflTransGen engine.Leads run origin ∧
      engine.Blames origin reason ∧
      reason.error = error ∧ (engine.evaluatorOf origin).Original reason := by
  cases answers with
  | resolver arguments base topLevel scene known asks said =>
      rcases exists_leads blames (services_evaluatorOf run) said runs
        tagged with ⟨later, leads, deeper⟩
      have fails : engine.FailsWith run error :=
        (failsWith_iff run error).mpr ⟨_, blames, rfl⟩
      rcases (failsWith_iff later error).mp (leads.failsWith fails) with
        ⟨reason, found, rfl⟩
      rcases below later.depth deeper.symm later reason rfl found with
        ⟨origin, first, chain, arises⟩
      exact ⟨origin, first, .head leads chain, arises⟩

/-- One level: an error arises where it is met, or below. -/
theorem arises_of_blames
    (below : ∀ depth, run.depth = depth + 1 → engine.ArisesAt depth)
    (blames : engine.Blames run blame) :
    ∃ origin reason, Relation.ReflTransGen engine.Leads run origin ∧
      engine.Blames origin reason ∧
      reason.error = blame.error ∧
        (engine.evaluatorOf origin).Original reason := by
  rcases (justifies_of_blames blames).cases with
    ⟨expression, justified⟩ | ⟨results, state, error, rfl, writes⟩
  · cases justified with
    | unregistered qualified unknown =>
        exact arises_here blames (.unregistered qualified unknown)
    | @answered question answer polls fault answers runs =>
        cases fault with
        | foreign => exact arises_here blames (.foreign answers runs)
        | failed cause =>
            rw [Fault.error] at blames ⊢
            cases tagged : cause.error? with
            | none =>
                rw [EngineError.ofCause_of_error?_none tagged] at blames ⊢
                exact arises_here blames (.untagged answers runs tagged)
            | some error =>
                rw [EngineError.ofCause_of_error? tagged] at blames ⊢
                by_cases called :
                  ∃ (bundle : Bundle) (request : Request) (scene : Scene),
                  question =
                    .resolver bundle.namespaceResolver.resolver request scene
                · rcases called with ⟨bundle, request, scene, rfl⟩
                  exact arises_of_message below blames answers runs tagged
                · refine arises_here blames
                    (.tagged answers runs tagged fun bundle request scene
                      same => ?_)
                  exact called ⟨bundle, request, scene, same⟩
  · exact arises_here blames (.unwritten writes)

/-- The induction is on the number of renders that may nest. -/
theorem arisesAt (engine : Engine) (depth : Nat) : engine.ArisesAt depth := by
  induction depth with
  | zero =>
      intro run blame nested blames
      exact arises_of_blames (fun _ deeper =>
        nomatch nested.symm.trans deeper) blames
  | succ depth ih =>
      intro run blame nested blames
      refine arises_of_blames (fun below deeper => ?_) blames
      obtain rfl := Nat.succ.inj (nested.symm.trans deeper)
      exact ih

/-- A render starts with the services of the state that it finds. -/
theorem polledAt_render
    (target : Instance) (state : EngineState)
    (polls : List (Instance × EngineState)) :
    engine.render.polledAt ((target, state) :: polls) =
      (Completion.deferred
        (engine.renderInstance (engine.services (nestingLimit state)))).polledAt
        ((target, state) :: polls) := by
  rw [render, Completion.polledAt_deferred, Completion.polledAt_deferred,
    servicesIn]

theorem failsWith_render_iff (target : Instance) (state : EngineState)
    (polls : List (Instance × EngineState)) :
    engine.render.polledAt ((target, state) :: polls) = .ready (.error error) ↔
      engine.FailsWith (.render (nestingLimit state) target state polls)
        error := by
  rw [polledAt_render, FailsWith]

/-- What a caller hears who blocks on a render is the error that the polls of
this render lead to. -/
theorem failsWith_of_renderBlocking
    {target : Instance} {state : EngineState}
    (failed : (engine.renderBlocking target state).1 = .error error) :
    error = stuck ∨
      ∃ inner,
        engine.FailsWith
            (.render (nestingLimit state) target state
              (engine.render.visited (target, state)).tail) inner ∧
          error = inner.afterWaiting := by
  rw [renderBlocking] at failed
  rcases driven : engine.render.drive (target, state) with ⟨outcome, after⟩
  rw [driven] at failed
  cases outcome with
  | none =>
      cases failed
      exact .inl rfl
  | some result =>
      cases result with
      | ok text => cases failed
      | error inner =>
          cases failed
          have visited : engine.render.visited (target, state) =
              (target, state) ::
                  (engine.render.visited (target, state)).tail := by
            rw [render, Completion.deferred, Completion.visited, List.tail_cons]
          have polled := Completion.polledAt_visited driven
          rw [visited] at polled
          exact .inr ⟨inner, (failsWith_render_iff target state _).mp polled,
            rfl⟩

/-- Failures keep their provenance.

A run fails with an error when one thing is to blame for it that tells this
error, and what is to blame is so.  A call of a message leads to the render of
its template in this call, which fails with the very same error; at the end of
such a chain the error has arisen.  The runs of renders are the polls of the
engine's renders, and a caller who blocks on one hears the error of its
polls. -/
theorem failure_provenance (engine : Engine) :
    (∀ run error, engine.FailsWith run error ↔
      ∃ blame, engine.Blames run blame ∧ blame.error = error) ∧
    (∀ run blame, engine.Blames run blame →
      engine.Justifies run blame ∧ ∀ blame', engine.Blames run blame' →
        blame' = blame) ∧
    (∀ run later error, engine.Leads run later → engine.FailsWith run error →
      engine.FailsWith later error) ∧
    (∀ run error, engine.FailsWith run error →
      ∃ origin blame, Relation.ReflTransGen engine.Leads run origin ∧
        engine.Blames origin blame ∧
        blame.error = error ∧ (engine.evaluatorOf origin).Original blame) ∧
    (∀ target state polls error,
      engine.render.polledAt ((target, state) :: polls) =
        .ready (.error error) ↔
        engine.FailsWith (.render (nestingLimit state) target state polls)
          error) ∧
    ∀ target state error, (engine.renderBlocking target state).1 =
      .error error →
      error = stuck ∨
        ∃ inner,
          engine.FailsWith
              (.render (nestingLimit state) target state
                (engine.render.visited (target, state)).tail) inner ∧
            error = inner.afterWaiting := by
  refine ⟨failsWith_iff, fun run blame blames => ?_,
    fun run later error leads fails => leads.failsWith fails,
    fun run error fails => ?_, fun target state polls error =>
      failsWith_render_iff target state polls,
    fun target state error failed => failsWith_of_renderBlocking failed⟩
  · exact ⟨justifies_of_blames blames, fun blame' blames' =>
      blames_unique blames blames'⟩
  · rcases (failsWith_iff run error).mp fails with ⟨blame, blames, rfl⟩
    exact arisesAt engine run.depth run blame rfl blames

/-- A message whose template asks for a namespace that nobody has registered. -/
def shop : Bundle where
  name := "shop"
  defaultLocale := none
  messages := [⟨"greet", "greet", [], .template "shop_greet", []⟩]

def shopEngine : Engine where
  resolvers := []
  namespaces := [("shop", [shop.namespaceResolver.resolver])]
  mappers := []
  initializers := []
  config := {}

def lostWord : Expression :=
  .path (some "lost") [.property "word"] ⟨"shop_greet", 3⟩

def shopState : EngineState where
  registry :=
    ⟨[("shop_greet", ⟨"shop_greet", "1", [.placeholder lostWord]⟩)], 1⟩
  journal := []

def shopCall : Expression :=
  .path (some "shop") [.method "greet" []] ⟨"page", 1⟩

/-- A page that asks for the message in the argument of a call. -/
def shopPage : Instance where
  template :=
    ⟨"page", "2",
      [.placeholder (.path none [.method "echo" [shopCall]] ⟨"page", 1⟩)]⟩

/-- The page, rendered in one poll. -/
def shopRun : Run :=
  .render 1 shopPage shopState []

/-- What an expression says that has found no word. -/
def lost : EngineError :=
  .render (.mk (.namespaceUnresolved "lost") "lost:word" ⟨"shop_greet", 3⟩)

/-- The page fails with the error of the word in the message: a call of the
message is to blame, it leads to the render of the message, and there the word
is.  This is what the caller hears. -/
theorem shopPage_blames_lostWord :
    (∃ called,
      shopEngine.Leads shopRun called ∧ shopEngine.FailsWith called lost ∧
        shopEngine.Justifies called (.unregistered lostWord "lost") ∧
          ∀ blame, shopEngine.Blames called blame →
            blame = .unregistered lostWord "lost") ∧
    (∃ origin blame, Relation.ReflTransGen shopEngine.Leads shopRun origin ∧
      shopEngine.Blames origin blame ∧ blame.error = lost ∧
        (shopEngine.evaluatorOf origin).Original blame) ∧
    (shopEngine.renderBlocking shopPage shopState).1 = .error lost ∧
    ∃ inner,
      shopEngine.FailsWith (.render (nestingLimit shopState) shopPage shopState
          (shopEngine.render.visited (shopPage, shopState)).tail) inner ∧
        lost = inner.afterWaiting := by
  rcases failure_provenance shopEngine with
    ⟨-, blamed, handed, arises, -, heard⟩
  have failed : shopEngine.FailsWith shopRun lost := rfl
  have page : (shopEngine.renderBlocking shopPage shopState).1 = .error lost :=
    rfl
  refine ⟨⟨_, .message rfl rfl rfl rfl rfl rfl, ?_, ?_⟩,
    arises shopRun lost failed, page, ?_⟩
  · exact handed shopRun _ lost (.message rfl rfl rfl rfl rfl rfl) failed
  · exact blamed _ (.unregistered lostWord "lost") rfl
  · rcases heard shopPage shopState lost page with stuck | heard
    · cases stuck
    · exact heard

end Engine

end Phrasebook
