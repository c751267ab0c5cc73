import Phrasebook.Proofs.Completion.Drive
import Phrasebook.Proofs.Nesting.Depth

/-!
# What renders end in

The outcome of a render is what driving it ends in: a text, an error, or nothing
when it waits for itself.  Blocking on the render of an instance, and driving
the answer that a nested render stands for, both have the outcome of the
template with the data of the instance.
-/

namespace Phrasebook

open Completion
  (driven driveOn IsPart driveOn_ready driveOn_same driven_andThen)

/-- What the render of a template on a scene ends in. -/
def Evaluator.outcome
    (evaluator : Evaluator) (template : Template) (scene : Scene) :
    Option (Except EngineError String) :=
  (driven (evaluator.renderTemplate template scene)).1

namespace Engine

variable (engine : Engine) (services : Services)

theorem isPart_scene : IsPart sceneOf withScene where
  part_update _ _ := rfl
  update_part _ := rfl
  update_update _ _ _ := rfl

/-- Firing callbacks does not change what the render of an instance ends in. -/
theorem driven_renderInstance (whole : Instance × EngineState) :
    (driven (engine.renderInstance services whole)).1 =
      Evaluator.outcome ⟨engine, services, whole.1.bindings.suppliers⟩
        whole.1.template
        (sceneOf whole) := by
  rw [renderInstance]
  dsimp only
  rw [Completion.driven_andThen, Completion.driveOn_same fun _ _ => ⟨_, rfl⟩,
    Completion.drive_within isPart_scene]
  rfl

theorem renderBlocking_eq (target : Instance) (state : EngineState) :
    (engine.renderBlocking target state).1 =
      ((Evaluator.outcome ⟨engine, engine.servicesIn state,
        target.bindings.suppliers⟩
        target.template ⟨target.bindings.data, state⟩).getD
        (.error stuck)).mapError
          EngineError.afterWaiting := by
  rw [renderBlocking, render]
  dsimp only
  rw [Completion.drive_deferred, driven_renderInstance]
  rfl

/-- Renders that start in a state may nest at least as deep below the first
level as there are templates. -/
theorem exists_depth (state : EngineState) :
    ∃ depth,
      engine.servicesIn state = engine.services (depth + 1) ∧
        state.registry.templates.length ≤ depth := by
  refine ⟨999 + state.registry.templates.length, ?_, Nat.le_add_left _ _⟩
  rw [servicesIn, nestingLimit, Nat.add_right_comm]

/-- The data of a new instance with the given values. -/
def dataOf (values : List (String × Json)) : RenderData :=
  (Bindings.setAll values {}).data

theorem drive_renderNested
    (uninitialized : engine.initializers = []) (template : Template)
    (values : List (String × Json)) (state : EngineState) :
    (driven (engine.renderNested services template values state)).1 =
      Evaluator.outcome ⟨engine, services, .none⟩ template ⟨dataOf values,
        state⟩ := by
  rw [renderNested, instantiate, uninitialized]
  dsimp only [List.foldl_nil]
  rw [driven, Completion.drive_mapResult, Completion.drive_enclosed,
    Completion.drive_deferred]
  dsimp only
  rw [driven_renderInstance, Option.map_map, Instance.suppliers_new]
  exact Option.map_id'

end Engine

/-- Where calls are acyclic, renders end alike at all depths that are not below
the number of templates. -/
theorem Engine.CallsOnly.outcome_agree
    {engine : Engine} {templates : Dictionary Template}
    {callees : String → Part → String → Prop}
    (callsOnly : engine.CallsOnly templates callees)
    (acyclic : Nesting.Acyclic templates callees)
    (template : Template) {depth depth' : Nat}
    (deep : templates.length ≤ depth) (deep' : templates.length ≤ depth')
    {scene scene' : Scene} (agree : scene.Agree templates scene') :
    Option.Rel SameResult
      (Evaluator.outcome ⟨engine, engine.services depth, .none⟩ template scene)
      (Evaluator.outcome ⟨engine, engine.services depth', .none⟩ template
        scene') := by
  have started :=
    callsOnly.renderTemplate_inStep acyclic template deep deep' agree
  exact (started.completions.drive started.states).1

/-- What a text settles to. -/
def Settled.ofText (text : String) : Settled :=
  .value (.string text)

/-- The failure of an expression when its resolver has failed with the error of
a render. -/
def EngineError.handOn (expression : Expression) (error : EngineError) :
    EngineError :=
  .ofCause (.engine error) expression

/-- An error that is handed on as it is does not show how often it was handed
on. -/
theorem handOn_of_same
    {outcome outcome' : Option (Except EngineError String)}
    (same : Option.Rel SameResult outcome outcome') (expression : Expression) :
    outcome'.map (Except.mapError (.handOn expression)) = outcome := by
  rcases same with ⟨_⟩ | _
  case none => rfl
  case some related =>
    rcases related with ⟨rfl, handedOn⟩ | rfl
    · exact congrArg (fun error => some (Except.error error))
        (handedOn.ofCause_eq expression)
    · rfl

namespace Resolved

theorem isPart_engine :
    IsPart Scene.engine (fun engine scene => { scene with engine }) where
  part_update _ _ := rfl
  update_part _ := rfl
  update_update _ _ _ := rfl

/-- The answer that a render stands for settles to the text of the render, or
fails with its error. -/
theorem drive_ofRender
    (render : Evaluation EngineState String) (expression : Expression)
    (unrestricted : Bool) (scene : Scene) :
    (((ofRender render).flatten expression unrestricted).drive scene).1 =
      (render.drive scene.engine).1.map fun result =>
        (result.mapError (.handOn expression)).map .ofText := by
  rw [ofRender, flatten, drive_awaiting, Completion.drive_mapResult,
    Completion.drive_within isPart_engine]
  rcases (render.drive scene.engine).1 with _ | error | text
  · rfl
  · dsimp only [Option.map]
    rw [driveAnswer, flatten, Completion.drive_ready]
    rfl
  · dsimp only [Option.map]
    rw [driveAnswer, flatten, Completion.drive_ready]
    rfl

end Resolved

namespace Evaluator

variable {evaluator : Evaluator}

/-- A template of a single placeholder that settles to a text is rendered to
this text. -/
theorem outcome_placeholder
    (unmapped : evaluator.engine.mappers = [])
    {template : Template} {expression : Expression}
    (single : template.nodes = [.placeholder expression])
    {scene : Scene} {outcome : Option (Except EngineError String)}
    (answer :
      (driven (evaluator.evaluate [] expression
        ((scene.log (.renderingTemplate template.id)).log
          (.resolveStarted expression)))).1 =
          outcome.map (Except.map .ofText)) :
    evaluator.outcome template scene = outcome := by
  have node :
      (driven (evaluator.startNode (.placeholder expression)
        (scene.log (.renderingTemplate template.id)))).1 =
          outcome.map (Except.map fun text =>
            .single (some (.string text)) expression) := by
    rw [startNode]
    dsimp only
    rw [driven_andThen,
      driveOn_ready (fun settled : Settled => .ok (settled.toNode expression))
        fun _ _ => ⟨_, rfl⟩]
    rw [driven] at answer
    rw [answer]
    rcases outcome with _ | error | text <;> rfl
  rw [Evaluator.outcome, renderTemplate, single]
  dsimp only [startNodes]
  rw [driven_andThen]
  show (driveOn _ (driven (Completion.all [_] _))).1 = outcome
  rw [Completion.driven_all_singleton]
  rw [driven] at node
  rw [node]
  rcases outcome with _ | error | text
  case none => rfl
  case some.error => rfl
  case some.ok =>
    show (driven (evaluator.write [_] _)).1 = _
    rw [write, unmapped, driven]
    simp only [Mapper.writeAll, Mapper.nodeText, Mapper.mapThrough,
      Mapper.defaultText, Json.plainText, String.empty_append]
    exact congrArg Prod.fst (Completion.drive_ready _ _)

end Evaluator

end Phrasebook
