import Phrasebook.Engine.Evaluation

/-!
# Renders

All nodes of a template start in order; pending ones are then driven together,
and the text is written once every node has its result. An instance fires its
callbacks after a successful render, whichever way it was driven, and keeps them
otherwise. Renders may nest, one instance in the answer of a resolver of
another; `depth` bounds the nesting.

The bound and the error beyond it belong to this description. A running engine
has neither: there a chain of renders may be as long as it likes, and one
without an end has no result.
-/

namespace Phrasebook
namespace Evaluator

variable (evaluator : Evaluator)

def startNode (node : TemplateNode) (scene : Scene) :
    Evaluation Scene ResultNode × Scene :=
  match node with
  | .text text => (.ready (.ok (.constant text)), scene)
  | .placeholder expression =>
    let (evaluated, scene) :=
      evaluator.evaluate [] expression (scene.log (.resolveStarted expression))
    evaluated.andThen (fun settled scene =>
      (.ready (.ok (settled.toNode expression)),
        scene.log (.resolveCompleted expression (!settled.isNotFound)))) scene

def startNodes (nodes : List TemplateNode) (scene : Scene) :
    List (Evaluation Scene ResultNode) × Scene :=
  match nodes with
  | [] => ([], scene)
  | node :: rest =>
    let (first, scene) := evaluator.startNode node scene
    let (others, scene) := startNodes rest scene
    (first :: others, scene)

def write (results : List ResultNode) (scene : Scene) :
    Evaluation Scene String × Scene :=
  let (written, engine) :=
    Mapper.writeAll evaluator.engine.config evaluator.engine.mappers "" results
      scene.engine
  (.ready (written.mapError .render), { scene with engine })

/-- Renders a template against the data of a scene. -/
def renderTemplate (template : Template) (scene : Scene) :
    Evaluation Scene String × Scene :=
  let (started, scene) :=
    evaluator.startNodes template.nodes
      (scene.log (.renderingTemplate template.id))
  let (joined, scene) := Completion.all started scene
  joined.andThen evaluator.write scene

end Evaluator

namespace Engine

def sceneOf (whole : Instance × EngineState) : Scene :=
  ⟨whole.1.bindings.data, whole.2⟩

/-- Puts a scene back into its instance. -/
def withScene (scene : Scene) (whole : Instance × EngineState) :
    Instance × EngineState :=
  ({ whole.1 with bindings := { whole.1.bindings with data := scene.data } },
    scene.engine)

/-- Renders an instance with given services and fires its callbacks on
success. -/
def renderInstance
    (engine : Engine) (services : Services) (whole : Instance × EngineState) :
    Evaluation (Instance × EngineState) String × (Instance × EngineState) :=
  let evaluator : Evaluator := ⟨engine, services, whole.1.bindings.suppliers⟩
  let (rendered, scene) :=
    evaluator.renderTemplate whole.1.template (sceneOf whole)
  (rendered.within sceneOf withScene).andThen
    (fun text whole => (.ready (.ok text), whole.1.fire whole.2))
    (withScene scene whole)

/-- A template rendered in a new instance with the given data. The instance is
made at once, the render starts at the first poll. -/
def renderNested (engine : Engine) (services : Services) (template : Template)
    (data : List (String × Json))
    (state : EngineState) : Evaluation EngineState String × EngineState :=
  let (target, state) := engine.instantiate template state
  let target := target.updateBindings (Bindings.setAll data)
  let rendered :=
    (Completion.deferred (engine.renderInstance services)).enclosed target
  (rendered.mapResult Prod.fst, state)

/-- The services of an engine for renders that may nest `depth` more times. -/
def services (engine : Engine) : (depth : Nat) → Services
  | 0 => {
      config := engine.config
      nested := fun _ _ state =>
        (.ready (.error (.runtime "templates nest too deeply")), state) }
  | depth + 1 => {
      config := engine.config
      nested := fun template data state =>
        engine.renderNested (engine.services depth) template data state }

/-- How deep renders may nest: deeper by 1000 than any chain of different
templates that the state has registered. A chain in which a template comes back
can go beyond it, and so can one of more than 1000 templates that are not
registered. -/
def nestingLimit (state : EngineState) : Nat :=
  1000 + state.registry.templates.length

def servicesIn (engine : Engine) (state : EngineState) : Services :=
  engine.services (nestingLimit state)

/-- Starts the render of an instance at the first poll. -/
def render (engine : Engine) : Evaluation (Instance × EngineState) String :=
  .deferred fun whole => engine.renderInstance (engine.servicesIn whole.2) whole

/-- The error of a render that waits for nothing that could come. -/
def stuck : EngineError := .runtime "the render waits for itself"

def renderBlocking (engine : Engine) (target : Instance) (state : EngineState) :
    Except EngineError String × (Instance × EngineState) :=
  let (result, whole) := engine.render.drive (target, state)
  ((result.getD (.error stuck)).mapError EngineError.afterWaiting, whole)

end Engine
end Phrasebook
