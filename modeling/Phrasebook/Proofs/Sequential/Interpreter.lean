import Phrasebook.Engine.Render
import Phrasebook.Proofs.ComputedBinding

/-!
# A sequential interpreter

This module reads templates without completions: every computation runs to its
end before the next one starts, and hands the scene on.  It is the meaning of a
render whose answers never have to be waited for.

The order is fixed by the recursion.  Nodes run in source order, all of them;
inside an expression the parts run from left to right, and all arguments of a
part run, from left to right, before the part is resolved.  A failure ends the
expression it belongs to, but neither the arguments after it nor the nodes after
it.
-/

namespace Phrasebook

/-- What is left of an answer without its handles: a settled outcome or the
cause of a failure. -/
abbrev Shape := Except Cause Settled

namespace Shape

/-- The outcome of an expression that was answered so. -/
def outcome (expression : Expression) : Shape → Except EngineError Settled
  | .ok settled => .ok settled
  | .error cause => .error (.ofCause cause expression)

end Shape

namespace Resolved

variable {σ : Type}

/-- The shape of an answer that holds no handle to be polled.  The interpreter
takes an answer with such a handle for one that found nothing; synchronous
evaluators give none. -/
def shape? : Resolved σ → Option Shape
  | .value found => some (.ok (.value found))
  | .notFound => some (.ok .notFound)
  | .node result => some (.ok (.node result))
  | .failed cause => some (.error cause)
  | .completed inner => shape? inner
  | .pending _ => none
  | .foreign _ => none

end Resolved

namespace Sequential

variable {ε α : Type}

/-- All values in order, or the first failure in order. -/
def collect : List (Except ε α) → Except ε (List α)
  | [] => .ok []
  | .error error :: _ => .error error
  | .ok value :: rest => (collect rest).map (value :: ·)

variable (evaluator : Evaluator)

/-- Asks a chain from its first resolver on, until one answers with something
found or fails. -/
def ask (expression : Expression) (request : Request) :
    Chain → Scene → Except EngineError Settled × Scene
  | [], scene => (.ok .notFound, scene)
  | resolver :: rest, scene =>
    if resolver.applies request then
      match resolver.resolve request scene with
      | (none, scene) => ask expression request rest scene
      | (some answer, scene) =>
        match (answer.shape?.getD (.ok .notFound)).outcome expression with
        | .ok settled =>
          if settled.isNotFound then ask expression request rest scene
            else (.ok settled, scene)
        | .error error => (.error error, scene)
    else ask expression request rest scene

/-- The value of a computed binding: the one that was kept, or what its supplier
answers now.  The lookup holds the binding while the supplier runs, and only a
success is kept. -/
def lookupComputed (expression : Expression) (cell : Cell) (scene : Scene) :
    Except EngineError Settled × Scene :=
  match (scene.data.memo cell).value with
  | some settled => (.ok settled, scene)
  | none =>
    let ticket := scene.nextTicket cell
    let (answer, scene) := evaluator.callSupplier cell (scene.joinLine cell)
    let outcome := (answer.shape?.getD (.ok .notFound)).outcome expression
    (outcome, scene.endRun cell ticket outcome)

/-- The first part of an expression without namespace, from the innermost scope
outwards. -/
def lookupScopes
    (expression : Expression) (part : Part) (arguments : List Json) :
    List (Dictionary Json) → Scene → Except EngineError Settled × Scene
  | [], scene =>
    let found := if part.isMethod then none else scene.data.get? part.name
    let computed := if part.isMethod then none else scene.data.cell? part.name
    match found, computed with
    | some value, _ => (.ok (.value value), scene)
    | none, some cell => lookupComputed evaluator expression cell scene
    | none, none =>
      ask expression (evaluator.request part arguments .null true)
        evaluator.engine.resolvers scene
  | bindings :: outer, scene =>
    match if part.isMethod then none else bindings.get? part.name with
    | some value => (.ok (.value value), scene)
    | none =>
      match ask expression
        (evaluator.request part arguments (.object bindings) true)
        evaluator.engine.resolvers scene with
      | (.error error, scene) => (.error error, scene)
      | (.ok settled, scene) =>
        if settled.isNotFound
          then lookupScopes expression part arguments outer scene
        else (.ok settled, scene)

/-- A part whose arguments are known, against a base unless it is the first
one. -/
def resolvePart
    (scopes : List (Dictionary Json)) (expression : Expression) (part : Part)
    (arguments : List Json) (base : Option Json) (scene : Scene) :
    Except EngineError Settled × Scene :=
  match base with
  | some base =>
    ask expression (evaluator.request part arguments base false)
      evaluator.engine.resolvers scene
  | none =>
    match expression.qualifier with
    | none => lookupScopes evaluator expression part arguments scopes scene
    | some qualifier =>
      match evaluator.engine.namespaces.get? qualifier with
      | none =>
        (.error (.render (.of (.namespaceUnresolved qualifier) expression)),
          scene)
      | some chain =>
        ask expression (evaluator.request part arguments .null true) chain scene

mutual

def evaluate (scopes : List (Dictionary Json)) (expression : Expression)
    (scene : Scene) :
    Except EngineError Settled × Scene :=
  match expression with
  | .mk qualifier parts constant origin =>
    match (Expression.mk qualifier parts constant origin).literalValue? with
    | some value => (.ok (.value value), scene)
    | none => walk scopes (.mk qualifier parts constant origin) none parts scene

/-- Runs the parts of an expression from left to right, up to the first one that
fails or is not found. -/
def walk (scopes : List (Dictionary Json)) (expression : Expression)
    (base : Option Json)
    (parts : List Part) (scene : Scene) : Except EngineError Settled × Scene :=
  match parts with
  | [] => (.ok .notFound, scene)
  | part :: rest =>
    let (outcomes, scene) := evaluateArguments scopes part scene
    match collect outcomes with
    | .error error => (.error error, scene)
    | .ok arguments =>
      match resolvePart evaluator scopes expression part arguments base
          scene with
      | (.error error, scene) => (.error error, scene)
      | (.ok settled, scene) =>
        if settled.isNotFound || rest.isEmpty then (.ok settled, scene)
        else walk scopes expression (some settled.toValue) rest scene

/-- Runs all arguments of a part from left to right; one that is not found
becomes null. -/
def evaluateArguments
    (scopes : List (Dictionary Json)) (part : Part) (scene : Scene) :
    List (Except EngineError Json) × Scene :=
  match part with
  | .property _ => ([], scene)
  | .method _ arguments => evaluateAll scopes arguments scene

/-- Runs expressions in order, the failing ones included. -/
def evaluateAll
    (scopes : List (Dictionary Json)) (expressions : List Expression)
    (scene : Scene) :
    List (Except EngineError Json) × Scene :=
  match expressions with
  | [] => ([], scene)
  | expression :: rest =>
    let (outcome, scene) := evaluate scopes expression scene
    let (outcomes, scene) := evaluateAll scopes rest scene
    (outcome.map Settled.toValue :: outcomes, scene)

end

def runNode (node : TemplateNode) (scene : Scene) :
    Except EngineError ResultNode × Scene :=
  match node with
  | .text text => (.ok (.constant text), scene)
  | .placeholder expression =>
    match evaluate evaluator [] expression
        (scene.log (.resolveStarted expression)) with
    | (.error error, scene) => (.error error, scene)
    | (.ok settled, scene) =>
      (.ok (settled.toNode expression),
        scene.log (.resolveCompleted expression (!settled.isNotFound)))

/-- Runs the nodes of a template in source order, the failing ones included. -/
def runNodes (nodes : List TemplateNode) (scene : Scene) :
    List (Except EngineError ResultNode) × Scene :=
  match nodes with
  | [] => ([], scene)
  | node :: rest =>
    let (outcome, scene) := runNode evaluator node scene
    let (outcomes, scene) := runNodes rest scene
    (outcome :: outcomes, scene)

/-- The texts of results one after another, up to the first one that no text can
be made of. -/
def writeNodes (config : Config) (mappers : List Mapper) :
    List ResultNode → EngineState → Except ResolutionError String × EngineState
  | [], state => (.ok "", state)
  | node :: rest, state =>
    match Mapper.nodeText config mappers node state with
    | (.error error, state) => (.error error, state)
    | (.ok text, state) =>
      match writeNodes config mappers rest state with
      | (.error error, state) => (.error error, state)
      | (.ok more, state) => (.ok (text ++ more), state)

/-- Runs a template: all its nodes, and then, when none of them failed, the
mappers. -/
def render (template : Template) (scene : Scene) :
    Except EngineError String × Scene :=
  let (outcomes, scene) :=
    runNodes evaluator template.nodes
      (scene.log (.renderingTemplate template.id))
  match collect outcomes with
  | .error error => (.error error, scene)
  | .ok results =>
    let (written, engine) :=
      writeNodes evaluator.engine.config evaluator.engine.mappers results
        scene.engine
    (written.mapError .render, { scene with engine })

end Sequential

end Phrasebook
