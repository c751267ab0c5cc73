import Phrasebook.Completion.Join
import Phrasebook.Engine.Basic

/-!
# Evaluating expressions

Parts are resolved from left to right, each against the value of the one before,
and the arguments of a part before the part itself. The first part is looked up
from the innermost scope outwards: the bindings of a scope, then the resolvers
with the scope as base, then the next scope; at the root the explicit data, then
the computed bindings, then the resolvers. A namespaced first part is asked of
the resolvers of its namespace only. An answer that settles to not-found passes
the turn to the next resolver.
-/

namespace Phrasebook

/-- What one evaluation works with: its engine, the services for resolvers, and
the suppliers that computed bindings in its data are registered with. -/
structure Evaluator where
  engine : Engine
  services : Services
  suppliers : Suppliers

/-- Diagnostic text of a stack of scopes, the innermost first, over the root. -/
def scopesDebugText : List (Dictionary Json) → String
  | [] => "ResolutionContext \x7b scope: Null, parent: None, .. \x7d"
  | bindings :: outer =>
    "ResolutionContext \x7b scope: " ++ (Json.object bindings).debugText ++
      ", parent: Some(" ++
      scopesDebugText outer ++ "), .. \x7d"

namespace Evaluator

variable (evaluator : Evaluator)

def failed {σ α : Type} (reason : Reason) (expression : Expression) :
    Evaluation σ α :=
  .ready (.error (.render (.of reason expression)))

/-- Calls the supplier of a cell for the lookup with a ticket, which is first in
line, and polls its answer once. A success is kept in the memo; a failure, and
abandoning, takes the lookup out of the line. -/
def runSupplier
    (expression : Expression) (cell : Cell) (ticket : Nat) (scene : Scene) :
    Evaluation Scene Settled × Scene :=
  let scene :=
    (scene.log (.evaluatingBinding cell.key)).updateMemo cell Memo.called
  let (answer, scene) :=
    evaluator.suppliers cell.supplier evaluator.services cell.key
      (scene.data.memo cell).calls scene
  let (completion, scene) :=
    (answer.flatten expression
      evaluator.engine.config.unrestrictedAsyncValues).poll scene
  completion.ending
    (fun result scene =>
      match result with
      | .ok settled => scene.updateMemo cell (Memo.keep settled)
      | .error _ => scene.updateMemo cell (Memo.leave ticket))
    (Scene.updateMemo cell (Memo.leave ticket)) scene

/-- A lookup that waits in line: it ends with the value once that is kept, and
runs the supplier once it is first. -/
def waiting (expression : Expression) (cell : Cell) (ticket : Nat) :
    Evaluation Scene Settled :=
  .pending (fun scene =>
    let memo := scene.data.memo cell
    match memo.value with
    | some settled => .advanced (.ready (.ok settled)) scene
    | none =>
      if memo.mayRun ticket then
        let (completion, scene) :=
          evaluator.runSupplier expression cell ticket scene
        .advanced completion scene
      else .blocked)
    (Scene.updateMemo cell (Memo.leave ticket))

/-- Looks up a computed binding in the cell found for it. A kept value is ready;
otherwise the lookup joins the line, and runs the supplier at once when nobody
is before it. -/
def lookupComputed (expression : Expression) (cell : Cell) (scene : Scene) :
    Evaluation Scene Settled × Scene :=
  let memo := scene.data.memo cell
  match memo.value with
  | some settled => (.ready (.ok settled), scene)
  | none =>
    let (ticket, memo) := memo.join
    let scene := { scene with data := scene.data.setMemo cell memo }
    if memo.mayRun ticket
      then evaluator.runSupplier expression cell ticket scene
    else (evaluator.waiting expression cell ticket, scene)

/-- Asks the resolvers of a chain in turn until an answer settles to something
found. -/
def ask (expression : Expression) (request : Request) (chain : Chain)
    (scene : Scene) :
    Evaluation Scene Settled × Scene :=
  match chain with
  | [] => (.ready (.ok .notFound), scene)
  | resolver :: rest =>
    if resolver.applies request then
      match resolver.resolve request scene with
      | (none, scene) => ask expression request rest scene
      | (some answer, scene) =>
        (answer.flatten expression
          evaluator.engine.config.unrestrictedAsyncValues).andThen
          (fun settled scene =>
            if settled.isNotFound then ask expression request rest scene
            else (.ready (.ok settled), scene)) scene
    else ask expression request rest scene

def request
    (part : Part) (arguments : List Json) (base : Json) (topLevel : Bool) :
    Request :=
  ⟨base, part, arguments, topLevel, evaluator.services⟩

/-- Looks up a first part without namespace from a scope outwards; `scopes` are
the bindings of the enclosing scopes, the innermost first, without the root. -/
def lookupScopes (expression : Expression) (part : Part) (arguments : List Json)
    (scopes : List (Dictionary Json)) (scene : Scene) :
    Evaluation Scene Settled × Scene :=
  match scopes with
  | [] =>
    let found := if part.isMethod then none else scene.data.get? part.name
    let computed := if part.isMethod then none else scene.data.cell? part.name
    match found, computed with
    | some value, _ => (.ready (.ok (.value value)), scene)
    | none, some cell => evaluator.lookupComputed expression cell scene
    | none, none =>
      evaluator.ask expression (evaluator.request part arguments .null true)
        evaluator.engine.resolvers scene
  | bindings :: outer =>
    let found := if part.isMethod then none else bindings.get? part.name
    match found with
    | some value => (.ready (.ok (.value value)), scene)
    | none =>
      let (asked, scene) :=
        evaluator.ask expression
          (evaluator.request part arguments (.object bindings) true)
          evaluator.engine.resolvers scene
      asked.andThen (fun settled scene =>
        if settled.isNotFound
          then lookupScopes expression part arguments outer scene
        else (.ready (.ok settled), scene)) scene

def resolveFirst
    (scopes : List (Dictionary Json)) (expression : Expression) (part : Part)
    (arguments : List Json) (scene : Scene) :
    Evaluation Scene Settled × Scene :=
  match expression.qualifier with
  | none => evaluator.lookupScopes expression part arguments scopes scene
  | some qualifier =>
    match evaluator.engine.namespaces.get? qualifier with
    | none => (failed (.namespaceUnresolved qualifier) expression, scene)
    | some chain =>
      evaluator.ask expression (evaluator.request part arguments .null true)
        chain scene

/-- Resolves a part whose arguments are evaluated, against a base unless it is
the first one. -/
def resolvePart
    (scopes : List (Dictionary Json)) (expression : Expression) (part : Part)
    (arguments : List Json) (base : Option Json) (scene : Scene) :
    Evaluation Scene Settled × Scene :=
  match base with
  | none => evaluator.resolveFirst scopes expression part arguments scene
  | some base =>
    evaluator.ask expression (evaluator.request part arguments base false)
      evaluator.engine.resolvers scene

mutual

/-- Evaluates an expression in a stack of scopes. A literal is ready. -/
def evaluate (scopes : List (Dictionary Json)) (expression : Expression)
    (scene : Scene) :
    Evaluation Scene Settled × Scene :=
  match expression with
  | .mk qualifier parts constant origin =>
    match (Expression.mk qualifier parts constant origin).literalValue? with
    | some value => (.ready (.ok (.value value)), scene)
    | none =>
      evaluateParts scopes (.mk qualifier parts constant origin) none
        parts scene

/-- Evaluates the remaining parts of an expression against a base. A part that
is not found ends the expression. -/
def evaluateParts (scopes : List (Dictionary Json)) (expression : Expression)
    (base : Option Json)
    (parts : List Part) (scene : Scene) : Evaluation Scene Settled × Scene :=
  match parts with
  | [] => (.ready (.ok .notFound), scene)
  | part :: rest =>
    let (started, scene) := startArguments scopes part scene
    let (arguments, scene) := Completion.all started scene
    arguments.andThen (fun values scene =>
      let (resolved, scene) :=
        evaluator.resolvePart scopes expression part values base scene
      resolved.andThen (fun settled scene =>
        if settled.isNotFound || rest.isEmpty then (.ready (.ok settled), scene)
        else evaluateParts scopes expression (some settled.toValue) rest scene)
        scene) scene

def startArguments
    (scopes : List (Dictionary Json)) (part : Part) (scene : Scene) :
    List (Evaluation Scene Json) × Scene :=
  match part with
  | .property _ => ([], scene)
  | .method _ arguments => startAll scopes arguments scene

def startAll (scopes : List (Dictionary Json)) (expressions : List Expression)
    (scene : Scene) :
    List (Evaluation Scene Json) × Scene :=
  match expressions with
  | [] => ([], scene)
  | expression :: rest =>
    let (first, scene) := evaluate scopes expression scene
    let (others, scene) := startAll scopes rest scene
    (first.map Settled.toValue :: others, scene)

end

end Evaluator
end Phrasebook
