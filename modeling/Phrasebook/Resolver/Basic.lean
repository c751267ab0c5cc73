import Phrasebook.Config.Basic
import Phrasebook.Scene

/-!
# Resolvers

A resolver is offered one part of an expression together with the value that it
is resolved against, the base; it answers or declines. A chain is ordered by
descending priority, equal priorities in the order of registration, and offers a
request to one resolver after the other.
-/

namespace Phrasebook

/-- What an engine does for the resolvers and suppliers that it runs: it tells
its settings, and renders a template in an instance of its own with the given
data. -/
structure Services where
  config : Config
  nested : Template → List (String × Json) → EngineState →
    Evaluation EngineState String × EngineState

/-- The answer that a render of the engine stands for: a pending handle that
ends in the text or in the error of the render. -/
def Resolved.ofRender (render : Evaluation EngineState String) :
    Resolved Scene :=
  .pending
    ((render.within Scene.engine (fun engine scene =>
      { scene with engine })).mapResult fun
    | .ok text => .value (.string text)
    | .error error => .failed (.engine error))

/-- What a resolver is asked: the part, the base and the values of the
arguments. `topLevel` says that the part is the first one of its expression. -/
structure Request where
  base : Json
  part : Part
  arguments : List Json
  topLevel : Bool
  services : Services

/-- A resolver. It declines whenever it does not apply or answers nothing. -/
structure Resolver where
  priority : Int := 1
  applies : Request → Bool := fun _ => true
  resolve : Request → Scene → Option (Resolved Scene) × Scene

def Resolver.declining : Resolver where
  resolve _ scene := (none, scene)

instance : Inhabited Resolver := ⟨.declining⟩

/-- A resolver that depends on its request alone and answers values. -/
def Resolver.ofValue (priority : Int) (applies : Request → Bool)
    (answer : Request → Option Json) : Resolver where
  priority := priority
  applies := applies
  resolve request scene := ((answer request).map .value, scene)

/-- Resolvers in the order in which they are asked. -/
abbrev Chain := List Resolver

namespace Chain

/-- Orders resolvers by descending priority, equal priorities as they were
registered. -/
def ofResolvers (resolvers : List Resolver) : Chain :=
  resolvers.mergeSort fun left right => right.priority ≤ left.priority

/-- The first answer in a chain whose resolvers are numbered from `index`, with
the number of its resolver. -/
def firstAnswer
    (index : Nat) (chain : Chain) (request : Request) (scene : Scene) :
    Option (Nat × Resolved Scene) × Scene :=
  match chain with
  | [] => (none, scene)
  | resolver :: rest =>
    if resolver.applies request then
      match resolver.resolve request scene with
      | (some answer, scene) => (some (index, answer), scene)
      | (none, scene) => firstAnswer (index + 1) rest request scene
    else firstAnswer (index + 1) rest request scene

/-- Offers a request to the resolvers from `start` on. -/
def nextResolved
    (chain : Chain) (request : Request) (start : Nat) (scene : Scene) :
    Option (Nat × Resolved Scene) × Scene :=
  firstAnswer start (chain.drop start) request scene

end Chain
end Phrasebook
