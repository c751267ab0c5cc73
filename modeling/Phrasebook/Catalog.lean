import Phrasebook.Bundle.Assembly
import Phrasebook.Bundle.Resolver
import Phrasebook.Engine.Render

/-!
# Catalogs

A catalog is bundles together with the engine that renders their messages.
Building a catalog gives the engine one namespace for each bundle and registers
the templates of the bundles, then the ordinary ones.
-/

namespace Phrasebook

/-- Bundles in the order of definition and the engine that renders them. -/
structure Catalog where
  engine : Engine
  bundles : List Bundle

namespace Catalog

/-- Builds a catalog from definitions and ordinary templates on top of an
engine. -/
def build
    (definitions : List BundleDefinition) (templates : List (String × String))
    (engine : Engine)
    (state : EngineState) : Except BundleError Catalog × EngineState :=
  match Assembly.ofDefinitions definitions with
  | .error error => (.error error, state)
  | .ok assembly =>
    let engine :=
      (assembly.bundles.map Bundle.namespaceResolver).foldl
        Engine.addNamespace engine
    match state.registerAll (assembly.sources ++ templates) with
    | (.error error, state) => (.error (.engine error), state)
    | (.ok _, state) =>
      (.ok ⟨engine, assembly.bundles⟩,
        state.log
          (.builtBundles assembly.bundles.length assembly.sources.length))

def bundle? (catalog : Catalog) (name : String) : Option Bundle :=
  catalog.bundles.find? fun bundle => bundle.name == name

/-- Renders a message as a template in a new instance. -/
def renderMessage
    (catalog : Catalog) (message : Message) (locale : Option String)
    (arguments : List Json) (id : String) (state : EngineState) :
    Except BundleError String × EngineState :=
  match state.registry.get id with
  | .error error => (.error (.engine error), state)
  | .ok template =>
    let (target, state) := catalog.engine.instantiate template state
    let target :=
      target.updateBindings (Bindings.setAll (message.data locale arguments))
    let (rendered, _, state) := catalog.engine.renderBlocking target state
    (rendered.mapError .engine, state)

/-- Renders the message of a bundle with a key, with arguments by position; the
locale selects its body. -/
def message (catalog : Catalog) (bundle : String) (locale : Option String)
    (key : String) (arguments : List Json) (state : EngineState) :
    Except BundleError String × EngineState :=
  match catalog.bundle? bundle with
  | none => (.error (.unknownBundle bundle), state)
  | some found =>
    match found.byKey? key with
    | none => (.error (.missingTemplate bundle key), state)
    | some message =>
      if message.parameters.length ≠ arguments.length then
        (.error
          (.argumentCount bundle key message.parameters.length
            arguments.length), state)
      else
        match message.body locale with
        | .constant text => (.ok text, state)
        | .template id =>
          catalog.renderMessage message locale arguments id state

end Catalog
end Phrasebook
