import Phrasebook.Bundle.Basic
import Phrasebook.Engine.Basic

/-!
# The namespace of a bundle

In the namespace of a bundle, `{bundle:method(arguments)}` stands for the
rendered message. The arguments become the parameters of the message by
position; the locale under `_locale` in the data of the render selects the body
and is handed on, so that messages inside messages have it too.
-/

namespace Phrasebook

/-- The key of the locale in the data of a render. -/
def localeKey : String := "_locale"

/-- The data of a message: its arguments under the names of its parameters, then
the locale. -/
def Message.data
    (message : Message) (locale : Option String) (arguments : List Json) :
    List (String × Json) :=
  message.parameters.zip arguments ++ locale.toList.map fun locale =>
    (localeKey, .string locale)

namespace Bundle

/-- The locale in the data of a scene; a value that is no text counts for
nothing. -/
def sceneLocale (scene : Scene) : Option String :=
  match scene.data.get? localeKey with
  | some (.string locale) => some locale
  | _ => none

/-- The answer to a call of a message with the right number of arguments. -/
def callMessage (message : Message) (request : Request) (scene : Scene) :
    Resolved Scene × Scene :=
  let locale := sceneLocale scene
  match message.body locale with
  | .constant text => (.value (.string text), scene)
  | .template id =>
    match scene.engine.registry.get id with
    | .error error => (.failed (.engine error), scene)
    | .ok template =>
      let (render, engine) :=
        request.services.nested template (message.data locale request.arguments)
          scene.engine
      (.ofRender render, { scene with engine })

/-- Answers the calls of the messages of a bundle; an unknown method is
declined. -/
def resolve (bundle : Bundle) (request : Request) (scene : Scene) :
    Option (Resolved Scene) × Scene :=
  match bundle.byMethod? request.part.name with
  | none => (none, scene)
  | some message =>
    let expected := message.parameters.length
    let actual := request.arguments.length
    if actual ≠ expected then
      (some
        (.failed
          (.message ("message " ++ bundle.name ++ ":" ++ message.method ++
            " expects " ++
        toString expected ++ " argument(s), got " ++ toString actual))), scene)
    else
      let (answer, scene) := callMessage message request scene
      (some answer, scene)

def namespaceResolver (bundle : Bundle) : NamespaceResolver :=
  ⟨bundle.name, { resolve := bundle.resolve }⟩

end Bundle
end Phrasebook
