import Phrasebook.Dictionary
import Phrasebook.Error
import Phrasebook.Template.Parser

/-!
# The template registry

Every parse takes a fresh generated id, also one that fails; a template that is
not registered has its generated id for an id. Registering replaces an earlier
template of the id, and a failing registration leaves the templates as they
were.
-/

namespace Phrasebook

/-- The registered templates and the number of generated ids given out. -/
structure Registry where
  templates : Dictionary Template
  issued : Nat
  deriving Repr

namespace Registry

/-- The registry of a new engine. -/
def empty : Registry := ⟨[], 0⟩

/-- Takes a fresh generated id. -/
def issue (registry : Registry) : String × Registry :=
  (toString (registry.issued + 1),
    { registry with issued := registry.issued + 1 })

def parseAs (id generatedId source : String) : Except EngineError Template :=
  match TemplateNode.parse id source with
  | .ok nodes => .ok ⟨id, generatedId, nodes⟩
  | .error (line, error) => .error (.parse id line error)

/-- Parses a source without registering it. -/
def parse (source : String) (registry : Registry) :
    Except EngineError Template × Registry :=
  let (generatedId, registry) := registry.issue
  (parseAs generatedId generatedId source, registry)

def register (id source : String) (registry : Registry) :
    Except EngineError Template × Registry :=
  let (generatedId, registry) := registry.issue
  match parseAs id generatedId source with
  | .ok template =>
    (.ok template,
      { registry with templates := registry.templates.insert id template })
  | .error error => (.error error, registry)

def get (id : String) (registry : Registry) : Except EngineError Template :=
  match registry.templates.get? id with
  | some template => .ok template
  | none => .error (.templateNotFound id)

/-- The ids of the registered templates in order. -/
def ids (registry : Registry) : List String :=
  registry.templates.keys

end Registry
end Phrasebook
