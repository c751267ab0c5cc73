import Phrasebook.Document.Format
import Phrasebook.Key
import Phrasebook.Roster

/-!
# Bundle definitions

Bundles are defined in files. A definition is a default bundle or a localized
override of one; its messages stand in the order of declaration under the names
of their methods.
-/

namespace Phrasebook

/-- The definition of a message: its source text, its parameters in the order of
calls, and its key when it does not follow from the method. -/
structure MessageDefinition where
  template : String
  parameters : List String := []
  key : Option String := none
  deriving DecidableEq, Repr

/-- The definition of a default bundle or of a localized override. -/
structure BundleDefinition where
  bundle : String
  locale : Option String := none
  localized : Bool := false
  defaultKey : KeyStrategy := .elementName
  messages : Roster MessageDefinition := []
  deriving DecidableEq, Repr

namespace MessageDefinition

def ofDocument? (format : Format) (document : Document) :
    Option MessageDefinition := do
  let record ← format.record? ["template", "params", "key"] document
  let template ← record.required? 0 Document.string?
  let parameters ← record.default? 1 [] fun parameters =>
    parameters.items?.bind (Document.readAll? Document.string?)
  let key ← record.default? 2 none (Document.nullOr? Document.string?)
  some { template, parameters, key }

/-- The document of a message; a key that it does not have is left out. -/
def toDocument (message : MessageDefinition) : Document :=
  .ofNamed ([("template", .string message.template),
    ("params", .sequence (message.parameters.map .string))] ++
    message.key.toList.map fun key => ("key", .string key))

end MessageDefinition

namespace BundleDefinition

/-- The messages that the entries of a document write. -/
def messages? (format : Format) (document : Document) :
    Option (Roster MessageDefinition) := do
  let entries ← document.entries?
  let messages ← Document.readAll? (MessageDefinition.ofDocument? format)
    (entries.map Prod.snd)
  some (.ofList ((entries.map Prod.fst).zip messages))

def ofDocument? (format : Format) (document : Document) :
    Option BundleDefinition := do
  let record ← format.record? ["bundle", "locale", "localized", "defaultKey",
    "messages"] document
  let bundle ← record.required? 0 Document.string?
  let locale ← record.default? 1 none (Document.nullOr? Document.string?)
  let localized ← record.default? 2 false Document.bool?
  let defaultKey ← record.default? 3 .elementName KeyStrategy.ofDocument?
  let messages ← record.default? 4 [] (messages? format)
  some { bundle, locale, localized, defaultKey, messages }

/-- The document of a definition; a locale that it does not have is left out. -/
def toDocument (definition : BundleDefinition) : Document :=
  .ofNamed ([("bundle", .string definition.bundle)] ++
    (definition.locale.toList.map fun locale => ("locale", .string locale)) ++
    [("localized", .bool definition.localized),
      ("defaultKey", .string definition.defaultKey.name),
      ("messages", .ofNamed (definition.messages.map fun (method, message) =>
        (method, message.toDocument)))])

/-- Adds a message, or replaces the one of the method. -/
def addMessage
    (method : String) (message : MessageDefinition)
    (definition : BundleDefinition) :
    BundleDefinition :=
  { definition with messages := definition.messages.put method message }

/-- The key of a method: the one of its message, otherwise by the strategy of
the bundle. -/
def keyFor (definition : BundleDefinition) (method : String) : String :=
  ((definition.messages.get? method).bind MessageDefinition.key).getD
    (definition.defaultKey.apply method)

end BundleDefinition
end Phrasebook
