import Phrasebook.Bundle.Definition
import Phrasebook.Dictionary

/-!
# Bundles of messages

A bundle holds messages by method, each with a default body and the bodies of
the locales that override it. A body is fixed text, or the id of the registered
template that renders it.
-/

namespace Phrasebook

/-- The content of a message in one locale. -/
inductive Body where
  | constant (text : String)
  | template (id : String)
  deriving DecidableEq, Repr

def templateId (bundle : String) (locale : Option String) (key : String) :
    String :=
  match locale with
  | some locale => bundle ++ "_" ++ locale ++ "_" ++ key
  | none => bundle ++ "_" ++ key

/-- The body of a source text under a template id: text without a closing brace
is fixed. -/
def Body.ofSource (id source : String) : Body :=
  if source.contains '\x7d' then .template id else .constant source

/-- A message of a bundle. -/
structure Message where
  method : String
  key : String
  parameters : List String
  default : Body
  localized : Dictionary Body := []
  deriving DecidableEq, Repr

/-- The body of a message for a locale: the one of the locale if there is one,
otherwise the default. -/
def Message.body (message : Message) (locale : Option String) : Body :=
  (locale.bind message.localized.get?).getD message.default

/-- A default bundle merged with its localized overrides; `locales` are theirs
in the order of definition. -/
structure Bundle where
  name : String
  defaultLocale : Option String
  locales : List String := []
  messages : List Message
  deriving DecidableEq, Repr

namespace Bundle

def byMethod? (bundle : Bundle) (method : String) : Option Message :=
  bundle.messages.find? fun message => message.method == method

def byKey? (bundle : Bundle) (key : String) : Option Message :=
  bundle.messages.find? fun message => message.key == key

end Bundle
end Phrasebook
