import Phrasebook.Bundle.Basic
import Phrasebook.Bundle.Error

/-!
# Assembling bundles

Definitions are assembled into bundles. The default bundles come first and need
valid names, each used once, and keys that differ within a bundle. Then the
localized overrides are merged: each needs a locale, a default bundle, a locale
that the bundle does not have yet, and overrides only messages of the default.
Every body with a placeholder brings a template source.
-/

namespace Phrasebook

/-- Bundles and the sources of their templates, each with its template id. -/
structure Assembly where
  bundles : List Bundle := []
  sources : List (String × String) := []
  deriving DecidableEq, Repr

namespace Assembly

/-- Whether a name may name a bundle: a lower case letter, then letters, digits
and underscores, all in ASCII. -/
def isBundleName (name : String) : Bool :=
  match name.toList with
  | [] => false
  | first :: rest =>
    first.isLower && rest.all fun character =>
      character.isAlphanum || character == '_'

/-- The template source that a body brings. -/
def sourceOf (body : Body) (source : String) : List (String × String) :=
  match body with
  | .constant _ => []
  | .template id => [(id, source)]

/-- Adds the messages of a default bundle to those before them; fails at the
first key that is taken. -/
def addMessages (definition : BundleDefinition) (messages : List Message)
    (sources : List (String × String)) (declared : Roster MessageDefinition) :
    Except BundleError (List Message × List (String × String)) :=
  match declared with
  | [] => .ok (messages, sources)
  | (method, message) :: rest =>
    let key := definition.keyFor method
    if messages.any fun other =>
      other.key == key then .error (.duplicateKey definition.bundle key)
    else
      let body :=
        Body.ofSource (templateId definition.bundle none key) message.template
      addMessages definition
        (messages ++ [⟨method, key, message.parameters, body, []⟩])
        (sources ++ sourceOf body message.template) rest

def addDefault (assembly : Assembly) (definition : BundleDefinition) :
    Except BundleError Assembly :=
  if !isBundleName definition.bundle
    then .error (.invalidName definition.bundle)
  else if assembly.bundles.any fun bundle =>
    bundle.name == definition.bundle then
    .error
      (.duplicateBundle definition.bundle (definition.locale.getD "default"))
  else
    match addMessages definition [] assembly.sources definition.messages with
    | .error error => .error error
    | .ok (messages, sources) =>
      .ok
        ⟨assembly.bundles ++
          [⟨definition.bundle, definition.locale, [], messages⟩], sources⟩

def localize (method locale : String) (body : Body) (messages : List Message) :
    List Message :=
  messages.map fun message =>
    if message.method = method
      then { message with localized := message.localized.insert locale body }
    else message

/-- Merges the messages of a localized override; fails at the first one that the
default does not have. -/
def overrideMessages (bundle locale : String) (messages : List Message)
    (sources : List (String × String)) (declared : Roster MessageDefinition) :
    Except BundleError (List Message × List (String × String)) :=
  match declared with
  | [] => .ok (messages, sources)
  | (method, message) :: rest =>
    match messages.find? fun other => other.method == method with
    | none => .error (.unknownLocalizedMessage bundle locale method)
    | some found =>
      let body :=
        Body.ofSource (templateId bundle (some locale) found.key)
          message.template
      overrideMessages bundle locale (localize method locale body messages)
        (sources ++ sourceOf body message.template) rest

/-- Merges a localized override. -/
def addLocalized (assembly : Assembly) (definition : BundleDefinition) :
    Except BundleError Assembly :=
  match definition.locale with
  | none => .error (.missingLocale definition.bundle)
  | some locale =>
    match assembly.bundles.find? fun bundle =>
      bundle.name == definition.bundle with
    | none => .error (.missingDefaultBundle definition.bundle locale)
    | some bundle =>
      if bundle.defaultLocale = some locale ∨ locale ∈ bundle.locales then
        .error (.duplicateBundle definition.bundle locale)
      else
        match overrideMessages bundle.name locale bundle.messages
            assembly.sources definition.messages with
        | .error error => .error error
        | .ok (messages, sources) =>
          let merged :=
            { bundle with messages, locales := bundle.locales ++ [locale] }
          .ok ⟨assembly.bundles.map fun other =>
            if other.name = bundle.name then merged else other, sources⟩

/-- Assembles definitions: the default bundles in order, then the overrides in
order. -/
def ofDefinitions (definitions : List BundleDefinition) :
    Except BundleError Assembly := do
  let defaults ← (definitions.filter fun definition =>
    !definition.localized).foldlM addDefault {}
  (definitions.filter BundleDefinition.localized).foldlM addLocalized defaults

end Assembly
end Phrasebook
