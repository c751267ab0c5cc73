import Phrasebook.Catalog

/-!
# Checking a catalog

The templates of a catalog are checked without evaluating anything. The
templates of a message may look up the parameters of the message only, and every
use of the namespace of a bundle, also inside arguments, must name one of its
messages and give it the right number of arguments. A parameter that a template
of its message never uses is worth a warning.
-/

namespace Phrasebook

/-- What cannot work about an expression. -/
inductive Complaint where
  | notParameter (name bundle method : String)
  | unknownMessage (bundle method : String)
  | argumentCount (bundle method : String) (expected actual : Nat)
  deriving DecidableEq, Repr

def Complaint.text : Complaint → String
  | .notParameter name bundle method =>
    "'" ++ name ++ "' is not a parameter of message " ++ bundle ++ ":" ++ method
  | .unknownMessage bundle method =>
    "bundle '" ++ bundle ++ "' has no message '" ++ method ++ "'"
  | .argumentCount bundle method expected actual =>
    "message " ++ bundle ++ ":" ++ method ++ " expects " ++ toString expected ++
      " argument(s), got " ++
      toString actual

/-- The message that a complaint about a parameter is about. -/
def Complaint.message? : Complaint → Option (String × String)
  | .notParameter _ bundle method => some (bundle, method)
  | _ => none

/-- A complaint about an expression. -/
structure Diagnostic where
  expression : String
  origin : Origin
  complaint : Complaint
  deriving DecidableEq, Repr

namespace Diagnostic

def of (expression : Expression) (complaint : Complaint) : Diagnostic :=
  ⟨expression.text, expression.origin, complaint⟩

def text (diagnostic : Diagnostic) : String :=
  "\x7b" ++ diagnostic.expression ++ "\x7d in " ++
    diagnostic.origin.text ++ ": " ++
    diagnostic.complaint.text

/-- Puts neighbouring complaints about the parameters of one message into the
order of their templates. -/
def inTemplateOrder (diagnostics : List Diagnostic) : List Diagnostic :=
  (diagnostics.splitBy fun left right =>
    left.complaint.message?.isSome &&
      left.complaint.message? == right.complaint.message?).flatMap
      fun run => run.mergeSort fun left right =>
        left.origin.template ≤ right.origin.template

end Diagnostic

namespace Template

/-- All expressions of a template, each followed by the argument expressions
inside it. -/
def allExpressions (template : Template) : List Expression :=
  template.expressions.flatMap Expression.withArguments

/-- The names that the expressions of a template look up in the data of its
render. -/
def lookedUp (template : Template) : List String :=
  template.allExpressions.filterMap Expression.topLevelName?

end Template

namespace Message

/-- The bodies of a message, the default one first, then by locale. -/
def bodies (message : Message) : List Body :=
  message.default :: message.localized.map Prod.snd

/-- The registered templates of a message with their ids. -/
def templates (message : Message) (registry : Registry) :
    List (String × Template) :=
  message.bodies.filterMap fun
    | .constant _ => none
    | .template id => (registry.templates.get? id).map fun template =>
      (id, template)

/-- Complaints about what the expressions of a template of a message look up. -/
def parameterDiagnostics
    (bundle : String) (message : Message) (template : Template) :
    List Diagnostic :=
  template.allExpressions.filterMap fun expression =>
    match expression.topLevelName? with
    | some name =>
      if message.parameters.contains name then none
      else some (.of expression (.notParameter name bundle message.method))
    | none => none

/-- Warnings about the parameters that a template of a message never uses. -/
def unusedParameters (message : Message) (id : String) (template : Template) :
    List Event :=
  (message.parameters.filter fun parameter =>
    !template.lookedUp.contains parameter).map
    (.unusedParameter id)

end Message

namespace Catalog

/-- The complaint about a use of the namespace of a bundle, if there is one. -/
def namespaceComplaint? (catalog : Catalog) (expression : Expression) :
    Option Complaint := do
  let qualifier ← expression.qualifier
  let bundle ← catalog.bundle? qualifier
  let part ← expression.parts.head?
  match bundle.byMethod? part.name with
  | none => some (.unknownMessage qualifier part.name)
  | some message =>
    let actual := part.arguments.length
    if actual = message.parameters.length then none
    else
      some (.argumentCount qualifier message.method message.parameters.length
        actual)

/-- The templates of all messages, each with its bundle, its message and its
id. -/
def messageTemplates (catalog : Catalog) (registry : Registry) :
    List (String × Message × String × Template) :=
  catalog.bundles.flatMap fun bundle => bundle.messages.flatMap fun message =>
    (message.templates registry).map fun (id, template) =>
      (bundle.name, message, id, template)

/-- Complaints about the parameters of messages. -/
def parameterDiagnostics (catalog : Catalog) (registry : Registry) :
    List Diagnostic :=
  (catalog.messageTemplates registry).flatMap fun (bundle, message, _,
      template) =>
    message.parameterDiagnostics bundle template

/-- Complaints about the uses of the namespaces of bundles in all registered
templates. -/
def namespaceDiagnostics (catalog : Catalog) (registry : Registry) :
    List Diagnostic :=
  registry.templates.flatMap fun (_, template) =>
    template.allExpressions.filterMap fun expression =>
      (catalog.namespaceComplaint? expression).map (Diagnostic.of expression)

/-- Warnings about parameters that are never used. -/
def warnings (catalog : Catalog) (registry : Registry) : List Event :=
  (catalog.messageTemplates registry).flatMap fun (_, message, id, template) =>
    message.unusedParameters id template

/-- Checks every template of a catalog and reports the warnings. -/
def validate (catalog : Catalog) (state : EngineState) :
    List Diagnostic × EngineState :=
  (catalog.parameterDiagnostics state.registry ++
    catalog.namespaceDiagnostics state.registry,
    (catalog.warnings state.registry).foldl (fun state event =>
      state.log event) state)

end Catalog
end Phrasebook
