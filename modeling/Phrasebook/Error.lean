import Phrasebook.Template.Basic

/-!
# Failures of rendering

A resolution error carries the text and the origin of the expression that failed
and the reason. An engine error is a resolution error, a template that is not
registered, a placeholder that cannot be read, or the loss of the thread that
drives a render. What resolvers and mappers report is a cause;
`EngineError.ofCause` turns the cause of a resolver into the error of the
expression it failed for.
-/

namespace Phrasebook

mutual

/-- What a resolver, a supplier or a mapper reports as the cause of its
failure. -/
inductive Cause where
  | message (text : String)
  | resolution (error : ResolutionError)
  | engine (error : EngineError)
  deriving Repr

/-- Why the evaluation of an expression failed. -/
inductive Reason where
  | namespaceUnresolved (qualifier : String)
  | resolverFailure (cause : Cause)
  | mapperFailure (cause : Cause)
  | propertyNotFound
  | foreignAsyncValue
  deriving Repr

/-- The failure of one expression: the reason, the text of the expression and
its origin. -/
inductive ResolutionError where
  | mk (reason : Reason) (expression : String) (origin : Origin)
  deriving Repr

/-- The failure of an operation of the engine. -/
inductive EngineError where
  | templateNotFound (id : String)
  | parse (template : String) (line : Nat) (error : PlaceholderError)
  | render (error : ResolutionError)
  | runtime (message : String)
  | threadLost
  deriving Repr

end

instance : Inhabited EngineError := ⟨.runtime ""⟩

namespace ResolutionError

def of (reason : Reason) (expression : Expression) : ResolutionError :=
  .mk reason expression.text expression.origin

/-- Why the expression failed. -/
def reason : ResolutionError → Reason
  | .mk reason _ _ => reason

/-- The text of the expression that failed. -/
def expression : ResolutionError → String
  | .mk _ expression _ => expression

/-- The origin of the expression that failed. -/
def origin : ResolutionError → Origin
  | .mk _ _ origin => origin

def kind (error : ResolutionError) : String :=
  match error.reason with
  | .namespaceUnresolved _ => "NamespaceUnresolved"
  | .resolverFailure _ => "ResolverFailure"
  | .mapperFailure _ => "MapperFailure"
  | .propertyNotFound => "PropertyNotFound"
  | .foreignAsyncValue => "ForeignAsyncValue"

end ResolutionError

/-- What a caller hears who waited for a render whose thread was lost. -/
def threadLostText : String := "blocking render thread panicked"

mutual

def Cause.text : Cause → String
  | .message text => text
  | .resolution error => error.message
  | .engine error => error.message

/-- The message of a resolution error, with the expression in braces and its
origin. -/
def ResolutionError.message : ResolutionError → String
  | .mk reason expression origin =>
    let place := "\x7b" ++ expression ++ "\x7d (" ++ origin.text ++ ")"
    match reason with
    | .namespaceUnresolved qualifier =>
      "No namespace resolver registered for [" ++ qualifier ++ "] in " ++ place
    | .resolverFailure cause =>
      "Resolver failed for " ++ place ++ ": " ++ cause.text
    | .mapperFailure cause =>
      "Result mapper failed for " ++ place ++ ": " ++ cause.text
    | .propertyNotFound => "Property not found: " ++ place
    | .foreignAsyncValue =>
      "Foreign async value returned for " ++ place ++
        " while unrestricted async values are disabled"

def EngineError.message : EngineError → String
  | .templateNotFound id => "Template not found: " ++ id
  | .parse template line error =>
    "Parse error in template [" ++ template ++ "] line " ++ toString line ++
      ": " ++ error.message
  | .render error => error.message
  | .runtime message => "Async runtime error: " ++ message
  | .threadLost => "Async runtime error: " ++ threadLostText

end

namespace EngineError

/-- The error of an expression for which a resolver or supplier failed. A cause
that already is the error of an expression is passed on as it is, and every
other cause becomes a resolver failure of this expression. A lost thread takes
all the renders with it that it was driving, so the loss is handed on as
well. -/
def ofCause (cause : Cause) (expression : Expression) : EngineError :=
  match cause with
  | .resolution error => .render error
  | .engine (.render error) => .render error
  | .engine .threadLost => .threadLost
  | cause => .render (.of (.resolverFailure cause) expression)

def kind : EngineError → String
  | .templateNotFound _ => "TemplateNotFound"
  | .parse _ _ _ => "Parse"
  | .render error => error.kind
  | .runtime _ => "Runtime"
  | .threadLost => "Runtime"

/-- The error in the hands of a caller who waited on a thread of its own: the
loss ends there. -/
def afterWaiting : EngineError → EngineError
  | .threadLost => .runtime threadLostText
  | error => error

end EngineError
end Phrasebook
