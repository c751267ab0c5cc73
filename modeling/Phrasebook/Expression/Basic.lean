import Phrasebook.Json.Printer

/-!
# Expressions

An expression, the content of a placeholder, is an optional namespace and a path
of parts. A part is a property or a method with argument expressions; a literal
is an expression with one part that shows its source text and a value. Every
expression knows its origin, the template and the line it was read from.
-/

namespace Phrasebook

/-- Where an expression was read from: a template and a line in it, counted from
one. -/
structure Origin where
  template : String
  line : Nat
  deriving DecidableEq, Repr, Inhabited

def Origin.text (origin : Origin) : String :=
  "template [" ++ origin.template ++ "] line " ++ toString origin.line

mutual

/-- A data access path. `qualifier` is its namespace, `literal` its value when
it is a constant. -/
inductive Expression where
  | mk (qualifier : Option String) (parts : List Part) (literal : Option Json)
      (origin : Origin)
  deriving Repr

/-- One step of a path: a property, or a method with argument expressions. -/
inductive Part where
  | property (name : String)
  | method (name : String) (arguments : List Expression)
  deriving Repr

end

namespace Part

/-- The name of a property or method. -/
def name : Part → String
  | .property name => name
  | .method name _ => name

/-- Whether a part is a method, even one without arguments. -/
def isMethod : Part → Bool
  | .property _ => false
  | .method _ _ => true

/-- The argument expressions of a part; a property has none. -/
def arguments : Part → List Expression
  | .property _ => []
  | .method _ arguments => arguments

end Part

instance : Inhabited Part := ⟨.property ""⟩

instance : Inhabited Expression := ⟨.mk none [] none default⟩

namespace Expression

def qualifier : Expression → Option String
  | .mk qualifier _ _ _ => qualifier

def parts : Expression → List Part
  | .mk _ parts _ _ => parts

/-- The stored constant of an expression, whatever its parts. -/
def constant : Expression → Option Json
  | .mk _ _ constant _ => constant

def origin : Expression → Origin
  | .mk _ _ _ origin => origin

def path (qualifier : Option String) (parts : List Part) (origin : Origin) :
    Expression :=
  .mk qualifier parts none origin

/-- The source text of a literal: texts in single quotes without escapes, all
else as data text. -/
def literalText : Json → String
  | .string value => "'" ++ value ++ "'"
  | value => value.text

def literal (value : Json) (origin : Origin) : Expression :=
  .mk none [.property (literalText value)] (some value) origin

/-- The unnamespaced path of the nonempty segments between dots. -/
def ofPath (text : String) (origin : Origin) : Expression :=
  path none (((text.toList.splitOn '.').filter (· ≠ [])).map fun segment =>
    .property (String.ofList segment)) origin

/-- The value of a literal: a constant with one part and no namespace. -/
def literalValue? : Expression → Option Json
  | .mk none [_] constant _ => constant
  | _ => none

/-- The name that an expression looks up in the data of a render, if it is
neither a literal nor namespaced. -/
def topLevelName? (expression : Expression) : Option String :=
  match expression.literalValue?, expression.qualifier with
  | none, none => expression.parts.head?.map Part.name
  | _, _ => none

mutual

def text : Expression → String
  | .mk qualifier parts _ _ =>
    (match qualifier with
      | some name => name ++ ":"
      | none => "") ++ String.intercalate "." (partTexts parts)

def partText : Part → String
  | .property name => name
  | .method name arguments =>
    name ++ "(" ++ String.intercalate ", " (texts arguments) ++ ")"

def partTexts : List Part → List String
  | [] => []
  | part :: rest => partText part :: partTexts rest

def texts : List Expression → List String
  | [] => []
  | expression :: rest => text expression :: texts rest

end

mutual

/-- Equality of expressions, with the equality of data values on constants. -/
def same : Expression → Expression → Bool
  | .mk qualifier parts constant origin,
      .mk qualifier' parts' constant' origin' =>
    qualifier == qualifier' && sameParts parts parts' &&
      (match constant, constant' with
        | none, none => true
        | some value, some value' => value.same value'
        | _, _ => false) && origin == origin'

def samePart : Part → Part → Bool
  | .property name, .property name' => name == name'
  | .method name arguments, .method name' arguments' =>
    name == name' && sameAll arguments arguments'
  | _, _ => false

def sameParts : List Part → List Part → Bool
  | [], [] => true
  | part :: rest, part' :: rest' => samePart part part' && sameParts rest rest'
  | _, _ => false

def sameAll : List Expression → List Expression → Bool
  | [], [] => true
  | expression :: rest, expression' :: rest' => same expression expression' &&
      sameAll rest rest'
  | _, _ => false

end

mutual

/-- An expression followed by the argument expressions inside it, each before
its own arguments. -/
def withArguments : Expression → List Expression
  | .mk qualifier parts constant origin =>
    .mk qualifier parts constant origin :: argumentsOfParts parts

def argumentsOfParts : List Part → List Expression
  | [] => []
  | .property _ :: rest => argumentsOfParts rest
  | .method _ arguments :: rest =>
    argumentsOfAll arguments ++ argumentsOfParts rest

/-- All expressions of a list with the argument expressions inside them. -/
def argumentsOfAll : List Expression → List Expression
  | [] => []
  | expression :: rest => withArguments expression ++ argumentsOfAll rest

end

end Expression

def Part.text (part : Part) : String :=
  Expression.partText part

end Phrasebook
