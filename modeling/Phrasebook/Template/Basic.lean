import Phrasebook.Expression.Parser

/-!
# Templates

Templates are plain text with placeholders. A parsed template has an id, under
which it may be registered, a generated id that no other parse shares, and its
nodes in source order.
-/

namespace Phrasebook

/-- A piece of a template: text, or the expression of a placeholder. -/
inductive TemplateNode where
  | text (text : String)
  | placeholder (expression : Expression)
  deriving Repr

namespace TemplateNode

def expression? : TemplateNode → Option Expression
  | .text _ => none
  | .placeholder expression => some expression

/-- Equality of nodes, with the equality of expressions on placeholders. -/
def same : TemplateNode → TemplateNode → Bool
  | .text left, .text right => left == right
  | .placeholder left, .placeholder right => left.same right
  | _, _ => false

end TemplateNode

/-- Why a placeholder could not be read. -/
inductive PlaceholderError where
  | unterminated
  | invalid (content : String) (error : ExpressionError)
  deriving DecidableEq, Repr

def PlaceholderError.message : PlaceholderError → String
  | .unterminated => "unterminated expression"
  | .invalid content error => error.message content

/-- A parsed template. -/
structure Template where
  id : String
  generatedId : String
  nodes : List TemplateNode
  deriving Repr

/-- The expressions of a template's placeholders in source order. -/
def Template.expressions (template : Template) : List Expression :=
  template.nodes.filterMap TemplateNode.expression?

end Phrasebook
