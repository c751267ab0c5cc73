import Phrasebook.Engine.Render
import Phrasebook.Proofs.Grammar.Acceptance

/-!
# Renaming templates

A template can stand under another id.  Then the origins in its expressions are
other ones, at every depth, and nothing else about them: the expressions have
the same shape, the same names and the same constants, and a source that is
parsed under both ids has the same nodes up to the renaming.
-/

namespace Phrasebook

variable (ids : String → String)

def Origin.rename (origin : Origin) : Origin :=
  ⟨ids origin.template, origin.line⟩

namespace Expression

mutual

/-- An expression with the templates of its origins renamed. -/
def rename : Expression → Expression
  | .mk qualifier parts constant origin =>
    .mk qualifier (renameParts parts) constant (origin.rename ids)

def renamePart : Part → Part
  | .property name => .property name
  | .method name arguments => .method name (renameAll arguments)

def renameParts : List Part → List Part
  | [] => []
  | part :: rest => renamePart part :: renameParts rest

def renameAll : List Expression → List Expression
  | [] => []
  | expression :: rest => rename expression :: renameAll rest

end

end Expression

/-- A part with the templates of its argument expressions renamed. -/
def Part.rename (part : Part) : Part :=
  Expression.renamePart ids part

/-- A result with the template of its expression renamed. -/
def ResultNode.rename : ResultNode → ResultNode
  | .constant text => .constant text
  | .single value expression => .single value (expression.rename ids)

def Settled.rename : Settled → Settled
  | .node result => .node (result.rename ids)
  | settled => settled

def TemplateNode.rename : TemplateNode → TemplateNode
  | .text written => .text written
  | .placeholder expression => .placeholder (expression.rename ids)

/-- What an event says about a template, said about the renamed one. -/
def Event.rename : Event → Event
  | .registeredTemplate template => .registeredTemplate (ids template)
  | .renderingTemplate template => .renderingTemplate (ids template)
  | .resolveStarted expression => .resolveStarted (expression.rename ids)
  | .resolveCompleted expression found =>
    .resolveCompleted (expression.rename ids) found
  | .unusedParameter template parameter =>
    .unusedParameter (ids template) parameter
  | event => event

section Shape

variable {ids}

@[simp]
theorem Expression.qualifier_rename (expression : Expression) :
    (expression.rename ids).qualifier = expression.qualifier := by
  cases expression
  rfl

@[simp]
theorem Expression.parts_rename (expression : Expression) :
    (expression.rename ids).parts =
      Expression.renameParts ids expression.parts := by
  cases expression
  rfl

@[simp]
theorem Part.name_rename
    (part : Part) : (part.rename ids).name = part.name := by
  cases part <;> rfl

@[simp]
theorem Part.isMethod_rename
    (part : Part) : (part.rename ids).isMethod = part.isMethod := by
  cases part <;> rfl

@[simp]
theorem Expression.literalValue?_rename (expression : Expression) :
    (expression.rename ids).literalValue? = expression.literalValue? := by
  rcases expression with ⟨_ | _, _ | ⟨_, _ | _⟩, _, _⟩ <;> rfl

@[simp]
theorem Expression.isEmpty_renameParts (parts : List Part) :
    (Expression.renameParts ids parts).isEmpty = parts.isEmpty := by
  cases parts <;> rfl

@[simp]
theorem ResultNode.toValue_rename (node : ResultNode) :
    (node.rename ids).toValue = node.toValue := by
  rcases node with _ | ⟨_ | _, _⟩ <;> rfl

@[simp]
theorem Settled.isNotFound_rename (settled : Settled) :
    (settled.rename ids).isNotFound = settled.isNotFound := by
  cases settled <;> rfl

@[simp]
theorem Settled.toValue_rename (settled : Settled) :
    (settled.rename ids).toValue = settled.toValue := by
  cases settled with
  | value _ | notFound => rfl
  | node node => exact node.toValue_rename

/-- The result of a renamed expression is the renamed result. -/
theorem Settled.toNode_rename (expression : Expression) (settled : Settled) :
    (settled.rename ids).toNode (expression.rename ids) =
      (settled.toNode expression).rename ids := by
  cases settled <;> rfl

namespace Expression

mutual

/-- The argument expressions inside a renamed expression are the renamed
ones. -/
theorem withArguments_rename (expression : Expression) :
    (expression.rename ids).withArguments =
      expression.withArguments.map (rename ids) := by
  match expression with
  | .mk qualifier parts constant origin =>
      rw [rename, withArguments, withArguments, argumentsOfParts_rename,
        List.map_cons, rename]

/-- The arguments of renamed parts are the renamed arguments. -/
theorem argumentsOfParts_rename (parts : List Part) :
    argumentsOfParts (renameParts ids parts) =
      (argumentsOfParts parts).map (rename ids) := by
  match parts with
  | [] => rfl
  | .property _ :: rest =>
      rw [renameParts, renamePart, argumentsOfParts, argumentsOfParts,
        argumentsOfParts_rename]
  | .method _ arguments :: rest =>
      rw [renameParts, renamePart, argumentsOfParts, argumentsOfParts,
        argumentsOfAll_rename, argumentsOfParts_rename, List.map_append]

theorem argumentsOfAll_rename (expressions : List Expression) :
    argumentsOfAll (renameAll ids expressions) =
      (argumentsOfAll expressions).map (rename ids) := by
  match expressions with
  | [] => rfl
  | expression :: rest =>
      rw [renameAll, argumentsOfAll, argumentsOfAll, withArguments_rename,
        argumentsOfAll_rename, List.map_append]

end

end Expression

end Shape

section Identity

@[simp]
theorem Origin.rename_id (origin : Origin) : origin.rename id = origin :=
  rfl

namespace Expression

mutual

/-- Where every id stays, expressions stay. -/
@[simp]
theorem rename_id
    (expression : Expression) : expression.rename id = expression := by
  match expression with
  | .mk qualifier parts constant origin =>
      rw [rename, renameParts_id, Origin.rename_id]

@[simp]
theorem renamePart_id (part : Part) : renamePart id part = part := by
  match part with
  | .property _ => rfl
  | .method name arguments => rw [renamePart, renameAll_id]

@[simp]
theorem renameParts_id (parts : List Part) : renameParts id parts = parts := by
  match parts with
  | [] => rfl
  | part :: rest => rw [renameParts, renamePart_id, renameParts_id]

@[simp]
theorem renameAll_id (expressions : List Expression) :
    renameAll id expressions = expressions := by
  match expressions with
  | [] => rfl
  | expression :: rest => rw [renameAll, rename_id, renameAll_id]

end

end Expression

@[simp]
theorem Part.rename_id (part : Part) : part.rename id = part :=
  Expression.renamePart_id part

@[simp]
theorem ResultNode.rename_id (node : ResultNode) : node.rename id = node := by
  cases node <;> simp [rename]

@[simp]
theorem Settled.rename_id
    (settled : Settled) : settled.rename id = settled := by
  cases settled <;> simp [rename]

@[simp]
theorem TemplateNode.rename_id (node : TemplateNode) :
    node.rename id = node := by
  cases node <;> simp [rename]

@[simp]
theorem Event.rename_id (event : Event) : event.rename id = event := by
  cases event <;> simp [rename]

end Identity

section Parsing

namespace Grammar

variable (origin : Origin)

mutual

/-- The value of a derivation somewhere else is the renamed value. -/
theorem Tree.rename_value (tree : Tree) :
    (tree.value origin).rename ids = tree.value (origin.rename ids) := by
  match tree with
  | .quoted _ _ | .numeral _ _ | .keyword _ => rfl
  | .path _ first tail =>
      simp only [Tree.value, Expression.path, Expression.rename,
        Tail.rename_parts first.text tail]

/-- A tail that is read at a renamed origin gives renamed parts. -/
theorem Tail.rename_parts (name : String) (tail : Tail) :
    Expression.renameParts ids (tail.parts origin name) =
      tail.parts (origin.rename ids) name := by
  match tail with
  | .done => rfl
  | .dot next tail =>
      simp only [Tail.parts, Expression.renameParts, Expression.renamePart,
        Tail.rename_parts next.text tail]
  | .call between =>
      simp only [Tail.parts, Expression.renameParts, Expression.renamePart,
        Arguments.rename_values between]
  | .callDot between next tail =>
      simp only [Tail.parts, Expression.renameParts, Expression.renamePart,
        Arguments.rename_values between, Tail.rename_parts next.text tail]

theorem Arguments.rename_values (between : Arguments) :
    Expression.renameAll ids (between.values origin) =
      between.values (origin.rename ids) := by
  match between with
  | .none _ => rfl
  | .some items => exact Items.rename_values items

/-- Items that are read at a renamed origin give renamed values. -/
theorem Items.rename_values (items : Items) :
    Expression.renameAll ids (items.values origin) =
      items.values (origin.rename ids) := by
  match items with
  | .last _ item _ =>
      simp only [Items.values, Expression.renameAll, Tree.rename_value item]
  | .comma _ item _ rest =>
      simp only [Items.values, Expression.renameAll, Tree.rename_value item,
        Items.rename_values rest]

end

end Grammar

variable {ids}

/-- What is read at a renamed origin is the renamed expression. -/
theorem Expression.parse_rename
    {content : String} {origin : Origin} {expression : Expression}
    (parsed : Expression.parse content origin = .ok expression) :
    Expression.parse content (origin.rename ids) =
      .ok (expression.rename ids) := by
  rcases Grammar.Derivation.exists_of_parse parsed with ⟨derivation, split, rfl⟩
  rw [Grammar.Derivation.value, Grammar.Tree.rename_value]
  exact Grammar.Derivation.parse_text split

namespace TemplateNode

/-- Text has no origins that could be renamed. -/
theorem map_rename_ofPending (pending : List Char) :
    (ofPending pending).map (rename ids) = ofPending pending := by
  unfold ofPending
  split <;> rfl

/-- A source that is read under another id gives the renamed nodes. -/
theorem ofSource_rename
    {template : String} {line : Nat} {pending characters : List Char}
    {nodes : List TemplateNode}
    (read : ofSource template line pending characters = .ok nodes) :
    ofSource (ids template) line pending characters =
      .ok (nodes.map (rename ids)) := by
  fun_induction ofSource template line pending characters
      generalizing nodes with
  | case1 line pending =>
      cases read
      rw [ofSource, map_rename_ofPending]
  | case2 line pending rest ih =>
      rw [ofSource]
      exact ih read
  | case3 | case4 | case5 => cases read
  | case6 line pending next rest opens found content _ trimmed expression parsed
      later following =>
      rename_i ih
      cases read
      have here : Expression.parse trimmed ⟨ids template, line⟩ =
          .ok (expression.rename ids) :=
        Expression.parse_rename parsed
      rw [ofSource, if_pos opens, content]
      dsimp only
      rw [here, ih following, List.map_append, map_rename_ofPending]
      rfl
  | case7 line pending next rest opens ih =>
      rw [ofSource, if_neg opens]
      exact ih read
  | case8 line pending first rest noEscape noBrace ih =>
      rw [ofSource]
      · exact ih read
      · exact noEscape
      · exact noBrace

/-- A source that is a template is one under every id, with the same nodes. -/
theorem parse_rename
    {template source : String} {nodes : List TemplateNode}
    (parsed : parse template source = .ok nodes) :
    parse (ids template) source = .ok (nodes.map (rename ids)) :=
  ofSource_rename parsed

end TemplateNode

end Parsing

end Phrasebook
