import Phrasebook.Document.Nesting
import Phrasebook.Document.Record
import Phrasebook.Expression.Basic
import Phrasebook.Json.Reader

/-!
# Expressions as documents

An expression is written as the record `namespace, parts, literal, origin`; a
part is a record with a `kind` that tells properties from methods. An absent
namespace or literal is written as null, so a literal whose value is null is
read back as an expression without a literal. `Expression.ofDocument?` reads
documents of any depth, `Expression.ofJsonText?` reads data text, whose nesting
is bounded wherever it is not passed over.
-/

namespace Phrasebook
namespace Origin

def toDocument (origin : Origin) : Document :=
  .ofNamed [("template_id", .string origin.template),
    ("line", .number (.integer origin.line))]

def ofDocument? (document : Document) : Option Origin := do
  let record ← Record.ofDocument? ["template_id", "line"] document
  let template ← record.required? 0 Document.string?
  let line ← record.required? 1 Document.index?
  some ⟨template, line⟩

end Origin

namespace Expression

mutual

def toDocument : Expression → Document
  | .mk qualifier parts constant origin =>
    .ofNamed [
      ("namespace", match qualifier with
        | some name => .string name
        | none => .null),
      ("parts", .sequence (partDocuments parts)),
      ("literal", match constant with
        | some value => Document.ofValue value
        | none => .null),
      ("origin", origin.toDocument)]

def partDocument : Part → Document
  | .property name =>
    .ofNamed [("kind", .string "property"), ("name", .string name)]
  | .method name arguments =>
    .ofNamed [("kind", .string "virtual_method"), ("name", .string name),
      ("parameters", .sequence (documents arguments))]

def partDocuments : List Part → List Document
  | [] => []
  | part :: rest => partDocument part :: partDocuments rest

def documents : List Expression → List Document
  | [] => []
  | expression :: rest => toDocument expression :: documents rest

end

/-- The two kinds of parts. -/
inductive PartKind where
  | property
  | method
  deriving DecidableEq, Repr

/-- The kind that a document names. Inside arguments it may also be given by its
number. -/
def PartKind.ofDocument? (nested : Bool) : Document → Option PartKind
  | .string "property" => some .property
  | .string "virtual_method" => some .method
  | .number (.integer 0) => if nested then some .property else none
  | .number (.integer 1) => if nested then some .method else none
  | _ => none

/-- The kind of a part and the document of its other fields. In a mapping the
kind stands once, anywhere; in a sequence it comes first. -/
def PartKind.split? (nested : Bool) : Document → Option (PartKind × Document)
  | .mapping entries => do
    let named ← Document.named? entries
    match named.filter fun entry => entry.1 == "kind" with
    | [entry] => (ofDocument? nested entry.2).map fun kind =>
      (kind, .ofNamed (named.filter fun entry => entry.1 != "kind"))
    | _ => none
  | .sequence (first :: rest) => (ofDocument? nested first).map fun kind =>
    (kind, .sequence rest)
  | _ => none

def fieldNames : List String :=
  ["namespace", "parts", "literal", "origin"]

mutual

/-- The expression that a document writes; `fuel` bounds the depth of
arguments. -/
def read? (fuel : Nat) (nested : Bool) (document : Document) :
    Option Expression :=
  match fuel with
  | 0 => none
  | fuel + 1 => do
    let record ← Record.ofDocument? fieldNames document
    let qualifier ← record.optional? 0 Document.string?
    let parts ← record.required? 1 fun parts =>
      parts.items?.bind (Document.readAll? (readPart? fuel nested))
    let constant ← record.optional? 2 Document.value?
    let origin ← record.required? 3 Origin.ofDocument?
    some (.mk qualifier parts constant origin)

/-- The part that a document writes. Nothing in it may be unreadable. -/
def readPart? (fuel : Nat) (nested : Bool) (document : Document) :
    Option Part :=
  match fuel with
  | 0 => none
  | fuel + 1 => do
    let _ ← document.value?
    let (kind, fields) ← PartKind.split? nested document
    match kind with
    | .property =>
      let record ← Record.ofDocument? ["name"] fields
      let name ← record.required? 0 Document.string?
      some (.property name)
    | .method =>
      let record ← Record.ofDocument? ["name", "parameters"] fields
      let name ← record.required? 0 Document.string?
      let arguments ← record.required? 1 fun arguments =>
        arguments.items?.bind (Document.readAll? (read? fuel true))
      some (.method name arguments)

end

/-- The nesting of the parts that a document writes; the arguments stand in
them. -/
def partsNesting (document : Document) : Nat :=
  match (Record.ofDocument? fieldNames document).bind fun record =>
    record.field 1 with
  | some parts => parts.nesting
  | none => 0

def ofDocument? (document : Document) : Option Expression :=
  read? (partsNesting document + 1) false document

/-- Whether the parts and the literal that a document writes stand within the
levels of nesting that are left to them. One of the levels that a text may have
is taken by the expression itself. -/
def nestsWell (document : Document) : Bool :=
  match Record.ofDocument? fieldNames document with
  | some record =>
    (record.field 1).all (fun parts =>
      parts.nestsWithin (Json.nestingLimit - 1)) &&
      (record.field 2).all (fun constant =>
        constant.nestsWithin (Json.nestingLimit - 1))
  | none => false

/-- The expression that data text writes. -/
def ofJsonText? (text : String) : Option Expression :=
  (Document.ofJsonText? text).bind fun document =>
    if nestsWell document then ofDocument? document else none

end Expression
end Phrasebook
