import Phrasebook.Document.Basic
import Phrasebook.Yaml.Layout
import Phrasebook.Yaml.Node

/-!
# YAML documents

`Document.ofYamlText?` reads a whole text as one document. An alias is replaced
by the node with its anchor. Anchors may share a number; an alias then means the
last node in the order of writing. An alias may stand in its own node, so they
are followed only so far.
-/

namespace Phrasebook
namespace Yaml.Node

/-- The nodes that have a number among their properties, in the order of
writing. -/
def withAnchor (properties : Properties) (node : Node) : List (Nat × Node) :=
  properties.anchor.toList.map fun number => (number, node)

mutual

/-- The nodes with anchors in a node by their numbers, in the order of
writing. -/
def anchored : Node → List (Nat × Node)
  | .alias _ => []
  | .scalar properties style text =>
    withAnchor properties (.scalar properties style text)
  | .sequence properties items =>
    withAnchor properties (.sequence properties items) ++ anchoredItems items
  | .mapping properties entries =>
    withAnchor properties (.mapping properties entries) ++
      anchoredEntries entries

def anchoredItems : List Node → List (Nat × Node)
  | [] => []
  | item :: rest => anchored item ++ anchoredItems rest

def anchoredEntries : List (Node × Node) → List (Nat × Node)
  | [] => []
  | entry :: rest =>
    anchored entry.1 ++ (anchored entry.2 ++ anchoredEntries rest)

end

def behindTag (properties : Properties) (document : Document) : Document :=
  match properties.tag with
  | some tag => .tagged tag document
  | none => document

/-- The document of a scalar. A literal text with the tag of truth values is a
word. -/
def scalarDocument
    (properties : Properties) (style : ScalarStyle) (text : String) :
    Document :=
  behindTag properties <|
    match style with
    | .plain => .plain text
    | .literal =>
      if properties.tag = some (Document.standardTag "bool") ∧
        text ≠ "" then .plain text
      else .string text
    | .quoted | .folded => .string text

mutual

/-- The document of a node, aliases being followed in a given way. -/
def document (follow : Nat → Document) : Node → Document
  | .alias number => follow number
  | .scalar properties style text => scalarDocument properties style text
  | .sequence properties items =>
    behindTag properties (.sequence (documents follow items))
  | .mapping properties entries =>
    behindTag properties (.mapping (entryDocuments follow entries))

def documents (follow : Nat → Document) : List Node → List Document
  | [] => []
  | item :: rest => document follow item :: documents follow rest

def entryDocuments
    (follow : Nat → Document) : List (Node × Node) → List (Document × Document)
  | [] => []
  | entry :: rest =>
    (document follow entry.1, document follow entry.2) ::
      entryDocuments follow rest

end

/-- The document that an alias stands for. An alias inside more than a number of
followed ones is unreadable. -/
def follow (anchored : List (Nat × Node)) : Nat → Nat → Document
  | 0, _ => .unreadable
  | levels + 1, number =>
    match anchored.reverse.lookup number with
    | some node => document (follow anchored levels) node
    | none => .unreadable

/-- The number of aliases that are followed one inside another. No reader of
records looks deeper: under a record stand a mapping, its records, their lists,
and the items. -/
def aliasLevels : Nat := 4

end Yaml.Node

/-- The document written in YAML text; none when the text is not one
document. -/
def Document.ofYamlText? (text : String) : Option Document := do
  let tokens ← Yaml.Token.ofText? text
  let node ← Yaml.Node.ofTokens? tokens
  some (node.document (Yaml.Node.follow node.anchored Yaml.Node.aliasLevels))

end Phrasebook
