import Phrasebook.Yaml.Token

/-!
# Nodes

A text holds one node: a scalar, a sequence or a mapping, with an anchor and a
tag if it has them, or an alias of a node with an anchor. `Node.ofTokens?`
builds it from tokens. Where a node is expected and none is written, an empty
plain scalar stands.
-/

namespace Phrasebook.Yaml

/-- What may stand before a node. -/
structure Properties where
  anchor : Option Nat := none
  tag : Option String := none
  deriving DecidableEq, Repr

/-- A node. -/
inductive Node where
  | alias (anchor : Nat)
  | scalar (properties : Properties) (style : ScalarStyle) (text : String)
  | sequence (properties : Properties) (items : List Node)
  | mapping (properties : Properties) (entries : List (Node × Node))
  deriving Repr

namespace Node

/-- The node that stands where none is written. -/
def empty : Node := .scalar {} .plain ""

/-- Whether one of some tokens comes first. -/
def next (among : List Token) (tokens : List Token) : Bool :=
  tokens.head?.any among.contains

/-- The tag of a node at the start of some tokens; its handle has to be
declared. -/
def tag? (handles : Handles) : List Token → Option (Option String × List Token)
  | .tag tag :: rest => (tag.text? handles).map fun text => (some text, rest)
  | tokens => some (none, tokens)

/-- The anchor of a node at the start of some tokens. -/
def anchor : List Token → Option Nat × List Token
  | .anchor number :: rest => (some number, rest)
  | tokens => (none, tokens)

/-- The anchor and the tag of a node, in any order. -/
def properties? (handles : Handles) (tokens : List Token) :
    Option (Properties × List Token) :=
  match anchor tokens with
  | (some number, rest) => (tag? handles rest).map fun (tag, rest) =>
    (⟨some number, tag⟩, rest)
  | (none, rest) => do
    let (tag, rest) ← tag? handles rest
    let (number, rest) := if tag.isSome then anchor rest else (none, rest)
    some (⟨number, tag⟩, rest)

mutual

/-- A node at the start of some tokens. `block` says whether it may be a block,
and `indentless` whether it may be a block sequence at the indentation of the
mapping around it. -/
def node? (fuel : Nat) (handles : Handles) (block indentless : Bool)
    (tokens : List Token) :
    Option (Node × List Token) :=
  match fuel with
  | 0 => none
  | fuel + 1 =>
    match tokens with
    | .alias number :: rest => some (.alias number, rest)
    | tokens => do
      let (properties, rest) ← properties? handles tokens
      match rest with
      | .scalar style text :: rest =>
        let tag := if properties.tag = some "!" then none else properties.tag
        some (.scalar { properties with tag } style text, rest)
      | .flowSequenceStart :: rest =>
        (flowItems? fuel handles rest).map fun (items, rest) =>
          (.sequence properties items, rest)
      | .flowMappingStart :: rest =>
        (flowEntries? fuel handles rest).map fun (entries, rest) =>
          (.mapping properties entries, rest)
      | rest =>
        if indentless && next [.blockEntry] rest then
          (indentlessItems? fuel handles rest).map fun (items, rest) =>
            (.sequence properties items, rest)
        else if block && next [.blockSequenceStart] rest then
          (blockItems? fuel handles (rest.drop 1)).map fun (items, rest) =>
            (.sequence properties items, rest)
        else if block && next [.blockMappingStart] rest then
          (blockEntries? fuel handles (rest.drop 1)).map fun (entries, rest) =>
            (.mapping properties entries, rest)
        else if properties = {} then none
        else some (.scalar properties .plain "", rest)

/-- A node unless one of some tokens comes first, before which nothing is
written. -/
def nodeBefore? (fuel : Nat) (handles : Handles) (block indentless : Bool)
    (ends : List Token)
    (tokens : List Token) : Option (Node × List Token) :=
  match fuel with
  | 0 => none
  | fuel + 1 =>
    if next ends tokens then some (empty, tokens)
      else node? fuel handles block indentless tokens

/-- The items of a block sequence up to its end. -/
def blockItems? (fuel : Nat) (handles : Handles) (tokens : List Token) :
    Option (List Node × List Token) :=
  match fuel with
  | 0 => none
  | fuel + 1 =>
    match tokens with
    | .blockEntry :: rest => do
      let (item, rest) ← nodeBefore? fuel handles true false [.blockEntry,
        .blockEnd] rest
      let (items, rest) ← blockItems? fuel handles rest
      some (item :: items, rest)
    | .blockEnd :: rest => some ([], rest)
    | _ => none

/-- The items of a block sequence at the indentation of the mapping around
it. -/
def indentlessItems? (fuel : Nat) (handles : Handles) (tokens : List Token) :
    Option (List Node × List Token) :=
  match fuel with
  | 0 => none
  | fuel + 1 =>
    match tokens with
    | .blockEntry :: rest => do
      let (item, rest) ←
        nodeBefore? fuel handles true false [.blockEntry, .key, .value,
          .blockEnd] rest
      let (items, rest) ← indentlessItems? fuel handles rest
      some (item :: items, rest)
    | rest => some ([], rest)

/-- The entries of a block mapping up to its end. -/
def blockEntries? (fuel : Nat) (handles : Handles) (tokens : List Token) :
    Option (List (Node × Node) × List Token) :=
  match fuel with
  | 0 => none
  | fuel + 1 =>
    match tokens with
    | .key :: rest => do
      let (key, rest) ← nodeBefore? fuel handles true true [.key, .value,
        .blockEnd] rest
      let (value, rest) ←
        match rest with
        | .value :: rest =>
          nodeBefore? fuel handles true true [.key, .value, .blockEnd] rest
        | rest => some (empty, rest)
      let (entries, rest) ← blockEntries? fuel handles rest
      some ((key, value) :: entries, rest)
    | .blockEnd :: rest => some ([], rest)
    | _ => none

/-- The items of a flow sequence up to its end. An item with a key is a mapping
of one entry. -/
def flowItems? (fuel : Nat) (handles : Handles) (tokens : List Token) :
    Option (List Node × List Token) :=
  match fuel with
  | 0 => none
  | fuel + 1 =>
    match tokens with
    | .flowSequenceEnd :: rest => some ([], rest)
    | tokens => do
      let (item, rest) ←
        match tokens with
        | .key :: rest => pair? fuel handles rest
        | tokens => node? fuel handles false false tokens
      match rest with
      | .flowSequenceEnd :: rest => some ([item], rest)
      | .flowEntry :: rest =>
        let (items, rest) ← flowItems? fuel handles rest
        some (item :: items, rest)
      | _ => none

/-- The mapping of one entry after the mark of its key. Where no key is written,
the token that shows it is passed over. -/
def pair? (fuel : Nat) (handles : Handles) (tokens : List Token) :
    Option (Node × List Token) :=
  match fuel with
  | 0 => none
  | fuel + 1 => do
    let (key, rest) ←
      if next [.value, .flowEntry, .flowSequenceEnd] tokens
        then some (empty, tokens.drop 1)
      else node? fuel handles false false tokens
    let (value, rest) ←
      match rest with
      | .value :: rest =>
        nodeBefore? fuel handles false false [.flowEntry, .flowSequenceEnd] rest
      | rest => some (empty, rest)
    some (.mapping {} [(key, value)], rest)

/-- The entries of a flow mapping up to its end. A node that is not marked as a
key has no value. -/
def flowEntries? (fuel : Nat) (handles : Handles) (tokens : List Token) :
    Option (List (Node × Node) × List Token) :=
  match fuel with
  | 0 => none
  | fuel + 1 =>
    match tokens with
    | .flowMappingEnd :: rest => some ([], rest)
    | tokens => do
      let (key, rest) ←
        match tokens with
        | .key :: rest =>
          nodeBefore? fuel handles false false [.value, .flowEntry,
            .flowMappingEnd] rest
        | tokens => node? fuel handles false false tokens
      let (value, rest) ←
        match rest with
        | .value :: rest =>
          if next [.key] tokens then
            nodeBefore? fuel handles false false [.flowEntry,
              .flowMappingEnd] rest
          else none
        | rest => some (empty, rest)
      match rest with
      | .flowMappingEnd :: rest => some ([(key, value)], rest)
      | .flowEntry :: rest =>
        let (entries, rest) ← flowEntries? fuel handles rest
        some ((key, value) :: entries, rest)
      | _ => none

end

/-- The directives at the head of some tokens. -/
def directives : List Token → List Directive × List Token
  | .directive directive :: rest =>
    let (directives, rest) := directives rest
    (directive :: directives, rest)
  | tokens => ([], tokens)

/-- Whether directives agree with a reader of versions 1.1 and 1.2: at most one
of them tells the version, and no handle is declared twice. -/
def areValid : List Directive → Bool
  | [] => true
  | .version major minor :: rest =>
    major == 1 && (minor == 1 || minor == 2) && areValid rest &&
      rest.all fun | .version .. => false | .handle .. => true
  | .handle handle _ :: rest =>
    areValid rest && rest.all fun
      | .version .. => true
      | .handle other _ => other ≠ handle

/-- The handles that directives declare, before those of every document. -/
def handles (directives : List Directive) : Handles :=
  directives.filterMap (fun
    | .version .. => none
    | .handle handle start => some (handle, start)) ++ standardHandles

/-- The node of a document after its start mark; nothing need follow the
mark. -/
def content? (fuel : Nat) (handles : Handles) (tokens : List Token) :
    Option (Node × List Token) :=
  match tokens with
  | [] => some (empty, [])
  | .directive _ :: _ => some (empty, tokens)
  | tokens =>
    if next [.documentStart, .documentEnd] tokens then some (empty, tokens)
    else node? fuel handles true false tokens

/-- The node of the document at the start of some tokens. A document with
directives has a start mark. -/
def document? (fuel : Nat) (tokens : List Token) : Option (Node × List Token) :=
  match directives tokens with
  | ([], []) => some (empty, [])
  | (declared, .documentStart :: rest) =>
    if areValid declared then content? fuel (handles declared) rest else none
  | ([], rest) => node? fuel standardHandles true false rest
  | _ => none

/-- The node of some tokens; none when they are not one document. -/
def ofTokens? (tokens : List Token) : Option Node :=
  match document? (3 * tokens.length + 3) tokens with
  | some (node, rest) => if rest.all (· = .documentEnd) then some node else none
  | none => none

end Node
end Phrasebook.Yaml
