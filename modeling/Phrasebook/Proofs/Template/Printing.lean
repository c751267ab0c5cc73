import Phrasebook.Proofs.Template.Embedding

/-!
# Printing templates

Nodes are written one after the other, a text with a backslash before each of
its opening braces and an expression as its text between braces.  Nodes that a
template can have are read back from what was written: a written text is one
run, whatever stands in it, and the text of an expression is the content of its
placeholder.  Only the places of the expressions are new, for each of them is
where its opening brace has been written.

A text that ends in a backslash has to be kept away from a placeholder behind
it, since that backslash would take the brace of the placeholder for text.
-/

namespace Phrasebook

namespace Expression

mutual

/-- The same expression at another place, which the argument expressions inside
it share. -/
def relocate (origin : Origin) : Expression → Expression
  | .mk qualifier parts constant _ =>
    .mk qualifier (relocateParts origin parts) constant origin

def relocatePart (origin : Origin) : Part → Part
  | .property name => .property name
  | .method name arguments => .method name (relocateAll origin arguments)

def relocateParts (origin : Origin) : List Part → List Part
  | [] => []
  | part :: rest => relocatePart origin part :: relocateParts origin rest

def relocateAll (origin : Origin) : List Expression → List Expression
  | [] => []
  | expression :: rest => relocate origin expression :: relocateAll origin rest

end

variable {origin : Origin}

mutual

/-- All expressions inside a relocated one have the new origin. -/
theorem origin_of_mem_relocate (expression : Expression) :
    ∀ inner ∈ (expression.relocate origin).withArguments,
      inner.origin = origin := by
  match expression with
  | .mk qualifier parts constant _ =>
      rw [relocate, withArguments, List.forall_mem_cons]
      exact ⟨rfl, origin_of_mem_relocateParts parts⟩

/-- All arguments of relocated parts have the new origin. -/
theorem origin_of_mem_relocateParts (parts : List Part) :
    ∀ inner ∈ argumentsOfParts (relocateParts origin parts),
      inner.origin = origin := by
  match parts with
  | [] => exact List.forall_mem_nil _
  | .property _ :: rest => exact origin_of_mem_relocateParts rest
  | .method _ arguments :: rest =>
      exact List.forall_mem_append.mpr
        ⟨origin_of_mem_relocateAll arguments, origin_of_mem_relocateParts rest⟩

/-- All arguments inside relocated expressions have the new origin. -/
theorem origin_of_mem_relocateAll (expressions : List Expression) :
    ∀ inner ∈ argumentsOfAll (relocateAll origin expressions),
      inner.origin = origin := by
  match expressions with
  | [] => exact List.forall_mem_nil _
  | expression :: rest =>
      exact List.forall_mem_append.mpr
        ⟨origin_of_mem_relocate expression, origin_of_mem_relocateAll rest⟩

end

end Expression

namespace Grammar

variable (origin place : Origin)

mutual

/-- The value of a derivation, at another place. -/
theorem Tree.relocate_value (tree : Tree) :
    (tree.value origin).relocate place = tree.value place := by
  match tree with
  | .quoted _ _ | .numeral _ _ | .keyword _ => rfl
  | .path _ first tail =>
      simp only [Tree.value, Expression.path, Expression.relocate,
        Tail.relocate_parts first.text tail]

/-- Relocating a tail is reading it at the other place. -/
theorem Tail.relocate_parts (name : String) (tail : Tail) :
    Expression.relocateParts place (tail.parts origin name) =
      tail.parts place name := by
  match tail with
  | .done => rfl
  | .dot next tail =>
      simp only [Tail.parts, Expression.relocateParts, Expression.relocatePart,
        Tail.relocate_parts next.text tail]
  | .call between =>
      simp only [Tail.parts, Expression.relocateParts, Expression.relocatePart,
        Arguments.relocate_values between]
  | .callDot between next tail =>
      simp only [Tail.parts, Expression.relocateParts, Expression.relocatePart,
        Arguments.relocate_values between, Tail.relocate_parts next.text tail]

theorem Arguments.relocate_values (between : Arguments) :
    Expression.relocateAll place (between.values origin) =
      between.values place := by
  match between with
  | .none _ => rfl
  | .some items => exact Items.relocate_values items

theorem Items.relocate_values (items : Items) :
    Expression.relocateAll place (items.values origin) =
      items.values place := by
  match items with
  | .last _ item _ =>
      simp only [Items.values, Expression.relocateAll, Tree.relocate_value item]
  | .comma _ item _ rest =>
      simp only [Items.values, Expression.relocateAll, Tree.relocate_value item,
        Items.relocate_values rest]

end

end Grammar

namespace Segmentation

open Grammar (Tree)
open TemplateNode (ofSource ofPending)

/-- A text as it is written, with a backslash before each opening brace. -/
def escaped (characters : List Char) : List Char :=
  characters.flatMap fun character => if character = '\x7b' then ['\\', '\x7b']
    else [character]

def writtenNode : TemplateNode → List Char
  | .text text => escaped text.toList
  | .placeholder expression => '\x7b' :: (expression.text.toList ++ ['\x7d'])

/-- The source that nodes are written as. -/
def written (nodes : List TemplateNode) : String :=
  String.ofList (nodes.flatMap writtenNode)

/-- The nodes read back behind a text, each expression in the line that its
opening brace has been written in. -/
def placedIn (template : String) (before : List Char) :
    List TemplateNode → List TemplateNode
  | [] => []
  | .text text :: rest =>
    .text text :: placedIn template (before ++ escaped text.toList) rest
  | .placeholder expression :: rest =>
    .placeholder (expression.relocate ⟨template, lineAfter before⟩) ::
      placedIn template (before ++ writtenNode (.placeholder expression)) rest

/-- An expression that some source is read as, and whose literals are keywords,
integers, and texts without single quotes and backslashes. -/
structure Reprints (expression : Expression) : Prop where
  parsed : ∃ source origin, Expression.parse source origin = .ok expression
  integral : expression.Integral
  plain : expression.Plain

/-- The first one of two nodes can stand before the second one: it is no text
whose last character is a backslash, or the second one is no placeholder. -/
def Guards : TemplateNode → TemplateNode → Prop
  | .text text, .placeholder _ => text.toList.getLast? ≠ some '\\'
  | _, _ => True

/-- Nodes that are read back from what they are written as. -/
structure Printable (nodes : List TemplateNode) : Prop where
  separated : Separated nodes
  guarded : nodes.IsChain Guards
  reprints : ∀ expression, .placeholder expression ∈ nodes → Reprints expression

namespace Printable

variable {node : TemplateNode} {rest : List TemplateNode}

theorem tail (printable : Printable (node :: rest)) : Printable rest where
  separated := {
    nonempty := fun text member =>
      printable.separated.nonempty text (List.mem_cons_of_mem _ member)
    apart := printable.separated.apart.tail }
  guarded := printable.guarded.tail
  reprints := fun expression member =>
    printable.reprints expression (List.mem_cons_of_mem _ member)

end Printable

/-- The item that a character of a text is written as. -/
def TextItem.of (character : Char) : TextItem :=
  if character = '\x7b' then .brace else .plain character

/-- The run that a text is written as. -/
def runOf (characters : List Char) : List TextItem :=
  characters.map TextItem.of

theorem TextItem.character_of (character : Char) :
    (TextItem.of character).character = character := by
  unfold TextItem.of
  split
  · rename_i same
    exact same.symm
  · rfl

theorem runCharacters_runOf (characters : List Char) :
    runCharacters (runOf characters) = characters := by
  rw [runCharacters, runOf, List.map_map]
  exact (List.map_congr_left fun character _ =>
    TextItem.character_of character).trans (List.map_id _)

theorem runText_runOf (characters : List Char) :
    runText (runOf characters) = escaped characters := by
  rw [runText, runOf, List.flatMap_map, escaped]
  congr 1
  funext character
  unfold TextItem.of
  split <;> rfl

/-- A backslash that is not in front of a brace needs no escape. -/
theorem TextItem.of_fits
    {character : Char} {next : Option Char}
    (guarded : character = '\\' → next ≠ some '\x7b') :
    (TextItem.of character).Fits next := by
  unfold TextItem.of
  split
  · trivial
  · rename_i different
    exact ⟨guarded, fun same => (different same).elim⟩

/-- No written text starts with an opening brace. -/
theorem head?_escaped_ne
    (character : Char) (rest : List Char) (next : Option Char) :
    (escaped (character :: rest)).head?.or next ≠ some '\x7b' := by
  rw [escaped, List.flatMap_cons]
  split
  · simp
  · rename_i different
    simpa using different

/-- A written text is one run, before the end and before a placeholder, unless a
backslash at its end would reach the brace of the placeholder. -/
theorem runFits_runOf
    {next : Option Char} (characters : List Char)
    (guarded : characters.getLast? = some '\\' → next ≠ some '\x7b') :
    RunFits next (runOf characters) := by
  induction characters with
  | nil => trivial
  | cons character rest ih =>
      have following : (runText (runOf rest)).head? = (escaped rest).head? := by
        rw [runText_runOf]
      cases rest with
      | nil =>
          refine ⟨TextItem.of_fits ?_, trivial⟩
          rintro rfl
          exact guarded rfl
      | cons second rest =>
          constructor
          · rw [runOf] at following
            rw [following]
            exact TextItem.of_fits fun _ => head?_escaped_ne second rest next
          · exact ih fun last => guarded (by rwa [List.getLast?_cons_cons])

theorem ofPending_reverse {text : String} (nonempty : text ≠ "") :
    ofPending (text.toList.reverse) = [.text text] := by
  have characters : text.toList.reverse ≠ [] := by
    simpa using nonempty
  rw [ofPending, if_neg characters, List.reverse_reverse, String.ofList_toList]

/-- The text of an expression that can be reprinted is the text of a derivation
of it. -/
theorem Reprints.exists_tree
    {expression : Expression} (reprints : Reprints expression) :
    ∃ tree : Tree, tree.Valid ∧ expression.text.toList = tree.text ∧
      ∀ place, tree.value place = expression.relocate place := by
  rcases reprints with ⟨⟨source, origin, parsed⟩, integral, plain⟩
  rcases Grammar.Derivation.exists_of_parse parsed with
    ⟨⟨before, tree, after, valid⟩, -, rfl⟩
  refine ⟨tree.printed, (tree.printed_valid_iff origin valid).mpr plain,
    tree.toList_text_value origin valid integral, ?_⟩
  intro place
  rw [tree.value_printed place]
  exact (tree.relocate_value origin place).symm

/-- Parsing written nodes gets them back behind the text that is pending.  The
pending text is joined with no other one: it is empty, or the nodes start with a
placeholder. -/
theorem ofSource_written
    (template : String) {nodes : List TemplateNode}
    (printable : Printable nodes) (before : List Char) {pending : List Char}
    (alone : pending = [] ∨ ∀ node ∈ nodes.head?, ¬ IsText node) :
    ofSource template (lineAfter before) pending (nodes.flatMap writtenNode) =
      .ok (ofPending pending ++ placedIn template before nodes) := by
  induction nodes generalizing before pending with
  | nil => rw [List.flatMap_nil, ofSource, placedIn, List.append_nil]
  | cons node rest ih =>
      cases node with
      | text text =>
          have empty : pending = [] := alone.resolve_right fun isPlaceholder =>
            isPlaceholder (.text text) rfl trivial
          have apart : ∀ node ∈ rest.head?, ¬ IsText node :=
            fun node head isText =>
              (List.isChain_cons.mp printable.separated.apart).1 node head
                ⟨trivial, isText⟩
          have guarded :
              text.toList.getLast? = some '\\' →
                  (rest.flatMap writtenNode).head? ≠ some '\x7b' := by
            intro last
            cases rest with
            | nil => simp
            | cons next rest =>
                cases next with
                | text other => exact (apart (.text other) rfl trivial).elim
                | placeholder expression =>
                    exact
                      ((List.isChain_cons.mp printable.guarded).1 _ rfl
                        last).elim
          have nonempty := printable.separated.nonempty text List.mem_cons_self
          have written : writtenNode (.text text) =
              runText (runOf text.toList) :=
            (runText_runOf text.toList).symm
          rw [empty, List.flatMap_cons, written,
            ofSource_run (runFits_runOf text.toList guarded), runText_runOf,
            runCharacters_runOf, ← lineAfter_append, List.append_nil,
            ih printable.tail (before ++ escaped text.toList) (.inr apart),
            ofPending_reverse nonempty, placedIn]
          rfl
      | placeholder expression =>
          rcases (printable.reprints expression List.mem_cons_self).exists_tree
            with ⟨tree, valid, text, value⟩
          have layout :
              (TemplateNode.placeholder expression :: rest).flatMap
                writtenNode =
                '\x7b' ::
                    (tree.text ++ '\x7d' :: rest.flatMap writtenNode) := by
            rw [List.flatMap_cons, writtenNode, text]
            simp
          have line :
              lineAfter before + tree.text.count '\n' =
                lineAfter
                    (before ++ writtenNode (.placeholder expression)) := by
            rw [lineAfter_append, writtenNode, text]
            simp
          rw [layout, Grammar.ofSource_tree valid, line,
            ih printable.tail _ (.inl rfl), value, placedIn]
          rfl

theorem printable_text {text : String} (nonempty : text ≠ "") :
    Printable [.text text] where
  separated := ⟨fun other member => by simp_all, .singleton _⟩
  guarded := .singleton _
  reprints := by simp

/--
Printing a template and parsing it back.  Nodes without empty and without
neighbouring texts, no text of which ends in a backslash before a placeholder,
and whose expressions can be reprinted, are read back from what they are written
as; each expression is then in the line of its opening brace, and so are all the
expressions inside it.  In particular every text comes back as it is.
-/
theorem parse_written (template : String) :
    (∀ nodes, Printable nodes →
      TemplateNode.parse template (written nodes) =
        .ok (placedIn template [] nodes)) ∧
    (∀ (expression : Expression) (place : Origin),
      ∀ inner ∈ (expression.relocate place).withArguments,
        inner.origin = place) ∧
    ∀ text : String,
      TemplateNode.parse template (written [.text text]) =
        .ok (if text = "" then [] else [.text text]) := by
  have parsed :
      ∀ nodes, Printable nodes →
        TemplateNode.parse template (written nodes) =
            .ok (placedIn template [] nodes) := by
    intro nodes printable
    rw [TemplateNode.parse, written, String.toList_ofList]
    exact ofSource_written template printable [] (.inl rfl)
  refine ⟨parsed, fun expression place => expression.origin_of_mem_relocate, ?_⟩
  intro text
  split
  · rename_i empty
    subst empty
    rw [TemplateNode.parse, written, String.toList_ofList]
    show ofSource template 1 [] [] = _
    rw [ofSource]
    rfl
  · rename_i nonempty
    exact parsed _ (printable_text nonempty)

/-- The call of the samples with a closing brace in quotes. -/
def braceCall : Grammar.Derivation :=
  Grammar.sampleCall '\x7d' ⟨by decide, by decide⟩

/-- A backslash before an opening brace, the call in the second line, and a lone
backslash behind it. -/
def sampleNodes : List TemplateNode :=
  [.text "\\\x7b\n", .placeholder (braceCall.value ⟨"calls", 1⟩), .text "\\"]

/-- The nodes come back from their source, with the call in the second line. -/
theorem sampleNodes_parse_back :
    Printable sampleNodes ∧
      written sampleNodes = "\\\\\x7b\n\x7bf('\x7d', -12)\x7d\\" ∧
      TemplateNode.parse "letters" (written sampleNodes) =
        .ok [.text "\\\x7b\n", .placeholder (braceCall.value ⟨"letters", 2⟩),
          .text "\\"] := by
  have parsed : Expression.parse "f( \"\x7d\",-12) " ⟨"calls", 1⟩ =
      .ok (braceCall.value ⟨"calls", 1⟩) :=
    Grammar.Derivation.parse_text (by decide)
  have plain : (braceCall.value ⟨"calls", 1⟩).Plain := by
    refine List.forall_mem_cons.mpr ⟨nofun, List.forall_mem_cons.mpr ⟨?_, ?_⟩⟩
    · exact Expression.isPlain_string.mpr ⟨by decide, by decide⟩
    · exact List.forall_mem_singleton.mpr nofun
  have reprints : Reprints (braceCall.value ⟨"calls", 1⟩) :=
    ⟨⟨_, _, parsed⟩, Grammar.sampleCall_integral _ _ _, plain⟩
  have printable : Printable sampleNodes := by
    refine ⟨⟨?_, ?_⟩, ?_, ?_⟩
    · simp [sampleNodes]
    · simp [sampleNodes, IsText]
    · simp [sampleNodes, Guards]
    · simpa [sampleNodes] using reprints
  exact ⟨printable, by decide,
    (parse_written "letters").1 sampleNodes printable⟩

end Segmentation

end Phrasebook
