import Phrasebook.Proofs.Grammar.Numeral

/-!
# The grammar of expressions

Derivations of expressions as trees.  A tree knows its text, and the expression
that it derives at an origin.  The local rules of the grammar are in the types
of the tokens; `Valid` adds the rules on which token a text is taken for: what
could start a number is no path, and a keyword that stands alone is a literal.
That names and numbers are longest runs needs no rule, since nothing that may
follow one of them in a derivation could belong to it.
-/

namespace Phrasebook

namespace Grammar

open Expression.Parser (startsNumeral keyword?)

/-- The names that are literals when they stand alone. -/
inductive Keyword where
  | yes
  | no
  | nothing

namespace Keyword

/-- How a keyword is written. -/
def characters : Keyword → List Char
  | .yes => ['t', 'r', 'u', 'e']
  | .no => ['f', 'a', 'l', 's', 'e']
  | .nothing => ['n', 'u', 'l', 'l']

def name (word : Keyword) : Name where
  characters := word.characters
  nonempty := by cases word <;> exact List.cons_ne_nil _ _
  named := by cases word <;> exact List.all_eq_true.mp rfl

def value : Keyword → Json
  | .yes => .bool true
  | .no => .bool false
  | .nothing => .null

theorem leads (word : Keyword) : Stops startsNumeral word.characters := by
  cases word <;> exact stops_cons (by decide)

end Keyword

/-- The keywords are read as their values. -/
theorem keyword?_iff {text : String} {value : Json} :
    keyword? text = some value ↔ ∃ word :
    Keyword, text = word.name.text ∧ value = word.value := by
  constructor
  · intro read
    unfold keyword? at read
    split at read
    · cases read
      exact ⟨.yes, by decide, rfl⟩
    · cases read
      exact ⟨.no, by decide, rfl⟩
    · cases read
      exact ⟨.nothing, by decide, rfl⟩
    · cases read
  · rintro ⟨word, rfl, rfl⟩
    cases word <;> rfl

theorem keyword?_eq_none {name : Name} :
    keyword? name.text = none ↔ ∀ word : Keyword, name ≠ word.name := by
  constructor
  · rintro absent word rfl
    rw [keyword?_iff.mpr ⟨word, rfl, rfl⟩] at absent
    cases absent
  · intro different
    cases stands : keyword? name.text with
    | none => rfl
    | some value =>
        rcases keyword?_iff.mp stands with ⟨word, same, -⟩
        exact (different word (Name.text_injective same)).elim

mutual

/-- A derivation of an expression: a quoted text, a number, a keyword, or a path
with an optional namespace. -/
inductive Tree where
  | quoted (quote : Quote) (items : List QuotedItem)
  | numeral (form : NumberForm) (number : Number)
  | keyword (word : Keyword)
  | path (qualifier : Option Name) (first : Name) (tail : Tail)

/-- What follows the name of a part: nothing, the next part after a point, an
argument list, or an argument list and the next part. -/
inductive Tail where
  | done
  | dot (name : Name) (tail : Tail)
  | call (arguments : Arguments)
  | callDot (arguments : Arguments) (name : Name) (tail : Tail)

/-- What stands between parentheses: blanks, or arguments. -/
inductive Arguments where
  | none (blanks : Blanks)
  | some (items : Items)

/-- Arguments, with blanks around each and commas between them. -/
inductive Items where
  | last (before : Blanks) (item : Tree) (after : Blanks)
  | comma (before : Blanks) (item : Tree) (after : Blanks) (rest : Items)

end

mutual

/-- The text of a derivation. -/
def Tree.text : Tree → List Char
  | .quoted quote items =>
    quote.character :: (items.flatMap QuotedItem.text ++ [quote.character])
  | .numeral form _ => form.text
  | .keyword word => word.name.characters
  | .path none first tail => first.characters ++ Tail.text tail
  | .path (some qualifier) first tail =>
    qualifier.characters ++ ':' :: (first.characters ++ Tail.text tail)

/-- The text that follows a name. -/
def Tail.text : Tail → List Char
  | .done => []
  | .dot name tail => '.' :: (name.characters ++ Tail.text tail)
  | .call arguments => '(' :: (Arguments.text arguments ++ [')'])
  | .callDot arguments name tail =>
    '(' ::
      (Arguments.text arguments ++ ')' :: '.' ::
        (name.characters ++ Tail.text tail))

def Arguments.text : Arguments → List Char
  | .none blanks => blanks.characters
  | .some items => Items.text items

def Items.text : Items → List Char
  | .last before item after =>
    before.characters ++ (Tree.text item ++ after.characters)
  | .comma before item after rest =>
    before.characters ++
      (Tree.text item ++ (after.characters ++ ',' :: Items.text rest))

end

section Layout

variable (rest : List Char)

theorem Tree.text_quoted_append (quote : Quote) (items : List QuotedItem) :
    (Tree.quoted quote items).text ++ rest =
      quote.character ::
        (items.flatMap QuotedItem.text ++ quote.character :: rest) := by
  rw [Tree.text, List.cons_append, List.append_assoc, List.singleton_append]

theorem Tree.text_unqualified_append (first : Name) (tail : Tail) :
    (Tree.path none first tail).text ++ rest =
      first.characters ++ (tail.text ++ rest) := by
  rw [Tree.text, List.append_assoc]

theorem Tree.text_qualified_append (qualifier first : Name) (tail : Tail) :
    (Tree.path (some qualifier) first tail).text ++ rest =
      qualifier.characters ++
        ':' :: (first.characters ++ (tail.text ++ rest)) := by
  rw [Tree.text, List.append_assoc, List.cons_append, List.append_assoc]

theorem Tail.text_dot_append (name : Name) (tail : Tail) :
    (Tail.dot name tail).text ++ rest =
      '.' :: (name.characters ++ (tail.text ++ rest)) := by
  rw [Tail.text, List.cons_append, List.append_assoc]

theorem Tail.text_call_append (between : Arguments) :
    (Tail.call between).text ++ rest =
      '(' :: (between.text ++ ')' :: rest) := by
  rw [Tail.text, List.cons_append, List.append_assoc, List.singleton_append]

theorem Tail.text_callDot_append
    (between : Arguments) (name : Name) (tail : Tail) :
    (Tail.callDot between name tail).text ++ rest =
      '(' ::
        (between.text ++ ')' :: '.' ::
          (name.characters ++ (tail.text ++ rest))) := by
  rw [Tail.text, List.cons_append, List.append_assoc, List.cons_append,
    List.cons_append, List.append_assoc]

theorem Items.text_last_append
    (before : Blanks) (item : Tree) (after : Blanks) :
    (Items.last before item after).text ++ rest =
      before.characters ++ (item.text ++ (after.characters ++ rest)) := by
  rw [Items.text, List.append_assoc, List.append_assoc]

theorem Items.text_comma_append
    (before : Blanks) (item : Tree) (after : Blanks) (others : Items) :
    (Items.comma before item after others).text ++ rest =
      before.characters ++
        (item.text ++ (after.characters ++ ',' :: (others.text ++ rest))) := by
  rw [Items.text, List.append_assoc, List.append_assoc, List.append_assoc,
    List.cons_append]

end Layout

variable (origin : Origin)

mutual

/-- The expression of a derivation. -/
def Tree.value : Tree → Expression
  | .quoted _ items =>
    .literal (.string (String.ofList (items.map QuotedItem.character))) origin
  | .numeral _ number => .literal (.number number) origin
  | .keyword word => .literal word.value origin
  | .path qualifier first tail =>
    .path (qualifier.map Name.text) (Tail.parts first.text tail) origin

/-- The parts of a path from a name on. -/
def Tail.parts (name : String) : Tail → List Part
  | .done => [.property name]
  | .dot next tail => .property name :: Tail.parts next.text tail
  | .call arguments => [.method name (Arguments.values arguments)]
  | .callDot arguments next tail =>
    .method name (Arguments.values arguments) :: Tail.parts next.text tail

def Arguments.values : Arguments → List Expression
  | .none _ => []
  | .some items => Items.values items

def Items.values : Items → List Expression
  | .last _ item _ => [Tree.value item]
  | .comma _ item _ rest => Tree.value item :: Items.values rest

end

/-- A name that can start a path: its first character starts no number. -/
def Name.Leads (name : Name) : Prop :=
  Stops startsNumeral name.characters

mutual

/-- The rules on which token a text is taken for, at every depth. -/
def Tree.Valid : Tree → Prop
  | .quoted quote items => ∀ item ∈ items, item.Fits quote.character
  | .numeral form number => Number.ofNumeral? form.numeral = some number
  | .keyword _ => True
  | .path qualifier first tail =>
    (qualifier.getD first).Leads ∧
      (qualifier = none → tail.text = [] → ∀ word : Keyword,
        first ≠ word.name) ∧ Tail.Valid tail

/-- The rules inside what follows a name. -/
def Tail.Valid : Tail → Prop
  | .done => True
  | .dot _ tail => Tail.Valid tail
  | .call arguments => Arguments.Valid arguments
  | .callDot arguments _ tail => Arguments.Valid arguments ∧ Tail.Valid tail

/-- The rules between parentheses. -/
def Arguments.Valid : Arguments → Prop
  | .none _ => True
  | .some items => Items.Valid items

/-- The rules inside arguments. -/
def Items.Valid : Items → Prop
  | .last _ item _ => Tree.Valid item
  | .comma _ item _ rest => Tree.Valid item ∧ Items.Valid rest

end

/-- A derivation of a whole text: an expression, with blanks around it. -/
structure Derivation where
  before : Blanks
  tree : Tree
  after : Blanks
  valid : tree.Valid

namespace Derivation

/-- The text that is derived. -/
def text (derivation : Derivation) : List Char :=
  derivation.before.characters ++
    (derivation.tree.text ++ derivation.after.characters)

/-- The expression that is derived. -/
def value (derivation : Derivation) : Expression :=
  derivation.tree.value origin

end Derivation

end Grammar

end Phrasebook
