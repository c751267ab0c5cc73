import Phrasebook.Proofs.Grammar.Soundness
import Phrasebook.Proofs.Grammar.Unambiguity

/-!
# The parser accepts exactly the grammar

A text parses to an expression exactly when it has a derivation with that value.
There is at most one derivation of a text, every expression in the value knows
the origin, and a text without a derivation is an error.
-/

namespace Phrasebook

namespace Grammar

open Expression.Parser

variable (origin : Origin)

mutual

/-- Every expression in the value of a tree has the origin that the tree is read
at. -/
theorem Tree.origins :
    (tree : Tree) → ∀ inner ∈ (tree.value origin).withArguments,
      inner.origin = origin
  | .quoted _ _ => List.forall_mem_singleton.mpr rfl
  | .numeral _ _ => List.forall_mem_singleton.mpr rfl
  | .keyword _ => List.forall_mem_singleton.mpr rfl
  | .path _ first tail =>
      List.forall_mem_cons.mpr ⟨rfl, Tail.origins first.text tail⟩

theorem Tail.origins (name : String) :
    (tail : Tail) →
      ∀ inner ∈ Expression.argumentsOfParts (tail.parts origin name),
        inner.origin = origin
  | .done => List.forall_mem_nil _
  | .dot next tail => Tail.origins next.text tail
  | .call between =>
    List.forall_mem_append.mpr ⟨Arguments.origins between,
      List.forall_mem_nil _⟩
  | .callDot between next tail =>
    List.forall_mem_append.mpr ⟨Arguments.origins between,
      Tail.origins next.text tail⟩

theorem Arguments.origins :
    (between : Arguments) →
      ∀ inner ∈ Expression.argumentsOfAll (between.values origin),
        inner.origin = origin
  | .none _ => List.forall_mem_nil _
  | .some items => Items.origins items

theorem Items.origins :
    (items : Items) →
      ∀ inner ∈ Expression.argumentsOfAll (items.values origin),
        inner.origin = origin
  | .last _ item _ =>
      List.forall_mem_append.mpr ⟨Tree.origins item, List.forall_mem_nil _⟩
  | .comma _ item _ others =>
    List.forall_mem_append.mpr ⟨Tree.origins item, Items.origins others⟩

end

variable {origin}

/-- A source is read as a value when the reader leaves nothing but blanks
behind. -/
theorem parse_ok_iff {source : String} {value : Expression} :
    Expression.parse source origin = .ok value ↔
      ∃ rest, read? (expression origin source.toList) = some (value, rest) ∧
        skipBlanks rest = [] := by
  rw [Expression.parse]
  cases expression origin source.toList with
  | error error =>
      constructor
      · intro parsed
        cases parsed
      · rintro ⟨rest, reads, -⟩
        cases reads
  | ok one =>
      dsimp only
      constructor
      · intro parsed
        split at parsed
        · rename_i finished
          cases parsed
          exact ⟨one.rest, rfl, finished⟩
        · cases parsed
      · rintro ⟨rest, reads, finished⟩
        cases reads
        rw [finished]

namespace Derivation

variable {derivation derivation' : Derivation}

/-- What stands behind a whole expression closes it. -/
theorem closes
    (derivation : Derivation) : Closes derivation.after.characters := by
  have closes : Closes (derivation.after.characters ++ []) :=
    derivation.after.closes nofun
  rwa [List.append_nil] at closes

/-- The parser gets the value of a derivation. -/
theorem parse_text {source : String} (split : derivation.text = source.toList) :
    Expression.parse source origin = .ok (derivation.value origin) := by
  refine parse_ok_iff.mpr ⟨derivation.after.characters, ?_, ?_⟩
  · rw [← split]
    exact derivation.tree.complete origin derivation.closes derivation.valid
  · have skipped := derivation.after.skip (stops_nil _)
    rwa [List.append_nil] at skipped

/-- What the parser gets is the value of a derivation. -/
theorem exists_of_parse {source : String} {value : Expression}
    (parsed : Expression.parse source origin = .ok value) :
    ∃ derivation : Derivation,
      derivation.text = source.toList ∧ derivation.value origin = value := by
  rcases parse_ok_iff.mp parsed with ⟨rest, reads, finished⟩
  rcases (reads_derived origin source.toList).2.1 value rest reads
    with ⟨before, tree, valid, equal, split⟩
  rcases Blanks.exists_skipped rest with ⟨after, blank⟩
  rw [finished, List.append_nil] at blank
  refine ⟨⟨before, tree, after, valid⟩, ?_, equal⟩
  rw [split, blank]
  rfl

/-- A text has one derivation. -/
theorem unique (same : derivation.text = derivation'.text) :
    derivation = derivation' := by
  rcases derivation with ⟨before, tree, after, valid⟩
  rcases derivation' with ⟨before', tree', after', valid'⟩
  rcases Blanks.unique (Tree.stops_blank valid) (Tree.stops_blank valid') same
    with ⟨rfl, fromTree⟩
  rcases Tree.unique (closes ⟨before, tree, after, valid⟩)
    (closes ⟨before, tree', after', valid'⟩)
    tree tree' valid valid' fromTree with ⟨rfl, left⟩
  rcases Blanks.ext left with rfl
  rfl

end Derivation

/--
The parser accepts exactly the grammar: it gets an expression from a text
exactly when that is the value of a derivation of the text, derivations are
unique, all expressions in the value have the given origin, and where there is
no derivation there is an error.
-/
theorem parse_iff_derived (source : String) (origin : Origin) :
    (∀ value, Expression.parse source origin = .ok value ↔
      ∃ derivation : Derivation,
        derivation.text = source.toList ∧ derivation.value origin = value) ∧
    (∀ derivation derivation' : Derivation,
      derivation.text = source.toList → derivation'.text = source.toList →
        derivation = derivation') ∧
    (∀ value, Expression.parse source origin = .ok value →
      ∀ inner ∈ value.withArguments, inner.origin = origin) ∧
    ((¬ ∃ derivation : Derivation, derivation.text = source.toList) →
      ∃ error, Expression.parse source origin = .error error) := by
  refine ⟨?accepts, ?unambiguous, ?origins, ?refuses⟩
  case accepts =>
    intro value
    constructor
    · exact Derivation.exists_of_parse
    · rintro ⟨derivation, split, rfl⟩
      exact Derivation.parse_text split
  case unambiguous =>
    intro derivation derivation' split split'
    exact Derivation.unique (split.trans split'.symm)
  case origins =>
    intro value parsed
    rcases Derivation.exists_of_parse parsed with ⟨derivation, -, rfl⟩
    exact derivation.tree.origins origin
  case refuses =>
    intro none
    cases parsed : Expression.parse source origin with
    | error error => exact ⟨error, rfl⟩
    | ok value =>
        rcases Derivation.exists_of_parse parsed with ⟨derivation, split, -⟩
        exact (none ⟨derivation, split⟩).elim

/-- A method in a namespace with two arguments, and a property that is named
like a keyword. -/
def sampleDerivation : Derivation where
  before := ⟨[' '], List.all_eq_true.mp rfl⟩
  tree :=
    .path (some ⟨['n', 's'], nofun, List.all_eq_true.mp rfl⟩)
      ⟨['f'], nofun, List.all_eq_true.mp rfl⟩
      (.callDot
        (.some
          (.comma ⟨[], nofun⟩ (.keyword .yes) ⟨[' '], List.all_eq_true.mp rfl⟩
            (.last ⟨[' '], List.all_eq_true.mp rfl⟩
              (.quoted .single [.escaped '\'']) ⟨[], nofun⟩)))
        ⟨['t', 'r', 'u', 'e'], nofun, List.all_eq_true.mp rfl⟩ .done)
  after := ⟨[], nofun⟩
  valid :=
    ⟨stops_cons rfl, nofun, ⟨trivial, List.forall_mem_singleton.mpr trivial⟩,
      trivial⟩

theorem sampleDerivation_parses :
    Expression.parse " ns:f(true , '\\'').true" ⟨"sample", 1⟩ =
      .ok (sampleDerivation.value ⟨"sample", 1⟩) :=
  ((parse_iff_derived _ _).1 _).mpr ⟨sampleDerivation, by decide, rfl⟩

end Grammar

end Phrasebook
