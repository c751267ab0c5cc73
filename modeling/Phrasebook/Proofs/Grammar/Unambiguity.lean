import Phrasebook.Proofs.Grammar.Completeness

/-!
# No text has two derivations

Two derivations that start the same text, each before something that may follow
it, are the same derivation.  The kinds of both agree in the first character,
their tokens are the same runs, and the induction on the first derivation goes
on with what is left after each token.
-/

namespace Phrasebook

namespace Grammar

open Expression.Parser (skipBlanks)
open Phrasebook.Text (isAsciiBlank)

variable {rest rest' : List Char}

theorem Keyword.name_injective
    {word word' : Keyword} (same : word.name = word'.name) :
    word = word' := by
  have characters : word.characters = word'.characters :=
    congrArg Name.characters same
  cases word <;> cases word' <;> first | rfl | cases characters

theorem Tree.kind_unique
    {tree tree' : Tree} (valid : tree.Valid) (valid' : tree'.Valid)
    (same : tree.text ++ rest = tree'.text ++ rest') :
    tree.kind = tree'.kind := by
  rcases tree.exists_cons valid with ⟨first, others, split, kind, -⟩
  rcases tree'.exists_cons valid' with ⟨first', others', split', kind', -⟩
  rw [split, split'] at same
  rw [← kind, ← kind', (List.cons.inj same).1]

theorem Tree.stops_blank {tree : Tree} (valid : tree.Valid) :
    Stops isAsciiBlank (tree.text ++ rest) := by
  rcases tree.exists_cons valid with ⟨first, others, split, -, opens⟩
  rw [split]
  exact stops_cons (not_blank_of_opens opens)

/-- A path does not go on before what may follow an expression. -/
theorem Tail.text_eq_nil {tail : Tail} (closes : Closes (tail.text ++ rest)) :
    tail.text = [] := by
  cases tail with
  | done => rfl
  | dot name tail => exact (closes.ne_cons rfl _ rfl).elim
  | call between => exact (closes.ne_cons rfl _ rfl).elim
  | callDot between name tail => exact (closes.ne_cons rfl _ rfl).elim

/-- A keyword that stands alone is no path. -/
theorem keyword_ne_path
    {word : Keyword} {qualifier : Option Name} {first : Name} {tail : Tail}
    (valid : (Tree.path qualifier first tail).Valid) (closes : Closes rest)
    (closes' : Closes rest') :
    (Tree.keyword word).text ++ rest ≠ (Tree.path qualifier first tail).text ++
      rest' := by
  intro same
  cases qualifier with
  | none =>
      rw [Tree.text_unqualified_append] at same
      rcases Name.unique closes.stops_name (tail.stops_name closes') same with
        ⟨rfl, rfl⟩
      exact valid.2.1 rfl (Tail.text_eq_nil closes) word rfl
  | some qualifier =>
      rw [Tree.text_qualified_append] at same
      rcases Name.unique closes.stops_name (stops_cons rfl) same with ⟨-, colon⟩
      exact closes.ne_cons rfl _ colon

/-- A path without a namespace is no path in one. -/
theorem unqualified_ne_qualified
    {qualifier first first' : Name} {tail tail' : Tail} (closes : Closes rest) :
    (Tree.path none first tail).text ++ rest ≠
      (Tree.path (some qualifier) first' tail').text ++ rest' := by
  intro same
  rw [Tree.text_unqualified_append, Tree.text_qualified_append] at same
  rcases Name.unique (tail.stops_name closes) (stops_cons rfl) same with
    ⟨-, colon⟩
  exact tail.no_colon closes _ colon

/-- Blanks between parentheses are no arguments. -/
theorem blanks_ne_items
    {blanks : Blanks} {items : Items} (valid : items.Valid) :
    blanks.characters ++ ')' :: rest ≠ items.text ++ ')' :: rest' := by
  intro same
  have skipped : skipBlanks (blanks.characters ++ ')' :: rest) = ')' :: rest :=
    blanks.skip (stops_cons rfl)
  rw [same] at skipped
  exact items.not_closed valid _ skipped

/-- The blanks around an item end at the item and at a comma or a closing
parenthesis. -/
theorem spaced_unique
    {before before' after after' : Blanks} {item item' : Tree}
    {closer closer' : Char} (valid : item.Valid) (valid' : item'.Valid)
    (closes : isCloser closer = true) (noBlank : isAsciiBlank closer = false)
    (closes' : isCloser closer' = true)
    (noBlank' : isAsciiBlank closer' = false)
    (items : ∀ {left left' : List Char}, Closes left → Closes left' →
      item.text ++ left = item'.text ++ left' → item = item' ∧ left = left')
    (same :
      before.characters ++ (item.text ++ (after.characters ++ closer :: rest)) =
        before'.characters ++
          (item'.text ++ (after'.characters ++ closer' :: rest'))) :
    before = before' ∧ item = item' ∧ after = after' ∧
      closer :: rest = closer' :: rest' := by
  rcases Blanks.unique (Tree.stops_blank valid) (Tree.stops_blank valid')
    same with ⟨rfl, fromItem⟩
  rcases items (after.closes (closes_cons closes rest))
    (after'.closes (closes_cons closes' rest'))
    fromItem with ⟨rfl, fromBlanks⟩
  rcases Blanks.unique (stops_cons noBlank) (stops_cons noBlank')
    fromBlanks with ⟨rfl, left⟩
  exact ⟨rfl, rfl, rfl, left⟩

mutual

/-- Trees in front of what closes have different texts. -/
theorem Tree.unique
    {rest rest' : List Char} (closes : Closes rest) (closes' : Closes rest') :
    (tree tree' : Tree) → tree.Valid → tree'.Valid →
      tree.text ++ rest = tree'.text ++ rest' → tree = tree' ∧ rest = rest'
  | .quoted quote items, tree', valid, valid', same => by
    have kinds := Tree.kind_unique valid valid' same
    cases tree' <;> cases kinds
    rename_i quote' items'
    rw [Tree.text_quoted_append, Tree.text_quoted_append] at same
    rcases List.cons.inj same with ⟨quotes, body⟩
    rcases Quote.character_injective quotes with rfl
    rcases items_unique quote.character_ne_backslash valid valid' body with
      ⟨rfl, rfl⟩
    exact ⟨rfl, rfl⟩
  | .numeral form number, tree', valid, valid', same => by
    have kinds := Tree.kind_unique valid valid' same
    cases tree' <;> cases kinds
    rename_i form' number'
    rcases run_unique form.numeric closes.stops_numeral form'.numeric
      closes'.stops_numeral same
      with ⟨text, rfl⟩
    rcases form_unique text with rfl
    obtain rfl : number = number' := Option.some.inj (valid.symm.trans valid')
    exact ⟨rfl, rfl⟩
  | .keyword word, tree', valid, valid', same => by
    cases tree' with
    | quoted quote items => cases Tree.kind_unique valid valid' same
    | numeral form number => cases Tree.kind_unique valid valid' same
    | keyword word' =>
        rcases Name.unique closes.stops_name closes'.stops_name same with
          ⟨names, rfl⟩
        rcases Keyword.name_injective names with rfl
        exact ⟨rfl, rfl⟩
    | path qualifier' first' tail' =>
        exact (keyword_ne_path valid' closes closes' same).elim
  | .path qualifier first tail, tree', valid, valid', same => by
    cases tree' with
    | quoted quote items => cases Tree.kind_unique valid valid' same
    | numeral form number => cases Tree.kind_unique valid valid' same
    | keyword word' =>
        exact (keyword_ne_path valid closes' closes same.symm).elim
    | path qualifier' first' tail' =>
        -- The leading names are the same run, so that the qualifiers are both
        -- there or both absent.
        have tails :
            tail.text ++ rest = tail'.text ++ rest' →
                tail = tail' ∧ rest = rest' :=
          Tail.unique closes closes' tail tail' valid.2.2 valid'.2.2
        cases qualifier with
        | none =>
            cases qualifier' with
            | none =>
                rw [Tree.text_unqualified_append, Tree.text_unqualified_append]
                  at same
                rcases Name.unique (tail.stops_name closes)
                  (tail'.stops_name closes') same
                  with ⟨rfl, left⟩
                rcases tails left with ⟨rfl, rfl⟩
                exact ⟨rfl, rfl⟩
            | some qualifier' =>
                exact (unqualified_ne_qualified closes same).elim
        | some qualifier =>
            cases qualifier' with
            | none => exact (unqualified_ne_qualified closes' same.symm).elim
            | some qualifier' =>
                rw [Tree.text_qualified_append, Tree.text_qualified_append]
                  at same
                rcases Name.unique (stops_cons rfl) (stops_cons rfl) same with
                  ⟨rfl, afterName⟩
                have member := (List.cons.inj afterName).2
                rcases Name.unique (tail.stops_name closes)
                  (tail'.stops_name closes') member
                  with ⟨rfl, left⟩
                rcases tails left with ⟨rfl, rfl⟩
                exact ⟨rfl, rfl⟩

/-- Tails in front of what closes have different texts. -/
theorem Tail.unique
    {rest rest' : List Char} (closes : Closes rest) (closes' : Closes rest') :
    (tail tail' : Tail) → tail.Valid → tail'.Valid →
      tail.text ++ rest = tail'.text ++ rest' → tail = tail' ∧ rest = rest'
  | .done, tail', _, _, same => by
    change rest = _ at same
    subst same
    cases tail' with
    | done => exact ⟨rfl, rfl⟩
    | dot name' tail' => exact (closes.ne_cons rfl _ rfl).elim
    | call between' => exact (closes.ne_cons rfl _ rfl).elim
    | callDot between' name' tail' => exact (closes.ne_cons rfl _ rfl).elim
  | .dot name tail, tail', valid, valid', same => by
    cases tail' with
    | done => exact (closes'.ne_cons rfl _ same.symm).elim
    | dot name' tail' =>
        rw [Tail.text_dot_append, Tail.text_dot_append] at same
        rcases Name.unique (tail.stops_name closes) (tail'.stops_name closes')
          (List.cons.inj same).2
          with ⟨rfl, left⟩
        rcases Tail.unique closes closes' tail tail' valid valid' left with
          ⟨rfl, rfl⟩
        exact ⟨rfl, rfl⟩
    | call between' => cases (List.cons.inj same).1
    | callDot between' name' tail' => cases (List.cons.inj same).1
  | .call between, tail', valid, valid', same => by
    cases tail' with
    | done => exact (closes'.ne_cons rfl _ same.symm).elim
    | dot name' tail' => cases (List.cons.inj same).1
    | call between' =>
        rw [Tail.text_call_append, Tail.text_call_append] at same
        rcases Arguments.unique between between' valid valid'
          (List.cons.inj same).2 with ⟨rfl, rfl⟩
        exact ⟨rfl, rfl⟩
    | callDot between' name' tail' =>
        rw [Tail.text_call_append, Tail.text_callDot_append] at same
        rcases Arguments.unique between between' valid valid'.1
          (List.cons.inj same).2 with ⟨-, dot⟩
        exact (closes.ne_cons rfl _ dot).elim
  | .callDot between name tail, tail', valid, valid', same => by
    cases tail' with
    | done => exact (closes'.ne_cons rfl _ same.symm).elim
    | dot name' tail' => cases (List.cons.inj same).1
    | call between' =>
        rw [Tail.text_callDot_append, Tail.text_call_append] at same
        rcases Arguments.unique between between' valid.1 valid'
          (List.cons.inj same).2 with ⟨-, dot⟩
        exact (closes'.ne_cons rfl _ dot.symm).elim
    | callDot between' name' tail' =>
        rw [Tail.text_callDot_append, Tail.text_callDot_append] at same
        rcases Arguments.unique between between' valid.1 valid'.1
          (List.cons.inj same).2 with ⟨rfl, dot⟩
        rcases Name.unique (tail.stops_name closes) (tail'.stops_name closes')
          (List.cons.inj dot).2
          with ⟨rfl, left⟩
        rcases Tail.unique closes closes' tail tail' valid.2 valid'.2 left with
          ⟨rfl, rfl⟩
        exact ⟨rfl, rfl⟩

theorem Arguments.unique {rest rest' : List Char} :
    (between between' : Arguments) → between.Valid → between'.Valid →
      between.text ++ ')' :: rest = between'.text ++ ')' :: rest' →
      between = between' ∧ rest = rest'
  | .none blanks, .none blanks', _, _, same => by
    rcases Blanks.unique (stops_cons rfl) (stops_cons rfl) same with
      ⟨rfl, closed⟩
    exact ⟨rfl, (List.cons.inj closed).2⟩
  | .none _, .some _, _, valid', same => (blanks_ne_items valid' same).elim
  | .some _, .none _, valid, _, same => (blanks_ne_items valid same.symm).elim
  | .some items, .some items', valid, valid', same => by
    rcases Items.unique items items' valid valid' same with ⟨rfl, rfl⟩
    exact ⟨rfl, rfl⟩

theorem Items.unique {rest rest' : List Char} :
    (items items' : Items) → items.Valid → items'.Valid →
      items.text ++ ')' :: rest = items'.text ++ ')' :: rest' →
      items = items' ∧ rest = rest'
  | .last before item after, .last before' item' after', valid, valid',
      same => by
    rw [Items.text_last_append, Items.text_last_append] at same
    rcases spaced_unique valid valid' rfl rfl rfl rfl
      (fun closes closes' =>
        Tree.unique closes closes' item item' valid valid') same
      with ⟨rfl, rfl, rfl, closed⟩
    exact ⟨rfl, (List.cons.inj closed).2⟩
  | .last before item after, .comma before' item' after' others', valid, valid',
      same => by
    rw [Items.text_last_append, Items.text_comma_append] at same
    rcases spaced_unique valid valid'.1 rfl rfl rfl rfl
      (fun closes closes' =>
        Tree.unique closes closes' item item' valid valid'.1) same
      with ⟨-, -, -, closed⟩
    cases (List.cons.inj closed).1
  | .comma before item after others, .last before' item' after', valid, valid',
      same => by
    rw [Items.text_comma_append, Items.text_last_append] at same
    rcases spaced_unique valid.1 valid' rfl rfl rfl rfl
      (fun closes closes' =>
        Tree.unique closes closes' item item' valid.1 valid') same
      with ⟨-, -, -, closed⟩
    cases (List.cons.inj closed).1
  | .comma before item after others, .comma before' item' after' others', valid,
      valid', same => by
    rw [Items.text_comma_append, Items.text_comma_append] at same
    rcases spaced_unique valid.1 valid'.1 rfl rfl rfl rfl
      (fun closes closes' =>
        Tree.unique closes closes' item item' valid.1 valid'.1) same
      with ⟨rfl, rfl, rfl, closed⟩
    rcases Items.unique others others' valid.2 valid'.2
      (List.cons.inj closed).2 with ⟨rfl, rfl⟩
    exact ⟨rfl, rfl⟩

end

end Grammar

end Phrasebook
