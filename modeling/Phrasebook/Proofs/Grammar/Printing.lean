import Phrasebook.Proofs.Grammar.Acceptance
import Phrasebook.Proofs.Grammar.Integer

/-!
# Printing expressions

The text of an expression is the text of a derivation of a special form: quoted
texts stand in single quotes without escapes, there are no blanks but one after
each comma.  That derivation is valid exactly when no quoted text has a
character in it that needed an escape, and then the text parses back.  When it
is not valid, the text may still parse, but never to the expression it was
printed from: a derivation of that expression whose text is the printed one
would have to spend a backslash on each escape, and the printed text has none to
spare.
-/

namespace Phrasebook

namespace Expression

/-- A text literal that single quotes can hold without escapes; all but text
literals are. -/
def IsPlain (expression : Expression) : Prop :=
  ∀ text, expression.literalValue? = some (.string text) →
    '\'' ∉ text.toList ∧ '\\' ∉ text.toList

/-- A number literal that is an integer of 64 bits; all but number literals
are. -/
def IsIntegral (expression : Expression) : Prop :=
  ∀ number, expression.literalValue? = some (.number number) →
    ∃ value, number = .integer value

/-- No text literal at any depth has a single quote or a backslash in it. -/
def Plain (expression : Expression) : Prop :=
  ∀ inner ∈ expression.withArguments, inner.IsPlain

/-- The number literals at every depth are integers. -/
def Integral (expression : Expression) : Prop :=
  ∀ inner ∈ expression.withArguments, inner.IsIntegral

@[simp]
theorem literalValue?_path
    (qualifier : Option String) (parts : List Part) (origin : Origin) :
    (path qualifier parts origin).literalValue? = none := by
  unfold path literalValue?
  split
  · rename_i same
    cases same
    rfl
  · rfl

theorem isPlain_path
    (qualifier : Option String) (parts : List Part) (origin : Origin) :
    (path qualifier parts origin).IsPlain := by
  intro text literal
  rw [literalValue?_path] at literal
  cases literal

/-- A text is plain when it has neither a quote nor a backslash. -/
theorem isPlain_string {text : String} {origin : Origin} :
    (literal (.string text) origin).IsPlain ↔ '\'' ∉ text.toList ∧
      '\\' ∉ text.toList := by
  constructor
  · intro plain
    exact plain text rfl
  · rintro plain other ⟨⟩
    exact plain

/-- Every value that is no text is plain. -/
theorem isPlain_literal
    {value : Json} {origin : Origin} (noText : ∀ text, value ≠ .string text) :
    (literal value origin).IsPlain := by
  intro text literal
  exact (noText text (Option.some.inj literal)).elim

theorem text_literal (value : Json) (origin : Origin) :
    (literal value origin).text = literalText value := by
  rw [literal, text, partTexts, partTexts, partText,
    String.intercalate_singleton]
  exact String.empty_append

/-- A path is printed part by part, with dots between them. -/
theorem toList_text_unqualified (parts : List Part) (origin : Origin) :
    (path none parts origin).text.toList =
      (String.intercalate "." (partTexts parts)).toList := by
  rw [path, text]
  exact congrArg String.toList String.empty_append

/-- A path with a qualifier is printed with the qualifier and a colon in
front. -/
theorem toList_text_qualified
    (qualifier : String) (parts : List Part) (origin : Origin) :
    (path (some qualifier) parts origin).text.toList =
      qualifier.toList ++
        ':' :: (String.intercalate "." (partTexts parts)).toList := by
  rw [path, text]
  simp

theorem toList_partTexts_cons
    (part : Part) {rest : List Part} (more : rest ≠ []) :
    (String.intercalate "." (partTexts (part :: rest))).toList =
      (partText part).toList ++
        '.' :: (String.intercalate "." (partTexts rest)).toList := by
  have texts : partTexts rest ≠ [] := by
    cases rest with
    | nil => exact (more rfl).elim
    | cons next rest => exact List.cons_ne_nil _ _
  rw [partTexts, String.intercalate_cons_of_ne_nil texts]
  simp

/-- A method is printed with its arguments in parentheses. -/
theorem toList_partText_method (name : String) (arguments : List Expression) :
    (partText (.method name arguments)).toList =
      name.toList ++ '(' ::
        ((String.intercalate ", " (texts arguments)).toList ++ [')']) := by
  rw [partText]
  simp

theorem toList_texts_cons
    (expression : Expression) {rest : List Expression} (more : rest ≠ []) :
    (String.intercalate ", " (texts (expression :: rest))).toList =
      expression.text.toList ++ ',' :: ' ' ::
        (String.intercalate ", " (texts rest)).toList := by
  have texts : texts rest ≠ [] := by
    cases rest with
    | nil => exact (more rfl).elim
    | cons next rest => exact List.cons_ne_nil _ _
  rw [Expression.texts, String.intercalate_cons_of_ne_nil texts]
  simp

end Expression

namespace Grammar

open Phrasebook.Text (isAsciiBlank)

namespace Blanks

theorem blank_of_mem_nil :
    ∀ character ∈ ([] : List Char), isAsciiBlank character = true :=
  List.forall_mem_nil _

theorem blank_of_mem_space :
    ∀ character ∈ [' '], isAsciiBlank character = true :=
  List.all_eq_true.mp rfl

/-- No blank. -/
def absent : Blanks :=
  ⟨[], blank_of_mem_nil⟩

/-- One space. -/
def space : Blanks :=
  ⟨[' '], blank_of_mem_space⟩

end Blanks

/-- A character by itself. -/
def QuotedItem.bare (item : QuotedItem) : QuotedItem :=
  .plain item.character

mutual

/-- The derivation that an expression is printed by. -/
def Tree.printed : Tree → Tree
  | .quoted _ items => .quoted .single (items.map QuotedItem.bare)
  | .numeral form number => .numeral form number
  | .keyword word => .keyword word
  | .path qualifier first tail => .path qualifier first (Tail.printed tail)

def Tail.printed : Tail → Tail
  | .done => .done
  | .dot name tail => .dot name (Tail.printed tail)
  | .call arguments => .call (Arguments.printed arguments)
  | .callDot arguments name tail =>
    .callDot (Arguments.printed arguments) name (Tail.printed tail)

def Arguments.printed : Arguments → Arguments
  | .none _ => .none .absent
  | .some items => .some (Items.printed .absent items)

/-- What is printed between parentheses: only the first argument has no blank
before it. -/
def Items.printed (before : Blanks) : Items → Items
  | .last _ item _ => .last before (Tree.printed item) .absent
  | .comma _ item _ rest =>
    .comma before (Tree.printed item) .absent (Items.printed .space rest)

end

section Value

variable (origin : Origin)

mutual

/-- What is printed derives the same expression. -/
theorem Tree.value_printed :
    (tree : Tree) → tree.printed.value origin = tree.value origin
  | .quoted _ items => by
    rw [Tree.printed, Tree.value, Tree.value, List.map_map]
    rfl
  | .numeral _ _ => rfl
  | .keyword _ => rfl
  | .path _ first tail => by
    rw [Tree.printed, Tree.value, Tree.value,
      Tail.parts_printed first.text tail]

/-- A tail that is printed has the same parts. -/
theorem Tail.parts_printed (name : String) :
    (tail : Tail) → tail.printed.parts origin name = tail.parts origin name
  | .done => rfl
  | .dot next tail => by
    rw [Tail.printed, Tail.parts, Tail.parts, Tail.parts_printed next.text tail]
  | .call between => by
    rw [Tail.printed, Tail.parts, Tail.parts, Arguments.values_printed between]
  | .callDot between next tail => by
    rw [Tail.printed, Tail.parts, Tail.parts, Arguments.values_printed between,
      Tail.parts_printed next.text tail]

/-- Arguments that are printed have the same values. -/
theorem Arguments.values_printed :
    (between : Arguments) →
      between.printed.values origin = between.values origin
  | .none _ => rfl
  | .some items => Items.values_printed .absent items

theorem Items.values_printed (before : Blanks) :
    (items : Items) → (items.printed before).values origin = items.values origin
  | .last _ item _ => by
    rw [Items.printed, Items.values, Items.values, Tree.value_printed item]
  | .comma _ item _ others => by
    rw [Items.printed, Items.values, Items.values, Tree.value_printed item,
      Items.values_printed .space others]

end

theorem Tail.parts_ne_nil (name : String) (tail : Tail) :
    tail.parts origin name ≠ [] := by
  cases tail <;> exact List.cons_ne_nil _ _

theorem Items.values_ne_nil (items : Items) : items.values origin ≠ [] := by
  cases items <;> exact List.cons_ne_nil _ _

theorem Name.toList_text (name : Name) : name.text.toList = name.characters :=
  String.toList_ofList

theorem toList_literalText_string (characters : List Char) :
    (Expression.literalText (.string (String.ofList characters))).toList =
      '\'' :: (characters ++ ['\'']) := by
  rw [Expression.literalText]
  simp

theorem toList_literalText_keyword (word : Keyword) :
    (Expression.literalText word.value).toList = word.characters := by
  cases word <;> decide

theorem flatMap_text_bare (items : List QuotedItem) :
    (items.map QuotedItem.bare).flatMap QuotedItem.text =
      items.map QuotedItem.character := by
  rw [List.flatMap_map]
  exact List.map_eq_flatMap.symm

mutual

/-- Where all number literals are integers, an expression is printed by its
printed derivation. -/
theorem Tree.toList_text_value :
    (tree : Tree) → tree.Valid → (tree.value origin).Integral →
      (tree.value origin).text.toList = tree.printed.text
  | .quoted quote items, _, _ => by
    rw [Tree.value, Expression.text_literal, toList_literalText_string,
      Tree.printed, Tree.text, flatMap_text_bare]
    rfl
  | .numeral form number, valid, integral => by
    rcases integral _ List.mem_cons_self number rfl with ⟨value, rfl⟩
    rw [Tree.value, Expression.text_literal, Tree.printed, Tree.text,
      form.text_eq_of_integer valid]
    rfl
  | .keyword word, _, _ => by
    rw [Tree.value, Expression.text_literal, toList_literalText_keyword]
    rfl
  | .path none first tail, valid, integral => by
    rw [Tree.value, Option.map_none, Expression.toList_text_unqualified,
      Tail.toList_partTexts first tail valid.2.2
        (List.forall_mem_cons.mp integral).2]
    rfl
  | .path (some qualifier) first tail, valid, integral => by
    rw [Tree.value, Option.map_some, Expression.toList_text_qualified,
      qualifier.toList_text,
      Tail.toList_partTexts first tail valid.2.2
        (List.forall_mem_cons.mp integral).2]
    rfl

/-- The parts of a tail are printed as the tail of the printed tree. -/
theorem Tail.toList_partTexts (name : Name) :
    (tail : Tail) → tail.Valid →
      (∀ inner ∈ Expression.argumentsOfParts (tail.parts origin name.text),
        inner.IsIntegral) →
      (String.intercalate "."
        (Expression.partTexts (tail.parts origin name.text))).toList =
        name.characters ++ tail.printed.text
  | .done, _, _ => by
    show (String.intercalate "." [name.text]).toList = name.characters ++ []
    rw [String.intercalate_singleton, name.toList_text, List.append_nil]
  | .dot next tail, valid, integral => by
    rw [Tail.parts,
      Expression.toList_partTexts_cons _ (tail.parts_ne_nil origin next.text),
      Tail.toList_partTexts next tail valid integral]
    show name.text.toList ++ _ = _
    rw [name.toList_text]
    rfl
  | .call between, valid, integral => by
    show (String.intercalate "." [Expression.partText _]).toList = _
    rw [String.intercalate_singleton, Expression.toList_partText_method,
      name.toList_text,
      Arguments.toList_texts between valid
        (List.forall_mem_append.mp integral).1]
    rfl
  | .callDot between next tail, valid, integral => by
    rcases List.forall_mem_append.mp integral with ⟨inside, after⟩
    rw [Tail.parts,
      Expression.toList_partTexts_cons _ (tail.parts_ne_nil origin next.text),
      Expression.toList_partText_method, name.toList_text,
      Arguments.toList_texts between valid.1 inside,
      Tail.toList_partTexts next tail valid.2 after, Tail.printed, Tail.text,
      List.append_assoc, List.cons_append, List.append_assoc]
    rfl

/-- The arguments are printed as the arguments of the printed tree. -/
theorem Arguments.toList_texts :
    (between : Arguments) → between.Valid →
      (∀ inner ∈ Expression.argumentsOfAll (between.values origin),
        inner.IsIntegral) →
      (String.intercalate ", "
        (Expression.texts (between.values origin))).toList =
        between.printed.text
  | .none _, _, _ => by
    show (String.intercalate ", " []).toList = []
    rw [String.intercalate_nil, String.toList_empty]
  | .some items, valid, integral =>
      Items.toList_texts .absent items valid integral

/-- The blank before the first item is printed by what stands before the
items. -/
theorem Items.toList_texts (before : Blanks) :
    (items : Items) → items.Valid →
      (∀ inner ∈ Expression.argumentsOfAll (items.values origin),
        inner.IsIntegral) →
      before.characters ++
        (String.intercalate ", "
          (Expression.texts (items.values origin))).toList =
        (items.printed before).text
  | .last _ item _, valid, integral => by
    show before.characters ++
      (String.intercalate ", " [(item.value origin).text]).toList = _
    rw [String.intercalate_singleton,
      Tree.toList_text_value item valid (List.forall_mem_append.mp integral).1,
      Items.printed, Items.text]
    exact congrArg (before.characters ++ ·) (List.append_nil _).symm
  | .comma _ item _ others, valid, integral => by
    rcases List.forall_mem_append.mp integral with ⟨first, rest⟩
    have following := Items.toList_texts .space others valid.2 rest
    rw [Items.values,
      Expression.toList_texts_cons _ (others.values_ne_nil origin),
      Tree.toList_text_value item valid.1 first, Items.printed,
        Items.text, ← following]
    rfl

end

theorem Tail.printed_text_eq_nil
    {tail : Tail} : tail.printed.text = [] ↔ tail.text = [] := by
  cases tail <;> simp [Tail.printed, Tail.text]

/-- Bare characters fit between quotes when there is neither a quote nor a
backslash among them. -/
theorem bare_fit_iff {items : List QuotedItem} :
    (∀ item ∈ items.map QuotedItem.bare, item.Fits '\'') ↔
      '\'' ∉ items.map QuotedItem.character ∧
        '\\' ∉ items.map QuotedItem.character := by
  rw [List.forall_mem_map]
  constructor
  · intro fits
    constructor
    · intro quote
      rcases List.mem_map.mp quote with ⟨item, member, equal⟩
      exact (fits item member).2 equal
    · intro backslash
      rcases List.mem_map.mp backslash with ⟨item, member, equal⟩
      exact (fits item member).1 equal
  · rintro ⟨noQuote, noBackslash⟩ item member
    constructor
    · exact fun equal => noBackslash (List.mem_map.mpr ⟨item, member, equal⟩)
    · exact fun equal => noQuote (List.mem_map.mpr ⟨item, member, equal⟩)

mutual

/-- The printed derivation is valid exactly where no text literal needs an
escape. -/
theorem Tree.printed_valid_iff :
    (tree : Tree) → tree.Valid →
      (tree.printed.Valid ↔ (tree.value origin).Plain)
  | .quoted quote items, _ => by
    have alone :
        ((Tree.quoted quote items).value origin).Plain ↔
          (Expression.literal
            (.string (String.ofList (items.map QuotedItem.character)))
                origin).IsPlain :=
      List.forall_mem_singleton
    rw [alone, Expression.isPlain_string, String.toList_ofList]
    exact bare_fit_iff
  | .numeral _ number, valid => by
    constructor
    · intro _
      exact List.forall_mem_singleton.mpr (Expression.isPlain_literal nofun)
    · exact fun _ => valid
  | .keyword word, valid => by
    constructor
    · intro _
      refine List.forall_mem_singleton.mpr (Expression.isPlain_literal ?_)
      cases word <;> exact nofun
    · exact fun _ => valid
  | .path qualifier first tail, valid => by
    have inside := Tail.printed_valid_iff first.text tail valid.2.2
    rw [Tree.printed, Tree.Valid, Expression.Plain]
    constructor
    · rintro ⟨-, -, printed⟩
      exact List.forall_mem_cons.mpr ⟨Expression.isPlain_path _ _ _,
        inside.mp printed⟩
    · intro plain
      refine ⟨valid.1, ?_, inside.mpr (List.forall_mem_cons.mp plain).2⟩
      intro unqualified alone
      exact valid.2.1 unqualified (Tail.printed_text_eq_nil.mp alone)

/-- A printed tail is valid exactly when all its arguments are plain. -/
theorem Tail.printed_valid_iff (name : String) :
    (tail : Tail) → tail.Valid →
      (tail.printed.Valid ↔
        ∀ inner ∈ Expression.argumentsOfParts (tail.parts origin name),
          inner.IsPlain)
  | .done, _ => iff_of_true trivial (List.forall_mem_nil _)
  | .dot next tail, valid => Tail.printed_valid_iff next.text tail valid
  | .call between, valid => by
    rw [Tail.printed, Tail.Valid, Arguments.printed_valid_iff between valid]
    constructor
    · intro inside
      exact List.forall_mem_append.mpr ⟨inside, List.forall_mem_nil _⟩
    · intro inside
      exact (List.forall_mem_append.mp inside).1
  | .callDot between next tail, valid => by
    rw [Tail.printed, Tail.Valid, Arguments.printed_valid_iff between valid.1,
      Tail.printed_valid_iff next.text tail valid.2]
    exact List.forall_mem_append.symm

/-- Printed arguments are valid exactly when all of them are plain. -/
theorem Arguments.printed_valid_iff :
    (between : Arguments) → between.Valid →
      (between.printed.Valid ↔
        ∀ inner ∈ Expression.argumentsOfAll (between.values origin),
          inner.IsPlain)
  | .none _, _ => iff_of_true trivial (List.forall_mem_nil _)
  | .some items, valid => Items.printed_valid_iff .absent items valid

theorem Items.printed_valid_iff (before : Blanks) :
    (items : Items) → items.Valid →
      ((items.printed before).Valid ↔
        ∀ inner ∈ Expression.argumentsOfAll (items.values origin),
          inner.IsPlain)
  | .last _ item _, valid => by
    rw [Items.printed, Items.Valid, Tree.printed_valid_iff item valid]
    constructor
    · intro inside
      exact List.forall_mem_append.mpr ⟨inside, List.forall_mem_nil _⟩
    · intro inside
      exact (List.forall_mem_append.mp inside).1
  | .comma _ item _ others, valid => by
    rw [Items.printed, Items.Valid, Tree.printed_valid_iff item valid.1,
      Items.printed_valid_iff .space others valid.2]
    exact List.forall_mem_append.symm

end

end Value

section Rigidity

variable {rest rest' : List Char}

/-- Backslashes in front of a quoted text cannot be made up for by leaving out
escapes: each escape that follows is one more backslash to account for. -/
theorem backslashes_ne
    (items : List QuotedItem) (fits : ∀ item ∈ items, item.Fits '\'')
    (more : Nat) :
    List.replicate (more + 1) '\\' ++
      (items.flatMap QuotedItem.text ++ '\'' :: rest) ≠
      items.map QuotedItem.character ++ '\'' :: rest' := by
  induction items generalizing more with
  | nil =>
      intro same
      cases (List.cons.inj same).1
  | cons item items ih =>
      rcases List.forall_mem_cons.mp fits with ⟨first, others⟩
      intro same
      rw [List.replicate_succ, List.cons_append, List.map_cons,
        List.cons_append] at same
      rcases List.cons.inj same with ⟨character, following⟩
      cases item with
      | plain _ => exact first.1 character.symm
      | escaped _ =>
          rcases character with rfl
          apply ih others (more + 1)
          rw [← following, List.flatMap_cons, List.replicate_succ',
            List.replicate_succ',
            List.append_assoc, List.append_assoc, List.append_assoc]
          rfl

/-- A quoted text is printed as it is written only where it has no escapes. -/
theorem items_rigid
    (items : List QuotedItem) (fits : ∀ item ∈ items, item.Fits '\'')
    (same :
      items.flatMap QuotedItem.text ++ '\'' :: rest =
        items.map QuotedItem.character ++ '\'' :: rest') :
    (∀ item ∈ items.map QuotedItem.bare, item.Fits '\'') ∧ rest = rest' := by
  induction items with
  | nil => exact ⟨List.forall_mem_nil _, (List.cons.inj same).2⟩
  | cons item items ih =>
      rcases List.forall_mem_cons.mp fits with ⟨first, others⟩
      rw [List.flatMap_cons, List.append_assoc, List.map_cons, List.cons_append]
        at same
      cases item with
      | plain _ =>
          rcases ih others (List.cons.inj same).2 with ⟨bare, equal⟩
          exact ⟨List.forall_mem_cons.mpr ⟨first, bare⟩, equal⟩
      | escaped _ =>
          rcases List.cons.inj same with ⟨character, following⟩
          rcases character with rfl
          exact (backslashes_ne items others 0 following).elim

/-- What is printed starts with no blank. -/
theorem Tree.stops_blank_printed {tree : Tree} (valid : tree.Valid) :
    Stops isAsciiBlank (tree.printed.text ++ rest) := by
  cases tree with
  | quoted quote items => exact stops_cons rfl
  | numeral form number => exact Tree.stops_blank valid
  | keyword word => exact Tree.stops_blank valid
  | path qualifier first tail =>
      cases qualifier with
      | none =>
          rcases first.exists_leading valid.1 with
            ⟨character, others, split, -, opens⟩
          rw [Tree.printed, Tree.text_unqualified_append, split]
          exact stops_cons (not_blank_of_opens opens)
      | some qualifier =>
          rcases qualifier.exists_leading valid.1 with
            ⟨character, others, split, -, opens⟩
          rw [Tree.printed, Tree.text_qualified_append, split]
          exact stops_cons (not_blank_of_opens opens)

/-- The blanks around an item are the printed ones where the item is rigid. -/
theorem spaced_rigid
    {before before' after : Blanks} {item : Tree} {closer closer' : Char}
    (valid : item.Valid) (noBlank : isAsciiBlank closer = false)
    (noBlank' : isAsciiBlank closer' = false)
    (rigid : ∀ {left left' : List Char},
      item.text ++ left = item.printed.text ++ left' → item.printed.Valid ∧
        left = left')
    (same :
      before.characters ++ (item.text ++ (after.characters ++ closer :: rest)) =
        before'.characters ++
          (item.printed.text ++
            (Blanks.absent.characters ++ closer' :: rest'))) :
    item.printed.Valid ∧ rest = rest' := by
  rcases Blanks.unique (Tree.stops_blank valid)
    (Tree.stops_blank_printed valid) same
    with ⟨-, fromItem⟩
  rcases rigid fromItem with ⟨printed, fromBlanks⟩
  rcases Blanks.unique (stops_cons noBlank) (stops_cons noBlank')
    fromBlanks with ⟨-, left⟩
  exact ⟨printed, (List.cons.inj left).2⟩

mutual

/-- A text that is written as it is printed has a valid printed derivation. -/
theorem Tree.rigid {rest rest' : List Char} :
    (tree : Tree) → tree.Valid →
      tree.text ++ rest = tree.printed.text ++ rest' →
      tree.printed.Valid ∧ rest = rest'
  | .quoted quote items, valid, same => by
    rw [Tree.printed, Tree.text_quoted_append, Tree.text_quoted_append,
      flatMap_text_bare] at same
    rcases List.cons.inj same with ⟨quotes, body⟩
    rcases Quote.character_injective quotes with rfl
    exact items_rigid items valid body
  | .numeral _ _, valid, same => ⟨valid, List.append_cancel_left same⟩
  | .keyword _, valid, same => ⟨valid, List.append_cancel_left same⟩
  | .path qualifier first tail, valid, same => by
    have tails : tail.text ++ rest = tail.printed.text ++ rest' := by
      cases qualifier with
      | none =>
          rw [Tree.printed, Tree.text_unqualified_append,
            Tree.text_unqualified_append] at same
          exact List.append_cancel_left same
      | some qualifier =>
          rw [Tree.printed, Tree.text_qualified_append,
            Tree.text_qualified_append] at same
          exact List.append_cancel_left
            (List.cons.inj (List.append_cancel_left same)).2
    rcases Tail.rigid tail valid.2.2 tails with ⟨printed, equal⟩
    refine ⟨⟨valid.1, ?_, printed⟩, equal⟩
    intro unqualified alone
    exact valid.2.1 unqualified (Tail.printed_text_eq_nil.mp alone)

/-- A valid tail that has its printed text is printed, and the rests are the
same. -/
theorem Tail.rigid {rest rest' : List Char} :
    (tail : Tail) → tail.Valid →
      tail.text ++ rest = tail.printed.text ++ rest' →
      tail.printed.Valid ∧ rest = rest'
  | .done, _, same => ⟨trivial, same⟩
  | .dot name tail, valid, same => by
    rw [Tail.printed, Tail.text_dot_append, Tail.text_dot_append] at same
    exact Tail.rigid tail valid (List.append_cancel_left (List.cons.inj same).2)
  | .call between, valid, same => by
    rw [Tail.printed, Tail.text_call_append, Tail.text_call_append] at same
    exact Arguments.rigid between valid (List.cons.inj same).2
  | .callDot between name tail, valid, same => by
    rw [Tail.printed, Tail.text_callDot_append, Tail.text_callDot_append]
      at same
    rcases Arguments.rigid between valid.1 (List.cons.inj same).2 with
      ⟨inside, dot⟩
    rcases Tail.rigid tail valid.2
      (List.append_cancel_left (List.cons.inj dot).2)
      with ⟨after, equal⟩
    exact ⟨⟨inside, after⟩, equal⟩

/-- Valid arguments that have their printed text are printed, and the rests are
the same. -/
theorem Arguments.rigid {rest rest' : List Char} :
    (between : Arguments) → between.Valid →
      between.text ++ ')' :: rest = between.printed.text ++ ')' :: rest' →
      between.printed.Valid ∧ rest = rest'
  | .none blanks, _, same => by
    have spaced : blanks.characters ++ ')' :: rest =
        Blanks.absent.characters ++ ')' :: rest' := same
    rcases Blanks.unique (stops_cons rfl) (stops_cons rfl) spaced with
      ⟨-, closed⟩
    exact ⟨trivial, (List.cons.inj closed).2⟩
  | .some items, valid, same => Items.rigid .absent items valid same

theorem Items.rigid {rest rest' : List Char} (before : Blanks) :
    (items : Items) → items.Valid →
      items.text ++ ')' :: rest = (items.printed before).text ++ ')' :: rest' →
      (items.printed before).Valid ∧ rest = rest'
  | .last _ item _, valid, same => by
    rw [Items.printed, Items.text_last_append, Items.text_last_append] at same
    exact spaced_rigid valid rfl rfl (Tree.rigid item valid) same
  | .comma _ item _ others, valid, same => by
    rw [Items.printed, Items.text_comma_append, Items.text_comma_append] at same
    rcases spaced_rigid valid.1 rfl rfl (Tree.rigid item valid.1) same with
      ⟨first, following⟩
    rcases Items.rigid .space others valid.2 following with ⟨rest, equal⟩
    exact ⟨⟨first, rest⟩, equal⟩

end

end Rigidity

/-- The printed derivation of a whole text. -/
def Derivation.printed
    (derivation : Derivation) (valid : derivation.tree.printed.Valid) :
    Derivation where
  before := .absent
  tree := derivation.tree.printed
  after := .absent
  valid := valid

/--
Printing an expression and parsing it back.  An expression that was parsed and
whose number literals are integers at every depth parses back from its text
exactly when no text literal in it, at any depth, has a single quote or a
backslash in it.
-/
theorem parse_text_iff_plain
    {source : String} {origin : Origin} {value : Expression}
    (parsed : Expression.parse source origin = .ok value)
    (integral : value.Integral) :
    Expression.parse value.text origin = .ok value ↔ value.Plain := by
  constructor
  · intro again
    rcases Derivation.exists_of_parse again with
      ⟨⟨before, tree, after, valid⟩, split, rfl⟩
    have printed : tree.printed.text =
        before.characters ++ (tree.text ++ after.characters) := by
      rw [← tree.toList_text_value origin valid integral]
      exact split.symm
    have same :
        before.characters ++ (tree.text ++ after.characters) =
          Blanks.absent.characters ++ (tree.printed.text ++ []) := by
      rw [List.append_nil]
      exact printed.symm
    rcases Blanks.unique (Tree.stops_blank valid)
      (Tree.stops_blank_printed valid) same
      with ⟨-, fromTree⟩
    exact (tree.printed_valid_iff origin valid).mp (tree.rigid valid fromTree).1
  · intro plain
    rcases Derivation.exists_of_parse parsed with ⟨derivation, -, rfl⟩
    have valid :=
      (derivation.tree.printed_valid_iff origin derivation.valid).mpr plain
    have split : (derivation.printed valid).text =
        (derivation.value origin).text.toList := by
      rw [Derivation.value,
        derivation.tree.toList_text_value origin derivation.valid integral]
      exact List.append_nil _
    rw [Derivation.parse_text split]
    exact congrArg Except.ok (derivation.tree.value_printed origin)

/-- The name of one character. -/
def Name.single
    (character : Char)
    (named : Expression.Parser.isNameCharacter character = true) : Name :=
  ⟨[character], List.cons_ne_nil _ _, List.forall_mem_singleton.mpr named⟩

/-- A call with a text of one character in double quotes and a negative
number. -/
def sampleCall
    (character : Char) (fits : (QuotedItem.plain character).Fits '"') :
    Derivation where
  before := .absent
  tree :=
    .path none (.single 'f' rfl)
      (.call
        (.some
          (.comma .space (.quoted .double [.plain character]) .absent
            (.last .absent
              (.numeral
                ⟨true, ⟨['1', '2'], nofun, List.all_eq_true.mp rfl⟩, none,
                  none, nofun⟩
                (.integer (-12)))
              .absent))))
  after := .space
  valid :=
    ⟨stops_cons rfl, nofun, List.forall_mem_singleton.mpr fits, rfl⟩

theorem sampleCall_integral
    (character : Char) (fits : (QuotedItem.plain character).Fits '"')
    (origin : Origin) :
    ((sampleCall character fits).value origin).Integral := by
  refine List.forall_mem_cons.mpr ⟨nofun, List.forall_mem_cons.mpr ⟨nofun, ?_⟩⟩
  refine List.forall_mem_singleton.mpr ?_
  rintro number ⟨⟩
  exact ⟨-12, rfl⟩

/-- The call with a letter in quotes. -/
def letterCall : Derivation :=
  sampleCall 'a' ⟨by decide, by decide⟩

/-- The call with a single quote in quotes. -/
def quoteCall : Derivation :=
  sampleCall '\'' ⟨by decide, by decide⟩

/-- The call with the letter parses back from its text, the one with the single
quote does not. -/
theorem letterCall_parses_back :
    (Expression.parse "f( \"a\",-12) " ⟨"calls", 1⟩ =
      .ok (letterCall.value ⟨"calls", 1⟩) ∧
      Expression.parse (letterCall.value ⟨"calls", 1⟩).text ⟨"calls", 1⟩ =
        .ok (letterCall.value ⟨"calls", 1⟩)) ∧
    (Expression.parse "f( \"'\",-12) " ⟨"calls", 1⟩ =
      .ok (quoteCall.value ⟨"calls", 1⟩) ∧
      Expression.parse (quoteCall.value ⟨"calls", 1⟩).text ⟨"calls", 1⟩ ≠
        .ok (quoteCall.value ⟨"calls", 1⟩)) := by
  have letter :
      Expression.parse "f( \"a\",-12) " ⟨"calls", 1⟩ =
          .ok (letterCall.value ⟨"calls", 1⟩) :=
    Derivation.parse_text (by decide)
  have quote :
      Expression.parse "f( \"'\",-12) " ⟨"calls", 1⟩ =
          .ok (quoteCall.value ⟨"calls", 1⟩) :=
    Derivation.parse_text (by decide)
  refine ⟨⟨letter, ?_⟩, quote, ?_⟩
  · refine (parse_text_iff_plain letter (sampleCall_integral _ _ _)).mpr ?_
    refine List.forall_mem_cons.mpr ⟨nofun, List.forall_mem_cons.mpr ⟨?_, ?_⟩⟩
    · exact Expression.isPlain_string.mpr ⟨by decide, by decide⟩
    · exact List.forall_mem_singleton.mpr nofun
  · intro again
    have plain :=
      (parse_text_iff_plain quote (sampleCall_integral _ _ _)).mp again
    have text := plain _ (List.mem_cons_of_mem _ List.mem_cons_self) "'" rfl
    exact text.1 (by decide)

end Grammar

end Phrasebook
