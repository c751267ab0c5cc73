import Phrasebook.Proofs.Grammar.Printing
import Phrasebook.Proofs.Template.Segmentation

/-!
# Expressions between braces

The text of a valid derivation can stand between braces as it is: a placeholder
can start with it, its quotes are closed and no closing brace stands outside
them, and there is no blank at its end to be cut. So the placeholder is read as
the expression that is derived.
-/

namespace Phrasebook

namespace Grammar

open Expression.Parser (isNameCharacter isNumeralCharacter startsNumeral)
open Phrasebook.Text (isAsciiBlank isBlank)
open Segmentation (Stretch Opens contentText)
open TemplateNode (content? ofSource ofPending opensBefore)

/-- The characters that are not content by themselves: the quotes and the
closing brace. -/
def reserved : List Char :=
  ['\'', '"', '\x7d']

theorem bare_fits {character : Char} (free : character ∉ reserved) :
    (Stretch.bare character).Fits := by
  simp only [reserved, List.mem_cons, List.not_mem_nil, or_false, not_or]
    at free
  refine ⟨free.2.2, ?_⟩
  intro quote
  cases quote with
  | single => exact free.1
  | double => exact free.2.1

/-- A class of characters without reserved ones. -/
theorem bare_fits_of
    {test : Char → Bool}
    (outside : reserved.all (fun character => !test character) = true)
    {character : Char} (inside : test character = true) :
    (Stretch.bare character).Fits := by
  refine bare_fits fun member => ?_
  have refused := List.all_eq_true.mp outside character member
  rw [inside] at refused
  cases refused

/-- The texts that are the content of a placeholder as they stand. -/
def Embeds (text : List Char) : Prop :=
  ∃ content : List Stretch, (∀ stretch ∈ content, stretch.Fits) ∧
    contentText content = text

namespace Embeds

variable {text text' : List Char}

/-- A text of bare characters can stand in a placeholder. -/
theorem of_bare (fits : ∀ character ∈ text, (Stretch.bare character).Fits) :
    Embeds text := by
  refine ⟨text.map Stretch.bare, List.forall_mem_map.mpr fits, ?_⟩
  rw [contentText, List.flatMap_map]
  exact List.flatMap_singleton' _

/-- Two texts that can stand in a placeholder can do so together. -/
theorem append (embeds : Embeds text) (embeds' : Embeds text') :
    Embeds (text ++ text') := by
  rcases embeds with ⟨content, fits, rfl⟩
  rcases embeds' with ⟨content', fits', rfl⟩
  exact ⟨content ++ content', List.forall_mem_append.mpr ⟨fits, fits'⟩,
    List.flatMap_append⟩

/-- A character that is not reserved can stand before a content. -/
theorem cons
    {character : Char} (free : character ∉ reserved) (embeds : Embeds text) :
    Embeds (character :: text) := by
  have single : Embeds [character] :=
    of_bare (List.forall_mem_singleton.mpr (bare_fits free))
  exact single.append embeds

/-- A quoted text can stand in a placeholder. -/
theorem quoted {quote : Quote} {items : List QuotedItem}
    (fits : ∀ item ∈ items, item.Fits quote.character) :
    Embeds
      (quote.character ::
        (items.flatMap QuotedItem.text ++ [quote.character])) :=
  ⟨[.quoted quote items], List.forall_mem_singleton.mpr fits, List.append_nil _⟩

theorem name (name : Name) : Embeds name.characters :=
  of_bare fun character member => bare_fits_of rfl (name.named character member)

theorem blanks (blanks : Blanks) : Embeds blanks.characters :=
  of_bare fun character member =>
    bare_fits_of rfl (blanks.blank character member)

theorem numeral (form : NumberForm) : Embeds form.text :=
  of_bare fun character member =>
    bare_fits_of rfl (form.numeric character member)

end Embeds

mutual

/-- In the text of a derivation quotes are closed and closing braces stand
inside quotes only. -/
theorem Tree.embeds : (tree : Tree) → tree.Valid → Embeds tree.text
  | .quoted _ _, valid => .quoted valid
  | .numeral form _, _ => .numeral form
  | .keyword word, _ => .name word.name
  | .path none first tail, valid =>
      (Embeds.name first).append (Tail.embeds tail valid.2.2)
  | .path (some qualifier) first tail, valid =>
    have rest := (Embeds.name first).append (Tail.embeds tail valid.2.2)
    (Embeds.name qualifier).append (rest.cons (by decide))

/-- A tail can stand in a placeholder. -/
theorem Tail.embeds : (tail : Tail) → tail.Valid → Embeds tail.text
  | .done, _ => .of_bare (List.forall_mem_nil _)
  | .dot name tail, valid =>
      ((Embeds.name name).append (Tail.embeds tail valid)).cons (by decide)
  | .call between, valid =>
    have close : Embeds [')'] :=
      .of_bare (List.forall_mem_singleton.mpr (bare_fits (by decide)))
    ((Arguments.embeds between valid).append close).cons (by decide)
  | .callDot between name tail, valid =>
    have rest := (Embeds.name name).append (Tail.embeds tail valid.2)
    have close :=
      (rest.cons (by decide : '.' ∉ reserved)).cons (by decide : ')' ∉ reserved)
    ((Arguments.embeds between valid.1).append close).cons (by decide)

/-- Arguments can stand in a placeholder. -/
theorem Arguments.embeds :
    (between : Arguments) → between.Valid → Embeds between.text
  | .none blanks, _ => .blanks blanks
  | .some items, valid => Items.embeds items valid

/-- Items can stand in a placeholder. -/
theorem Items.embeds : (items : Items) → items.Valid → Embeds items.text
  | .last before item after, valid =>
    (Embeds.blanks before).append
      ((Tree.embeds item valid).append (.blanks after))
  | .comma before item after rest, valid =>
    have others := (Items.embeds rest valid.2).cons (by decide : ',' ∉ reserved)
    (Embeds.blanks before).append
      ((Tree.embeds item valid.1).append ((Embeds.blanks after).append others))

end

theorem Derivation.embeds (derivation : Derivation) : Embeds derivation.text :=
  (Embeds.blanks derivation.before).append
    ((derivation.tree.embeds derivation.valid).append
      (.blanks derivation.after))

/-- The visible characters of ASCII are not blank. -/
theorem not_blank_of_visible
    {character : Char} (above : 0x20 < character.toNat)
    (below : character.toNat < 0x7f) :
    isBlank character = false := by
  simp only [isBlank, Bool.or_eq_false_iff, Bool.and_eq_false_iff,
    decide_eq_false_iff_not, beq_eq_false_iff_ne]
  omega

theorem not_blank_of_named
    {character : Char} (named : isNameCharacter character = true) :
    isBlank character = false := by
  simp only [isNameCharacter, Char.isAlphanum, Bool.or_eq_true, beq_iff_eq]
    at named
  change (((decide (65 ≤ character.val ∧ character.val ≤ 90) ||
    (decide (97 ≤ character.val) && decide (character.val ≤ 122))) = true ∨
      (decide (48 ≤ character.val) && decide (character.val ≤ 57)) = true) ∨
      character = '_') ∨
        character = '-' at named
  simp only [Bool.or_eq_true, Bool.and_eq_true, decide_eq_true_eq,
    UInt32.le_iff_toNat_le] at named
  change ((((65 ≤ character.toNat ∧ character.toNat ≤ 90) ∨
    (97 ≤ character.toNat ∧ character.toNat ≤ 122)) ∨
      (48 ≤ character.toNat ∧ character.toNat ≤ 57)) ∨ character = '_') ∨
      character = '-' at named
  rcases named with (((upper | lower) | digit) | rfl) | rfl
  · exact not_blank_of_visible (by omega) (by omega)
  · exact not_blank_of_visible (by omega) (by omega)
  · exact not_blank_of_visible (by omega) (by omega)
  · rfl
  · rfl

theorem not_blank_of_numeric
    {character : Char} (numeric : isNumeralCharacter character = true) :
    isBlank character = false := by
  simp only [isNumeralCharacter, Bool.or_eq_true, beq_iff_eq] at numeric
  rcases numeric with ((((digit | rfl) | rfl) | rfl) | rfl) | rfl
  · exact not_blank_of_named
      (named_of_startsNumeral (by rw [startsNumeral, digit, Bool.true_or]))
  all_goals rfl

/-- A text with a character at its end that is not blank. -/
def EndsVisibly (text : List Char) : Prop :=
  ∃ characters last, text = characters ++ [last] ∧ isBlank last = false

namespace EndsVisibly

theorem after
    {text : List Char} (visible : EndsVisibly text) (before : List Char) :
    EndsVisibly (before ++ text) := by
  rcases visible with ⟨characters, last, rfl, visible⟩
  exact ⟨before ++ characters, last, (List.append_assoc _ _ _).symm, visible⟩

theorem behind
    {text : List Char} (visible : EndsVisibly text) (character : Char) :
    EndsVisibly (character :: text) :=
  visible.after [character]

theorem of_class
    {test : Char → Bool}
    (visible : ∀ character, test character = true → isBlank character = false)
    {text : List Char} (nonempty : text ≠ [])
    (inside : ∀ character ∈ text, test character = true) :
    EndsVisibly text :=
  ⟨text.dropLast, text.getLast nonempty,
    (List.dropLast_append_getLast nonempty).symm,
    visible _ (inside _ (List.getLast_mem nonempty))⟩

theorem name (name : Name) : EndsVisibly name.characters :=
  of_class (fun _ => not_blank_of_named) name.nonempty name.named

/-- A text that ends visibly has nothing trimmed off its end. -/
theorem trimEnd {text : List Char} (visible : EndsVisibly text) :
    Text.trimEnd (String.ofList text) = String.ofList text := by
  rcases visible with ⟨characters, last, rfl, visible⟩
  rw [Text.trimEnd, String.toList_ofList, Text.trimEndChars,
    List.reverse_append, List.reverse_singleton, List.singleton_append,
    List.dropWhile_cons_of_neg (Bool.eq_false_iff.mp visible),
    List.reverse_cons, List.reverse_reverse]

end EndsVisibly

/-- A name and its tail end visibly. -/
theorem Tail.endsVisibly (name : Name) (tail : Tail) :
    EndsVisibly (name.characters ++ tail.text) := by
  cases tail with
  | done =>
      rw [Tail.text, List.append_nil]
      exact .name name
  | dot next tail => exact ((Tail.endsVisibly next tail).behind '.').after _
  | call between =>
      have closed : EndsVisibly [')'] := ⟨[], ')', rfl, rfl⟩
      exact ((closed.after between.text).behind '(').after _
  | callDot between next tail =>
      have rest := ((Tail.endsVisibly next tail).behind '.').behind ')'
      exact ((rest.after between.text).behind '(').after _

/-- No derivation ends in a blank. -/
theorem Tree.endsVisibly (tree : Tree) : EndsVisibly tree.text := by
  match tree with
  | .quoted quote items =>
      have closed : EndsVisibly [quote.character] :=
        ⟨[], _, rfl, by cases quote <;> rfl⟩
      exact (closed.after _).behind _
  | .numeral form _ =>
      rcases form.exists_cons with ⟨first, rest, split, -⟩
      refine .of_class (fun _ => not_blank_of_numeric) ?_ form.numeric
      rw [Tree.text, split]
      exact List.cons_ne_nil _ _
  | .keyword word => exact .name word.name
  | .path none first tail => exact tail.endsVisibly first
  | .path (some qualifier) first tail =>
      exact ((tail.endsVisibly first).behind ':').after _

theorem opensBefore_of_named
    {character : Char} (named : isNameCharacter character = true) :
    opensBefore character = true := by
  have visible := not_blank_of_opens (not_closer_of_named named)
  have noOpening : character ≠ '\x7b' := by
    rintro rfl
    cases named
  have noClosing : character ≠ '\x7d' := by
    rintro rfl
    cases named
  simp [opensBefore, visible, noOpening, noClosing]

/-- A brace in front of a name opens a placeholder. -/
theorem Name.opens (name : Name) (rest : List Char) :
    Opens (name.characters ++ rest) := by
  rcases name.exists_cons with ⟨first, others, split, named⟩
  rw [split]
  exact ⟨first, _, rfl, opensBefore_of_named named⟩

/-- A placeholder can start with every derivation. -/
theorem Tree.opens (tree : Tree) (rest : List Char) :
    Opens (tree.text ++ rest) := by
  match tree with
  | .quoted quote items =>
      refine ⟨quote.character, _, rfl, ?_⟩
      cases quote <;> rfl
  | .numeral form _ =>
      rcases form.exists_cons with ⟨first, others, split, starts⟩
      rw [Tree.text, split]
      exact ⟨first, _, rfl,
        opensBefore_of_named (named_of_startsNumeral starts)⟩
  | .keyword word => exact word.name.opens rest
  | .path none first tail =>
      rw [Tree.text_unqualified_append]
      exact first.opens _
  | .path (some qualifier) first tail =>
      rw [Tree.text_qualified_append]
      exact qualifier.opens _

/-- A derivation between braces is read as the placeholder of its expression. -/
theorem ofSource_tree
    {tree : Tree} (valid : tree.Valid) (template : String) (line : Nat)
    (pending rest : List Char) :
    ofSource template line pending ('\x7b' :: (tree.text ++ '\x7d' :: rest)) =
      (ofSource template (line + tree.text.count '\n') [] rest).map fun nodes =>
        ofPending pending ++ .placeholder (tree.value ⟨template, line⟩) ::
          nodes := by
  have found : taken? (content? none (tree.text ++ '\x7d' :: rest)) =
      some (tree.text, rest) := by
    rcases tree.embeds valid with ⟨content, fits, split⟩
    rw [← split]
    exact Segmentation.content?_complete fits rest
  have parsed :
      Expression.parse (String.ofList tree.text) ⟨template, line⟩ =
        .ok (tree.value ⟨template, line⟩) := by
    have split :
        (Derivation.mk .absent tree .absent valid).text =
            (String.ofList tree.text).toList := by
      rw [String.toList_ofList]
      exact List.append_nil _
    exact Derivation.parse_text split
  rw [Segmentation.ofSource_placeholder (tree.opens _) found,
    tree.endsVisibly.trimEnd, parsed]

/-- The template of one placeholder has one node. -/
theorem parse_tree
    {tree : Tree} (valid : tree.Valid) {source : String}
    (spelled : source.toList = '\x7b' :: (tree.text ++ ['\x7d']))
    (id : String) :
    TemplateNode.parse id source = .ok [.placeholder (tree.value ⟨id, 1⟩)] := by
  rw [TemplateNode.parse, spelled, ofSource_tree valid, ofSource]
  rfl

end Grammar

end Phrasebook
