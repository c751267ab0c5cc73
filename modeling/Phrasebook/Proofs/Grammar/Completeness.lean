import Phrasebook.Proofs.Grammar.Boundary
import Phrasebook.Proofs.Grammar.Reading

/-!
# What is derived is read

Before the end of a text, a blank, a comma or a closing parenthesis the parser
reads a derivation to its end and gets its value.  The induction is on the
derivation; the first character decides which of the three readers is taken, and
what follows a token makes its reader stop there.
-/

namespace Phrasebook

namespace Grammar

open Phrasebook.Text (isAsciiBlank)
open Expression.Parser

variable (origin : Origin) {text rest : List Char}

theorem Name.taken (name : Name) (stops : Stops isNameCharacter rest) :
    taken? (name? (name.characters ++ rest)) = some (name.text, rest) :=
  name?_iff.mpr ⟨name, rfl, rfl, stops⟩

theorem not_blank_of_opens
    {character : Char} (opens : isCloser character = false) :
    isAsciiBlank character = false := by
  rw [isCloser, Bool.or_eq_false_iff, Bool.or_eq_false_iff] at opens
  exact opens.1.1

/-- An expression is read from its first character on, after blanks. -/
theorem read?_expression_from
    (before : Blanks) {first : Char} (opens : isCloser first = false) :
    read? (expression origin (before.characters ++ first :: rest)) =
      readFrom? origin first rest :=
  read?_expression_cons origin
    (before.skip (stops_cons (not_blank_of_opens opens)))

/-- A quoted text is read to its closing quote. -/
theorem readFrom?_quoted
    (quote : Quote) {items : List QuotedItem}
    (fits : ∀ item ∈ items, item.Fits quote.character) :
    readFrom? origin quote.character
      (items.flatMap QuotedItem.text ++ quote.character :: rest) =
      some
        (.literal (.string (String.ofList (items.map QuotedItem.character)))
          origin, rest) := by
  have isQuote : quote.character = '\'' ∨ quote.character = '"' := by
    cases quote <;> decide
  rw [readFrom?, if_pos isQuote,
    (quotedBody?_iff quote.character_ne_backslash).mpr ⟨items, fits, rfl, rfl⟩]
  rfl

theorem not_quote_of_kind {first : Char} (kind : kindOf first ≠ .quoted) :
    ¬ (first = '\'' ∨ first = '"') :=
  fun isQuote => kind (if_pos isQuote)

/-- A number is read up to what closes it. -/
theorem readFrom?_numeral
    (form : NumberForm) {number : Number}
    (held : Number.ofNumeral? form.numeral = some number) (closes : Closes rest)
    {first : Char} (split : form.text ++ rest = first :: text) :
    readFrom? origin first text =
      some (.literal (.number number) origin, rest) := by
  rcases form.exists_cons with ⟨lead, others, characters, starts⟩
  have inside := form.numeric
  rw [characters] at inside
  rw [characters, List.cons_append] at split
  rcases List.cons.inj split with ⟨rfl, rfl⟩
  have later := (List.forall_mem_cons.mp inside).2
  have value : numeralValue? (lead :: others) = some (.number number) :=
    numeralValue?_iff.mpr ⟨form, number, characters, held, rfl⟩
  have kind : kindOf lead ≠ .quoted := by
    rw [kindOf_numeral starts]
    exact nofun
  rw [readFrom?, if_neg (not_quote_of_kind kind), if_pos starts,
    takeWhile_run later closes.stops_numeral,
      dropWhile_run later closes.stops_numeral, value]
  rfl

/-- A name at the beginning is read as the beginning of a path. -/
theorem readFrom?_named
    (name : Name) (leads : name.Leads) (stops : Stops isNameCharacter rest)
    {first : Char} (split : name.characters ++ rest = first :: text) :
    readFrom? origin first text = readNamed? origin name.text rest := by
  rcases name.exists_leading leads with ⟨lead, others, characters, kind, -⟩
  have outside : startsNumeral lead = false := by
    apply leads
    rw [characters]
    rfl
  have taken := name.taken stops
  rw [split] at taken
  rw [characters] at split
  rcases (List.cons.inj split).1 with rfl
  have noQuote : kindOf lead ≠ .quoted := by
    rw [kind]
    exact nofun
  rw [readFrom?, if_neg (not_quote_of_kind noQuote), outside,
    if_neg Bool.false_ne_true, taken]
  rfl

/-- A text that starts a path is not taken for a keyword. -/
theorem keywordBefore?_path
    {first : Name} {tail : Tail}
    (noKeyword : tail.text = [] → ∀ word : Keyword, first ≠ word.name)
    (closes : Closes rest) :
    keywordBefore? first.text (tail.text ++ rest) = none := by
  cases tail with
  | done =>
      exact (keywordBefore?_eq closes.endsPath).trans
        (keyword?_eq_none.mpr (noKeyword rfl))
  | dot name tail => rfl
  | call between => rfl
  | callDot between name tail => rfl

/-- A derivation is read as an expression as soon as its text, after the first
character, is. -/
theorem read?_tree
    {tree : Tree} {value : Expression} (before : Blanks) (valid : tree.Valid)
    (reads : ∀ first following, tree.text ++ rest = first :: following →
      readFrom? origin first following = some (value, rest)) :
    read? (expression origin (before.characters ++ (tree.text ++ rest))) =
      some (value, rest) := by
  rcases tree.exists_cons valid with ⟨first, following, split, -, opens⟩
  rw [split] at reads ⊢
  rw [List.cons_append, read?_expression_from origin before opens]
  exact reads _ _ rfl

theorem readMember?_name
    (next : Name) (stops : Stops isNameCharacter rest) :
    readMember? origin (next.characters ++ rest) =
      read? (parts origin next.text rest) := by
  rw [readMember?, next.taken stops]
  rfl

/-- A tree is not taken for the end of the arguments. -/
theorem not_closed {tree : Tree} (before : Blanks) (valid : tree.Valid)
    (following : List Char) :
    skipBlanks (before.characters ++ (tree.text ++ rest)) ≠
      ')' :: following := by
  rcases tree.exists_cons valid with ⟨first, others, split, -, opens⟩
  rw [split, List.cons_append,
    before.skip (stops_cons (not_blank_of_opens opens))]
  intro same
  rw [(List.cons.inj same).1] at opens
  cases opens

theorem Items.not_closed
    {items : Items} (valid : items.Valid) (following : List Char) :
    skipBlanks (items.text ++ rest) ≠ ')' :: following := by
  cases items with
  | last before item after =>
      rw [Items.text_last_append]
      exact Grammar.not_closed before valid following
  | comma before item after others =>
      rw [Items.text_comma_append]
      exact Grammar.not_closed before valid.1 following

-- The text after the parentheses of an argument list is arbitrary, so only
-- trees and tails ask for a closing rest.
mutual

/-- Every valid tree is read, and the rest of the text is left behind. -/
theorem Tree.complete
    {before : Blanks} {rest : List Char} (closes : Closes rest) :
    (tree : Tree) → tree.Valid →
      read? (expression origin (before.characters ++ (tree.text ++ rest))) =
        some (tree.value origin, rest)
  | .quoted quote items, valid => by
    refine read?_tree origin before valid fun first following split => ?_
    rw [Tree.text_quoted_append] at split
    rcases List.cons.inj split with ⟨rfl, rfl⟩
    exact readFrom?_quoted origin quote valid
  | .numeral form number, valid =>
    read?_tree origin before valid fun _ _ split =>
      readFrom?_numeral origin form valid closes split
  | .keyword word, valid => by
    refine read?_tree origin before valid fun first following split => ?_
    rw [readFrom?_named origin word.name word.leads closes.stops_name split,
      readNamed?_unqualified origin (closes.ne_cons rfl), readUnqualified?,
      keywordBefore?_eq closes.endsPath, keyword?_iff.mpr ⟨word, rfl, rfl⟩]
    rfl
  | .path none first tail, valid => by
    refine read?_tree origin before valid fun character following split => ?_
    rcases valid with ⟨leads, noKeyword, tailValid⟩
    rw [Tree.text_unqualified_append] at split
    rw [readFrom?_named origin first leads (tail.stops_name closes) split,
      readNamed?_unqualified origin (tail.no_colon closes), readUnqualified?,
      keywordBefore?_path (noKeyword rfl) closes,
        Tail.complete closes tail tailValid first.text]
    rfl
  | .path (some qualifier) first tail, valid => by
    refine read?_tree origin before valid fun character following split => ?_
    rcases valid with ⟨leads, -, tailValid⟩
    rw [Tree.text_qualified_append] at split
    rw [readFrom?_named origin qualifier leads (stops_cons rfl) split]
    change readQualified? origin _ _ = _
    rw [readQualified?, first.taken (tail.stops_name closes), Option.bind_some,
      Tail.complete closes tail tailValid first.text]
    rfl

/-- Every valid tail is read behind its name. -/
theorem Tail.complete {rest : List Char} (closes : Closes rest) :
    (tail : Tail) → tail.Valid → (name : String) →
      read? (parts origin name (tail.text ++ rest)) =
        some (tail.parts origin name, rest)
  | .done, _, name =>
      read?_parts_done origin closes.endsPath.noCall closes.endsPath.noDot
  | .dot next tail, valid, name => by
    rw [Tail.text_dot_append, read?_parts_dot,
      readMember?_name origin next (tail.stops_name closes),
      Tail.complete closes tail valid next.text]
    rfl
  | .call between, valid, name => by
    rw [Tail.text_call_append, read?_parts_call,
      Arguments.complete between valid, Option.bind_some,
      readAfterCall?_done origin closes.endsPath.noDot]
    rfl
  | .callDot between next tail, valid, name => by
    rcases valid with ⟨betweenValid, tailValid⟩
    rw [Tail.text_callDot_append, read?_parts_call,
      Arguments.complete between betweenValid]
    change (readMember? origin (next.characters ++ (tail.text ++ rest))).map _ =
      _
    rw [readMember?_name origin next (tail.stops_name closes),
      Tail.complete closes tail tailValid next.text]
    rfl

/-- Every valid argument list is read up to its closing parenthesis. -/
theorem Arguments.complete {rest : List Char} :
    (between : Arguments) → between.Valid →
      read? (arguments origin (between.text ++ ')' :: rest)) =
        some (between.values origin, rest)
  | .none blanks, _ =>
      read?_arguments_closed origin (blanks.skip (stops_cons rfl))
  | .some items, valid =>
    (read?_arguments_open origin (items.not_closed valid)).trans
      (Items.complete items valid)

theorem Items.complete {rest : List Char} :
    (items : Items) → items.Valid →
      read? (argumentList origin (items.text ++ ')' :: rest)) =
        some (items.values origin, rest)
  | .last before item after, valid => by
    have closes : Closes (after.characters ++ ')' :: rest) :=
      after.closes (closes_cons rfl rest)
    rw [Items.text_last_append, read?_argumentList,
      Tree.complete closes item valid, Option.bind_some,
        after.skip (stops_cons rfl)]
    rfl
  | .comma before item after others, valid => by
    rcases valid with ⟨itemValid, othersValid⟩
    have closes :
        Closes (after.characters ++ ',' :: (others.text ++ ')' :: rest)) :=
      after.closes (closes_cons rfl _)
    rw [Items.text_comma_append, read?_argumentList,
      Tree.complete closes item itemValid, Option.bind_some,
      after.skip (stops_cons rfl)]
    change (read? (argumentList origin (others.text ++ ')' :: rest))).map _ = _
    rw [Items.complete others othersValid]
    rfl

end

end Grammar

end Phrasebook
