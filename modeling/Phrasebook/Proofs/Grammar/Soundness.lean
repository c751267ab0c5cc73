import Phrasebook.Proofs.Grammar.Boundary
import Phrasebook.Proofs.Grammar.Reading

/-!
# What is read is derived

Whatever the parser reads from the start of a text has a derivation in the
grammar, whose value is what was read.  Each parsing function is treated once,
from the same fact about the functions that it calls; those are called on
shorter texts, or on the same text further down in the grammar, so the facts
hold together by induction on the length of the text.
-/

namespace Phrasebook

namespace Grammar

open Expression.Parser

variable (origin : Origin)

/-- Expressions read from a text are derived, after blanks. -/
def ReadsTrees (text : List Char) : Prop :=
  ∀ value rest, read? (expression origin text) = some (value, rest) →
    ∃ (before : Blanks) (tree : Tree),
      tree.Valid ∧ tree.value origin = value ∧
        text = before.characters ++ (tree.text ++ rest)

/-- Parts read from a text are derived, and stop early only where the path
ends. -/
def ReadsTails (text : List Char) : Prop :=
  ∀ name read rest, read? (parts origin name text) = some (read, rest) →
    ∃ tail : Tail,
      tail.Valid ∧ tail.parts origin name = read ∧ text = tail.text ++ rest ∧
        (tail.text = [] → EndsPath text)

/-- Arguments read from a text are derived, before a closing parenthesis. -/
def ReadsArguments (text : List Char) : Prop :=
  ∀ values rest, read? (arguments origin text) = some (values, rest) →
    ∃ between : Arguments,
      between.Valid ∧ between.values origin = values ∧
        text = between.text ++ ')' :: rest

/-- The same for nonempty argument lists. -/
def ReadsItems (text : List Char) : Prop :=
  ∀ values rest, read? (argumentList origin text) = some (values, rest) →
    ∃ items : Items,
      items.Valid ∧ items.values origin = values ∧
        text = items.text ++ ')' :: rest

variable {origin} {text rest : List Char}

theorem length_lt_of_name
    {name : Name} (split : text = name.characters ++ rest) :
    rest.length < text.length := by
  rw [split, List.length_append]
  exact Nat.lt_add_of_pos_left (List.length_pos_iff.mpr name.nonempty)

/-- The name and the parts after a point are derived when the parts of shorter
texts are. -/
theorem readMember?_sound
    {read : List Part}
    (tails : ∀ shorter, shorter.length < text.length →
      ReadsTails origin shorter)
    (reads : readMember? origin text = some (read, rest)) :
    ∃ (next : Name) (tail : Tail),
      tail.Valid ∧ tail.parts origin next.text = read ∧
        text = next.characters ++ (tail.text ++ rest) := by
  rw [readMember?] at reads
  rcases Option.bind_eq_some_iff.mp reads with ⟨⟨name, following⟩, taken, reads⟩
  rcases name?_iff.mp taken with ⟨next, rfl, split, -⟩
  rcases tails following (length_lt_of_name split) next.text read rest reads
    with ⟨tail, valid, value, rfl, -⟩
  exact ⟨next, tail, valid, value, split⟩

theorem readsTails
    (arguments : ∀ shorter, shorter.length < text.length →
      ReadsArguments origin shorter)
    (tails : ∀ shorter, shorter.length < text.length →
      ReadsTails origin shorter) :
    ReadsTails origin text := by
  intro name read rest reads
  by_cases ends : EndsPath text
  · rw [read?_parts_done origin ends.noCall ends.noDot] at reads
    cases reads
    exact ⟨.done, trivial, rfl, rfl, fun _ => ends⟩
  have starts : (∃ following, text = '(' :: following) ∨ ∃ following,
      text = '.' :: following := by
    by_contra neither
    rcases not_or.mp neither with ⟨noCall, noDot⟩
    exact ends ⟨not_exists.mp noCall, not_exists.mp noDot⟩
  rcases starts with ⟨following, rfl⟩ | ⟨following, rfl⟩
  · rw [read?_parts_call] at reads
    rcases Option.bind_eq_some_iff.mp reads with
      ⟨⟨values, afterCall⟩, readArguments, readAfter⟩
    rcases arguments following (Nat.lt_succ_self _) values afterCall
      readArguments
      with ⟨between, valid, rfl, rfl⟩
    by_cases dot : ∃ afterDot, afterCall = '.' :: afterDot
    · rcases dot with ⟨afterDot, rfl⟩
      rcases Option.map_eq_some_iff.mp readAfter with
        ⟨⟨others, left⟩, readMember, equal⟩
      cases equal
      have shorter :
          ∀ later : List Char, later.length < afterDot.length →
              ReadsTails origin later := by
        intro later bound
        apply tails
        simp only [List.length_cons, List.length_append]
        omega
      rcases readMember?_sound shorter readMember with
        ⟨next, tail, tailValid, rfl, rfl⟩
      exact ⟨.callDot between next tail, ⟨valid, tailValid⟩, rfl,
        (Tail.text_callDot_append _ between next tail).symm, nofun⟩
    · rw [readAfterCall?_done origin (not_exists.mp dot)] at readAfter
      cases readAfter
      exact ⟨.call between, valid, rfl,
        (Tail.text_call_append _ between).symm, nofun⟩
  · rw [read?_parts_dot] at reads
    rcases Option.map_eq_some_iff.mp reads with
      ⟨⟨others, left⟩, readMember, equal⟩
    cases equal
    have shorter :
        ∀ later : List Char, later.length < following.length →
            ReadsTails origin later :=
      fun later bound => tails later (Nat.lt_succ_of_lt bound)
    rcases readMember?_sound shorter readMember with
      ⟨next, tail, valid, rfl, rfl⟩
    exact ⟨.dot next tail, valid, rfl,
      (Tail.text_dot_append _ next tail).symm, nofun⟩

/-- What is read behind a name without a qualifier is the text of a tree. -/
theorem readUnqualified?_sound
    {name : Name} {value : Expression} (leads : name.Leads)
    (tails : ReadsTails origin text)
    (reads : readUnqualified? origin name.text text = some (value, rest)) :
    ∃ tree : Tree,
      tree.Valid ∧ tree.value origin = value ∧ name.characters ++ text =
        tree.text ++ rest := by
  rw [readUnqualified?] at reads
  cases keyword : keywordBefore? name.text text with
  | some constant =>
      rw [keyword] at reads
      cases reads
      have stands : keyword? name.text = some constant := by
        unfold keywordBefore? at keyword
        split at keyword
        · cases keyword
        · cases keyword
        · exact keyword
      rcases keyword?_iff.mp stands with ⟨word, same, rfl⟩
      rcases Name.text_injective same with rfl
      exact ⟨.keyword word, trivial, rfl, rfl⟩
  | none =>
      rw [keyword] at reads
      rcases Option.map_eq_some_iff.mp reads with
        ⟨⟨read, left⟩, readParts, equal⟩
      cases equal
      rcases tails _ _ _ readParts with ⟨tail, valid, rfl, split, ends⟩
      refine ⟨.path none name tail, ⟨leads, fun _ empty => ?_, valid⟩, rfl, ?_⟩
      · rw [keywordBefore?_eq (ends empty)] at keyword
        exact keyword?_eq_none.mp keyword
      · rw [split, Tree.text_unqualified_append]

/-- What is read behind a qualifier is the text of a tree. -/
theorem readQualified?_sound
    {qualifier : Name} {value : Expression} (leads : qualifier.Leads)
    (tails : ∀ shorter, shorter.length < text.length →
      ReadsTails origin shorter)
    (reads : readQualified? origin qualifier.text text = some (value, rest)) :
    ∃ tree : Tree,
      tree.Valid ∧ tree.value origin = value ∧
        qualifier.characters ++ ':' :: text = tree.text ++ rest := by
  rw [readQualified?] at reads
  rcases Option.bind_eq_some_iff.mp reads with
    ⟨⟨first, following⟩, taken, reads⟩
  rcases Option.map_eq_some_iff.mp reads with ⟨⟨read, left⟩, readParts, equal⟩
  cases equal
  rcases name?_iff.mp taken with ⟨first, rfl, split, -⟩
  rcases tails following (length_lt_of_name split) _ _ _ readParts with
    ⟨tail, valid, rfl, rfl, -⟩
  refine ⟨.path (some qualifier) first tail, ⟨leads, ?_, valid⟩, rfl, ?_⟩
  · intro absent
    cases absent
  · rw [split, Tree.text_qualified_append]

theorem exists_quote {first : Char} (isQuote : first = '\'' ∨ first = '"') :
    ∃ quote : Quote, quote.character = first := by
  rcases isQuote with rfl | rfl
  · exact ⟨.single, rfl⟩
  · exact ⟨.double, rfl⟩

theorem readNamed?_sound
    {name : Name} {value : Expression} (leads : name.Leads)
    (tails : ∀ shorter, shorter.length ≤ text.length →
      ReadsTails origin shorter)
    (reads : readNamed? origin name.text text = some (value, rest)) :
    ∃ tree : Tree,
      tree.Valid ∧ tree.value origin = value ∧ name.characters ++ text =
        tree.text ++ rest := by
  by_cases colon : ∃ afterColon, text = ':' :: afterColon
  · rcases colon with ⟨afterColon, rfl⟩
    refine readQualified?_sound leads (fun shorter bound =>
      tails shorter ?_) reads
    exact Nat.le_succ_of_le (Nat.le_of_lt bound)
  · rw [readNamed?_unqualified origin (not_exists.mp colon)] at reads
    exact readUnqualified?_sound leads (tails text (Nat.le_refl _)) reads

/-- What is read from a first character is the text of a tree. -/
theorem readFrom?_sound
    {first : Char} {value : Expression}
    (tails : ∀ shorter, shorter.length < (first :: text).length →
      ReadsTails origin shorter)
    (reads : readFrom? origin first text = some (value, rest)) :
    ∃ tree : Tree,
      tree.Valid ∧ tree.value origin = value ∧
        first :: text = tree.text ++ rest := by
  rw [readFrom?] at reads
  split_ifs at reads with isQuote starts
  · rcases exists_quote isQuote with ⟨quote, rfl⟩
    rcases Option.map_eq_some_iff.mp reads with ⟨⟨body, left⟩, taken, equal⟩
    cases equal
    rcases (quotedBody?_iff quote.character_ne_backslash).mp taken with
      ⟨items, fits, rfl, rfl⟩
    exact ⟨.quoted quote items, fits, rfl,
      (Tree.text_quoted_append _ quote items).symm⟩
  · rcases Option.map_eq_some_iff.mp reads with ⟨constant, readNumber, equal⟩
    cases equal
    rcases numeralValue?_iff.mp readNumber with ⟨form, number, split, held, rfl⟩
    refine ⟨.numeral form number, held, rfl, ?_⟩
    rw [Tree.text, split, List.cons_append, List.takeWhile_append_dropWhile]
  · rcases Option.bind_eq_some_iff.mp reads with
      ⟨⟨read, following⟩, taken, readRest⟩
    rcases name?_iff.mp taken with ⟨name, rfl, split, -⟩
    have leads : name.Leads := by
      intro character head
      rcases name.exists_cons with ⟨lead, others, characters, -⟩
      rw [characters] at head split
      rcases Option.some.inj head with rfl
      rw [← (List.cons.inj split).1]
      exact Bool.eq_false_iff.mpr starts
    rw [split]
    refine readNamed?_sound leads (fun shorter bound =>
      tails shorter ?_) readRest
    exact Nat.lt_of_le_of_lt bound (length_lt_of_name split)

/-- What is read as an expression is the text of a valid tree, if this is so of
the tails in shorter texts. -/
theorem readsTrees
    (tails : ∀ shorter, shorter.length < text.length →
      ReadsTails origin shorter) :
    ReadsTrees origin text := by
  intro value rest reads
  rcases Blanks.exists_skipped text with ⟨before, split⟩
  cases start : skipBlanks text with
  | nil =>
      rw [read?_expression_nil origin start] at reads
      cases reads
  | cons first following =>
      rw [read?_expression_cons origin start] at reads
      rw [start] at split
      have shorter :
          ∀ later : List Char, later.length < (first :: following).length →
            ReadsTails origin later := by
        intro later bound
        apply tails
        rw [split, List.length_append]
        omega
      rcases readFrom?_sound shorter reads with ⟨tree, valid, equal, text_eq⟩
      rw [text_eq] at split
      exact ⟨before, tree, valid, equal, split⟩

/-- What is read as an argument list is the text of valid items. -/
theorem readsItems
    (trees : ReadsTrees origin text)
    (items : ∀ shorter, shorter.length < text.length →
      ReadsItems origin shorter) :
    ReadsItems origin text := by
  intro values rest reads
  rw [read?_argumentList] at reads
  rcases Option.bind_eq_some_iff.mp reads with
    ⟨⟨value, following⟩, readTree, readOthers⟩
  rcases trees value following readTree with ⟨before, tree, valid, rfl, split⟩
  rcases Blanks.exists_skipped following with ⟨after, blank⟩
  dsimp only at readOthers
  unfold readOthers? at readOthers
  split at readOthers
  · rename_i left start
    cases readOthers
    rw [start] at blank
    refine ⟨.last before tree after, valid, rfl, ?_⟩
    rw [split, blank, Items.text_last_append]
  · rename_i afterComma start
    rcases Option.map_eq_some_iff.mp readOthers with
      ⟨⟨others, left⟩, readRest, equal⟩
    cases equal
    rw [start] at blank
    have shorter : afterComma.length < text.length := by
      rw [split, blank]
      simp only [List.length_append, List.length_cons]
      omega
    rcases items afterComma shorter others left readRest with
      ⟨remaining, othersValid, rfl, rfl⟩
    refine ⟨.comma before tree after remaining, ⟨valid, othersValid⟩, rfl, ?_⟩
    rw [split, blank, Items.text_comma_append]
  · cases readOthers

theorem readsArguments (items : ReadsItems origin text) :
    ReadsArguments origin text := by
  intro values rest reads
  by_cases closed : ∃ following, skipBlanks text = ')' :: following
  · rcases closed with ⟨following, start⟩
    rw [read?_arguments_closed origin start] at reads
    cases reads
    rcases Blanks.exists_skipped text with ⟨blanks, split⟩
    rw [start] at split
    exact ⟨.none blanks, trivial, rfl, split⟩
  · rw [read?_arguments_open origin (not_exists.mp closed)] at reads
    rcases items values rest reads with ⟨items, valid, equal, split⟩
    exact ⟨.some items, valid, equal, split⟩

/-- The induction is on the length of the text. -/
theorem reads_derived (origin : Origin) (text : List Char) :
    ReadsTails origin text ∧ ReadsTrees origin text ∧ ReadsItems origin text ∧
      ReadsArguments origin text := by
  induction text using WellFounded.induction (measure List.length).wf with
  | _ text ih =>
      -- Only items and arguments read on from the same text; each waits for the
      -- fact before it.
      have tails : ReadsTails origin text :=
        readsTails (fun shorter bound => (ih shorter bound).2.2.2)
          fun shorter bound => (ih shorter bound).1
      have trees : ReadsTrees origin text := readsTrees fun shorter bound =>
        (ih shorter bound).1
      have items : ReadsItems origin text :=
        readsItems trees fun shorter bound => (ih shorter bound).2.2.1
      exact ⟨tails, trees, items, readsArguments items⟩

end Grammar

end Phrasebook
