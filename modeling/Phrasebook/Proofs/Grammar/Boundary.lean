import Phrasebook.Proofs.Grammar.Tree

/-!
# Where expressions start and end

The first character of an expression tells whether it is quoted, a number or a
name, and no such character is a blank, a comma or a closing parenthesis.  One
of these, or the end of the text, is all that follows an expression, and so each
name and number in a derivation is a longest run.
-/

namespace Phrasebook

namespace Grammar

open Phrasebook.Text (isAsciiBlank)
open Expression.Parser
  (isNameCharacter isNumeralCharacter startsNumeral skipBlanks keywordBefore?
  keyword?)

/-- The characters that end an expression. -/
def isCloser (character : Char) : Bool :=
  isAsciiBlank character || character == ',' || character == ')'

/-- A text that may follow an expression. -/
def Closes (rest : List Char) : Prop :=
  ∀ character, rest.head? = some character → isCloser character = true

/-- All of them, for checking that none is in a class. -/
def closers : List Char :=
  [' ', '\t', '\n', '\x0c', '\r', ',', ')']

/-- The closing characters are all listed. -/
theorem mem_closers {character : Char} (closer : isCloser character = true) :
    character ∈ closers := by
  simp only [isCloser, isAsciiBlank, Bool.or_eq_true, beq_iff_eq] at closer
  simp only [closers, List.mem_cons, List.not_mem_nil, or_false]
  rcases closer with (((((rfl | rfl) | rfl) | rfl) | rfl) | rfl) | rfl <;> simp

/-- A test that no closing character passes tells that a character does not
close. -/
theorem not_closer
    {test : Char → Bool}
    (outside : closers.all (fun closer => !test closer) = true)
    {character : Char} (inside : test character = true) :
    isCloser character = false := by
  by_contra closer
  rw [Bool.not_eq_false] at closer
  have excluded := List.all_eq_true.mp outside character (mem_closers closer)
  rw [inside] at excluded
  cases excluded

theorem not_closer_of_named
    {character : Char} (named : isNameCharacter character = true) :
    isCloser character = false :=
  not_closer rfl named

theorem named_of_startsNumeral
    {character : Char} (starts : startsNumeral character = true) :
    isNameCharacter character = true := by
  rw [startsNumeral, Bool.or_eq_true] at starts
  rw [isNameCharacter, Char.isAlphanum]
  rcases starts with digit | minus
  · simp only [digit, Bool.or_true, Bool.true_or]
  · simp only [minus, Bool.or_true]

namespace Closes

variable {rest : List Char}

/-- What closes stops every run that no closing character continues. -/
theorem stops
    {test : Char → Bool} (closes : Closes rest)
    (outside : closers.all (fun closer => !test closer) = true) :
    Stops test rest := by
  intro character head
  have excluded :=
    List.all_eq_true.mp outside character (mem_closers (closes character head))
  rwa [Bool.not_eq_true'] at excluded

theorem stops_name (closes : Closes rest) : Stops isNameCharacter rest :=
  closes.stops rfl

theorem stops_numeral (closes : Closes rest) : Stops isNumeralCharacter rest :=
  closes.stops rfl

/-- A text that closes does not begin with a character that does not close. -/
theorem ne_cons
    (closes : Closes rest) {character : Char}
    (opens : isCloser character = false) (following : List Char) :
    rest ≠ character :: following := by
  rintro rfl
  have closer := closes character rfl
  rw [opens] at closer
  cases closer

end Closes

theorem closes_cons
    {character : Char} (closer : isCloser character = true) (rest : List Char) :
    Closes (character :: rest) := by
  intro other head
  rcases Option.some.inj head with rfl
  exact closer

namespace Blanks

/-- Blanks before the end or before a closing text close. -/
theorem closes (blanks : Blanks) {rest : List Char} (closes : Closes rest) :
    Closes (blanks.characters ++ rest) := by
  rcases blanks with ⟨_ | ⟨first, others⟩, blank⟩
  · exact closes
  · refine closes_cons ?_ _
    rw [isCloser, blank first List.mem_cons_self]
    rfl

/-- Blanks are skipped up to the first character that is none. -/
theorem skip
    (blanks : Blanks) {rest : List Char} (stops : Stops isAsciiBlank rest) :
    skipBlanks (blanks.characters ++ rest) = rest :=
  dropWhile_run blanks.blank stops

/-- A text begins with blanks in one way only. -/
theorem unique
    {blanks blanks' : Blanks} {rest rest' : List Char}
    (stops : Stops isAsciiBlank rest) (stops' : Stops isAsciiBlank rest')
    (same : blanks.characters ++ rest = blanks'.characters ++ rest') :
    blanks = blanks' ∧ rest = rest' := by
  rcases run_unique blanks.blank stops blanks'.blank stops' same with
    ⟨characters, equal⟩
  exact ⟨Blanks.ext characters, equal⟩

/-- Every text begins with the blanks that are skipped. -/
theorem exists_skipped (text : List Char) :
    ∃ blanks : Blanks, text = blanks.characters ++ skipBlanks text :=
  ⟨⟨text.takeWhile isAsciiBlank, fun _ member => List.mem_takeWhile_imp member⟩,
    List.takeWhile_append_dropWhile.symm⟩

end Blanks

namespace Name

/-- A text begins with a name in one way only. -/
theorem unique
    {name name' : Name} {rest rest' : List Char}
    (stops : Stops isNameCharacter rest) (stops' : Stops isNameCharacter rest')
    (same : name.characters ++ rest = name'.characters ++ rest') :
    name = name' ∧ rest = rest' := by
  rcases run_unique name.named stops name'.named stops' same with
    ⟨characters, equal⟩
  exact ⟨Name.ext characters, equal⟩

theorem exists_cons (name : Name) :
    ∃ first rest, name.characters = first :: rest ∧ isNameCharacter first =
      true := by
  rcases List.exists_cons_of_ne_nil name.nonempty with ⟨first, rest, split⟩
  refine ⟨first, rest, split, name.named first ?_⟩
  rw [split]
  exact List.mem_cons_self

end Name

/-- The kinds of expressions that differ in the first character. -/
inductive Kind where
  | quoted
  | numeral
  | named

/-- What starts with a character. -/
def kindOf (first : Char) : Kind :=
  if first = '\'' ∨ first = '"' then .quoted
    else if startsNumeral first then .numeral else .named

namespace Tree

def kind : Tree → Kind
  | .quoted _ _ => .quoted
  | .numeral _ _ => .numeral
  | .keyword _ => .named
  | .path _ _ _ => .named

end Tree

theorem kindOf_numeral {first : Char} (starts : startsNumeral first = true) :
    kindOf first = .numeral := by
  have noQuote : ¬ (first = '\'' ∨ first = '"') := by
    rintro (rfl | rfl) <;> cases starts
  rw [kindOf, if_neg noQuote, if_pos starts]

theorem kindOf_named
    {first : Char} (named : isNameCharacter first = true)
    (leads : startsNumeral first = false) :
    kindOf first = .named := by
  have noQuote : ¬ (first = '\'' ∨ first = '"') := by
    rintro (rfl | rfl) <;> cases named
  rw [kindOf, if_neg noQuote, leads]
  rfl

/-- A name that does not look like a number is read as a name. -/
theorem Name.exists_leading (name : Name) (leads : name.Leads) :
    ∃ first rest,
      name.characters = first :: rest ∧ kindOf first = .named ∧
        isCloser first = false := by
  rcases name.exists_cons with ⟨first, rest, split, named⟩
  have outside : startsNumeral first = false := by
    apply leads
    rw [split]
    rfl
  exact ⟨first, rest, split, kindOf_named named outside,
    not_closer_of_named named⟩

/-- An expression starts with a character of its kind that closes no other. -/
theorem Tree.exists_cons {tree : Tree} (valid : tree.Valid) :
    ∃ first rest,
      tree.text = first :: rest ∧ kindOf first = tree.kind ∧
        isCloser first = false := by
  cases tree with
  | quoted quote items =>
      refine ⟨quote.character, _, rfl, ?_, ?_⟩
      · cases quote <;> rfl
      · cases quote <;> rfl
  | numeral form number =>
      rcases form.exists_cons with ⟨first, rest, split, starts⟩
      exact ⟨first, rest, split, kindOf_numeral starts,
        not_closer_of_named (named_of_startsNumeral starts)⟩
  | keyword word => exact word.name.exists_leading word.leads
  | path qualifier first tail =>
      rcases valid with ⟨leads, -, -⟩
      cases qualifier with
      | none =>
          rcases first.exists_leading leads with
            ⟨character, rest, split, kind, opens⟩
          refine ⟨character, rest ++ tail.text, ?_, kind, opens⟩
          rw [Tree.text, split]
          rfl
      | some qualifier =>
          rcases qualifier.exists_leading leads with
            ⟨character, rest, split, kind, opens⟩
          refine ⟨character, rest ++ ':' :: (first.characters ++ tail.text), ?_,
            kind, opens⟩
          rw [Tree.text, split]
          rfl

/-- A text that does not go on with a path: neither an argument list nor a point
starts it. -/
structure EndsPath (text : List Char) : Prop where
  noCall : ∀ rest, text ≠ '(' :: rest
  noDot : ∀ rest, text ≠ '.' :: rest

theorem Closes.endsPath {rest : List Char} (closes : Closes rest) :
    EndsPath rest :=
  ⟨closes.ne_cons rfl, closes.ne_cons rfl⟩

/-- In front of the end of a path a keyword is read as it stands. -/
theorem keywordBefore?_eq
    {name : String} {text : List Char} (ends : EndsPath text) :
    keywordBefore? name text = keyword? name := by
  unfold keywordBefore?
  split
  · exact (ends.noDot _ rfl).elim
  · exact (ends.noCall _ rfl).elim
  · rfl

namespace Tail

variable {rest : List Char}

/-- A name is read to its end before what may follow it. -/
theorem stops_name (tail : Tail) (closes : Closes rest) :
    Stops isNameCharacter (tail.text ++ rest) := by
  cases tail with
  | done => exact closes.stops_name
  | dot name tail => exact stops_cons rfl
  | call between => exact stops_cons rfl
  | callDot between name tail => exact stops_cons rfl

/-- In front of what closes, a tail does not begin with a colon. -/
theorem no_colon (tail : Tail) (closes : Closes rest) (following : List Char) :
    tail.text ++ rest ≠ ':' :: following := by
  cases tail with
  | done => exact closes.ne_cons rfl following
  | dot name tail => exact fun same => by cases same
  | call between => exact fun same => by cases same
  | callDot between name tail => exact fun same => by cases same

end Tail

end Grammar

end Phrasebook
