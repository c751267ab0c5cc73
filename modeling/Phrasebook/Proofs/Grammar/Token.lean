import Mathlib.Data.List.TakeWhile
import Phrasebook.Expression.Parser

/-!
# Tokens of expressions

The tokens of the grammar of expressions, and what the parser's readers make of
them.  A run of characters of one class is read to its end exactly when what
follows does not go on with the class; names, digits and blanks are such runs.
A quoted text is a sequence of plain and escaped characters before the closing
quote, and no text is two such sequences.
-/

namespace Phrasebook

namespace Grammar

open Phrasebook.Text (Remainder isAsciiBlank)
open Expression.Parser (isNameCharacter name? quotedBody? skipBlanks)

section Runs

variable {test : Char → Bool} {run run' rest rest' : List Char}

/-- A text does not go on with a class of characters. -/
def Stops (test : Char → Bool) (rest : List Char) : Prop :=
  ∀ character, rest.head? = some character → test character = false

theorem stops_nil (test : Char → Bool) : Stops test [] :=
  fun _ head => nomatch head

theorem stops_cons {character : Char} (outside : test character = false) :
    Stops test (character :: rest) := by
  intro other head
  rcases Option.some.inj head with rfl
  exact outside

/-- A run is taken up to where it stops. -/
theorem takeWhile_run (inside : ∀ character ∈ run, test character = true)
    (stops : Stops test rest) :
    (run ++ rest).takeWhile test = run := by
  rw [List.takeWhile_append_of_pos inside]
  cases rest with
  | nil => simp
  | cons first rest =>
      have outside := stops first rfl
      simp [outside]

theorem dropWhile_run (inside : ∀ character ∈ run, test character = true)
    (stops : Stops test rest) :
    (run ++ rest).dropWhile test = rest := by
  rw [List.dropWhile_append_of_pos inside]
  cases rest with
  | nil => rfl
  | cons first rest =>
      have outside := stops first rfl
      simp [outside]

/-- A text starts with one run of a class only. -/
theorem run_unique
    (inside : ∀ character ∈ run, test character = true)
    (stops : Stops test rest)
    (inside' : ∀ character ∈ run', test character = true)
    (stops' : Stops test rest') (same : run ++ rest = run' ++ rest') :
    run = run' ∧ rest = rest' := by
  constructor
  · rw [← takeWhile_run inside stops, same, takeWhile_run inside' stops']
  · rw [← dropWhile_run inside stops, same, dropWhile_run inside' stops']

theorem stops_dropWhile (test : Char → Bool) (text : List Char) :
    Stops test (text.dropWhile test) := by
  intro character head
  have outside := List.head?_dropWhile_not test text
  rw [head] at outside
  simpa using outside

end Runs

/-- What was read from the start of a text, and the rest. -/
def taken? {α : Type} {bound : Nat} (read : Option (Remainder α bound)) :
    Option (α × List Char) :=
  read.map fun one => (one.value, one.rest)

/-- Mapping what has been read does not change what is left. -/
theorem taken?_map
    {α β : Type} {bound larger : Nat} (read : Option (Remainder α bound))
    (f : α → β) (bounded : bound ≤ larger) :
    taken? (read.map fun one => one.map f bounded) =
      (taken? read).map fun taken => (f taken.1, taken.2) := by
  cases read <;> rfl

/-- Blanks between tokens. -/
@[ext]
structure Blanks where
  characters : List Char
  blank : ∀ character ∈ characters, isAsciiBlank character = true

/-- A name: a nonempty text of name characters. -/
@[ext]
structure Name where
  characters : List Char
  nonempty : characters ≠ []
  named : ∀ character ∈ characters, isNameCharacter character = true

namespace Name

def text (name : Name) : String :=
  String.ofList name.characters

theorem text_injective {name name' : Name} (same : name.text = name'.text) :
    name = name' :=
  Name.ext (String.ofList_injective same)

end Name

/-- Reading a name takes a longest run of name characters. -/
theorem name?_iff {text rest : List Char} {value : String} :
    taken? (name? text) = some (value, rest) ↔
      ∃ name : Name,
        value = name.text ∧ text = name.characters ++ rest ∧
          Stops isNameCharacter rest := by
  constructor
  · intro taken
    cases text with
    | nil => cases taken
    | cons first following =>
        rw [name?] at taken
        split_ifs at taken with starts
        · cases taken
          refine ⟨⟨first :: following.takeWhile isNameCharacter,
            List.cons_ne_nil _ _, ?_⟩, rfl, ?_,
            stops_dropWhile _ _⟩
          · intro character member
            rcases List.mem_cons.mp member with rfl | later
            · exact starts
            · exact List.mem_takeWhile_imp later
          · exact congrArg (first :: ·) (List.takeWhile_append_dropWhile).symm
        · cases taken
  · rintro ⟨⟨characters, nonempty, named⟩, rfl, rfl, stops⟩
    cases characters with
    | nil => exact (nonempty rfl).elim
    | cons first following =>
        have starts := named first List.mem_cons_self
        have inside : ∀ character ∈ following,
            isNameCharacter character = true :=
          fun character member =>
            named character (List.mem_cons_of_mem _ member)
        rw [List.cons_append, name?, if_pos starts]
        simp [taken?, Name.text, takeWhile_run inside stops,
          dropWhile_run inside stops]

/-- A character of a quoted text, by itself or after a backslash. -/
inductive QuotedItem where
  | plain (character : Char)
  | escaped (character : Char)

namespace QuotedItem

def character : QuotedItem → Char
  | .plain character => character
  | .escaped character => character

/-- How an item is written. -/
def text : QuotedItem → List Char
  | .plain character => [character]
  | .escaped character => ['\\', character]

/-- An item inside quotes: by itself stands any character but the backslash and
the closing quote. -/
def Fits (quote : Char) : QuotedItem → Prop
  | .plain character => character ≠ '\\' ∧ character ≠ quote
  | .escaped _ => True

end QuotedItem

theorem taken?_quotedBody?_quote
    {quote : Char} (isQuote : quote ≠ '\\') (rest : List Char) :
    taken? (quotedBody? quote (quote :: rest)) = some ([], rest) := by
  rw [quotedBody?]
  · rw [if_pos rfl]
    rfl
  · exact fun equal => (isQuote equal).elim
  · exact fun _ _ equal => (isQuote equal).elim

/-- An item of a quoted text is read as it is written. -/
theorem taken?_quotedBody?_item
    {quote : Char} {item : QuotedItem} (fits : item.Fits quote)
    (rest : List Char) :
    taken? (quotedBody? quote (item.text ++ rest)) =
      (taken? (quotedBody? quote rest)).map fun taken =>
        (item.character :: taken.1, taken.2) := by
  cases item with
  | plain character =>
      rcases fits with ⟨ordinary, different⟩
      change taken? (quotedBody? quote (character :: rest)) = _
      rw [quotedBody?]
      · rw [if_neg different, taken?_map]
        rfl
      · exact fun equal => (ordinary equal).elim
      · exact fun _ _ equal => (ordinary equal).elim
  | escaped character =>
      change taken? (quotedBody? quote ('\\' :: character :: rest)) = _
      rw [quotedBody?, taken?_map]
      rfl

/-- Reading a quoted text takes its items up to the first quote that is not
escaped. -/
theorem quotedBody?_iff
    {quote : Char} (isQuote : quote ≠ '\\') {text rest value : List Char} :
    taken? (quotedBody? quote text) = some (value, rest) ↔
      ∃ items : List QuotedItem,
        (∀ item ∈ items, item.Fits quote) ∧
          value = items.map QuotedItem.character ∧
          text = items.flatMap QuotedItem.text ++ quote :: rest := by
  constructor
  · intro taken
    fun_induction quotedBody? quote text generalizing value with
    | case1 => cases taken
    | case2 => cases taken
    | case3 escaped following ih =>
        rw [taken?_map] at taken
        rcases Option.map_eq_some_iff.mp taken with ⟨⟨read, _⟩, inner, equal⟩
        cases equal
        rcases ih inner with ⟨items, fits, rfl, rfl⟩
        exact ⟨.escaped escaped :: items,
          List.forall_mem_cons.mpr ⟨trivial, fits⟩, rfl, rfl⟩
    | case4 following ordinary =>
        cases taken
        exact ⟨[], List.forall_mem_nil _, rfl, rfl⟩
    | case5 character following noEnd noEscape different ih =>
        have ordinary : character ≠ '\\' := by
          intro equal
          cases following with
          | nil => exact noEnd equal rfl
          | cons escaped following => exact noEscape escaped following equal rfl
        rw [taken?_map] at taken
        rcases Option.map_eq_some_iff.mp taken with ⟨⟨read, _⟩, inner, equal⟩
        cases equal
        rcases ih inner with ⟨items, fits, rfl, rfl⟩
        exact ⟨.plain character :: items,
          List.forall_mem_cons.mpr ⟨⟨ordinary, different⟩, fits⟩, rfl, rfl⟩
  · rintro ⟨items, fits, rfl, rfl⟩
    induction items with
    | nil => exact taken?_quotedBody?_quote isQuote rest
    | cons item items ih =>
        rcases List.forall_mem_cons.mp fits with ⟨first, others⟩
        rw [List.flatMap_cons, List.append_assoc, taken?_quotedBody?_item first,
          ih others]
        rfl

/-- The items of a quoted text can be told apart by their texts. -/
theorem item_unique
    {quote : Char} {item item' : QuotedItem} {rest rest' : List Char}
    (fits : item.Fits quote) (fits' : item'.Fits quote)
    (same : item.text ++ rest = item'.text ++ rest') :
    item = item' ∧ rest = rest' := by
  cases item with
  | plain character =>
      cases item' with
      | plain character' =>
          rcases List.cons.inj same with ⟨rfl, rfl⟩
          exact ⟨rfl, rfl⟩
      | escaped character' =>
          rcases List.cons.inj same with ⟨equal, -⟩
          exact (fits.1 equal).elim
  | escaped character =>
      cases item' with
      | plain character' =>
          rcases List.cons.inj same with ⟨equal, -⟩
          exact (fits'.1 equal.symm).elim
      | escaped character' =>
          rcases List.cons.inj (List.cons.inj same).2 with ⟨rfl, rfl⟩
          exact ⟨rfl, rfl⟩

/-- An item is not taken for the closing quote. -/
theorem item_ne_quote
    {quote : Char} (isQuote : quote ≠ '\\') {item : QuotedItem}
    (fits : item.Fits quote) (rest rest' : List Char) :
    item.text ++ rest ≠ quote :: rest' := by
  intro same
  cases item with
  | plain character => exact fits.2 (List.cons.inj same).1
  | escaped character => exact isQuote (List.cons.inj same).1.symm

/-- No text is the rest of two different quoted texts. -/
theorem items_unique
    {quote : Char} (isQuote : quote ≠ '\\') {items items' : List QuotedItem}
    {rest rest' : List Char} (fits : ∀ item ∈ items, item.Fits quote)
    (fits' : ∀ item ∈ items', item.Fits quote)
    (same :
      items.flatMap QuotedItem.text ++ quote :: rest =
        items'.flatMap QuotedItem.text ++ quote :: rest') :
    items = items' ∧ rest = rest' := by
  induction items generalizing items' with
  | nil =>
      cases items' with
      | nil => exact ⟨rfl, (List.cons.inj same).2⟩
      | cons item' items' =>
          rw [List.flatMap_cons, List.append_assoc] at same
          exact
            (item_ne_quote isQuote (fits' item' List.mem_cons_self) _ _
              same.symm).elim
  | cons item items ih =>
      rcases List.forall_mem_cons.mp fits with ⟨first, others⟩
      rw [List.flatMap_cons, List.append_assoc] at same
      cases items' with
      | nil => exact (item_ne_quote isQuote first _ _ same).elim
      | cons item' items' =>
          rcases List.forall_mem_cons.mp fits' with ⟨first', others'⟩
          rw [List.flatMap_cons, List.append_assoc] at same
          rcases item_unique first first' same with ⟨rfl, same'⟩
          rcases ih others others' same' with ⟨rfl, rfl⟩
          exact ⟨rfl, rfl⟩

/-- One of the two quotes. -/
inductive Quote where
  | single
  | double

namespace Quote

def character : Quote → Char
  | .single => '\''
  | .double => '"'

theorem character_ne_backslash (quote : Quote) : quote.character ≠ '\\' := by
  cases quote <;> decide

theorem character_injective
    {quote quote' : Quote} (same : quote.character = quote'.character) :
    quote = quote' := by
  cases quote <;> cases quote' <;> first | rfl | cases same

end Quote

end Grammar

end Phrasebook
