import Phrasebook.Template.Parser
import Phrasebook.Proofs.Grammar.Token

/-!
# The content of a placeholder

The content of a placeholder is a sequence of quoted texts and of characters
that are neither quotes nor closing braces.  A closing brace ends it, and no
text starts with two such sequences before a closing brace; the scanner for
closing braces finds the sequence when there is one.
-/

namespace Phrasebook

namespace Segmentation

open Grammar (Quote QuotedItem taken? taken?_map item_unique items_unique)
open TemplateNode (content?)

/-- A quoted text, or a character outside quotes. -/
inductive Stretch where
  | bare (character : Char)
  | quoted (quote : Quote) (items : List QuotedItem)

namespace Stretch

def text : Stretch → List Char
  | .bare character => [character]
  | .quoted quote items =>
    quote.character :: (items.flatMap QuotedItem.text ++ [quote.character])

/-- Outside quotes stands neither a quote nor a closing brace. -/
def Fits : Stretch → Prop
  | .bare character => character ≠ '\x7d' ∧ ∀ quote :
      Quote, character ≠ quote.character
  | .quoted quote items => ∀ item ∈ items, item.Fits quote.character

theorem text_quoted_append
    (quote : Quote) (items : List QuotedItem) (rest : List Char) :
    (Stretch.quoted quote items).text ++ rest =
      quote.character ::
        (items.flatMap QuotedItem.text ++ quote.character :: rest) := by
  rw [text, List.cons_append, List.append_assoc, List.singleton_append]

/-- A stretch does not begin with the closing brace. -/
theorem ne_closing
    {stretch : Stretch} (fits : stretch.Fits) (rest rest' : List Char) :
    stretch.text ++ rest ≠ '\x7d' :: rest' := by
  intro same
  cases stretch with
  | bare character => exact fits.1 (List.cons.inj same).1
  | quoted quote items =>
      rw [text_quoted_append] at same
      cases quote <;> cases (List.cons.inj same).1

/-- A content is divided into stretches in only one way. -/
theorem unique
    {stretch stretch' : Stretch} {rest rest' : List Char} (fits : stretch.Fits)
    (fits' : stretch'.Fits)
    (same : stretch.text ++ rest = stretch'.text ++ rest') :
    stretch = stretch' ∧ rest = rest' := by
  cases stretch with
  | bare character =>
      cases stretch' with
      | bare character' =>
          rcases List.cons.inj same with ⟨rfl, rfl⟩
          exact ⟨rfl, rfl⟩
      | quoted quote' items' =>
          exact (fits.2 quote' (List.cons.inj same).1).elim
  | quoted quote items =>
      cases stretch' with
      | bare character' =>
          exact (fits'.2 quote (List.cons.inj same).1.symm).elim
      | quoted quote' items' =>
          rw [text_quoted_append, text_quoted_append] at same
          rcases List.cons.inj same with ⟨quotes, body⟩
          rcases Grammar.Quote.character_injective quotes with rfl
          rcases items_unique quote.character_ne_backslash fits fits' body with
            ⟨rfl, rfl⟩
          exact ⟨rfl, rfl⟩

end Stretch

/-- The text of a placeholder's content. -/
def contentText (content : List Stretch) : List Char :=
  content.flatMap Stretch.text

theorem contentText_cons_append
    (stretch : Stretch) (content : List Stretch) (rest : List Char) :
    contentText (stretch :: content) ++ rest =
      stretch.text ++ (contentText content ++ rest) := by
  rw [contentText, List.flatMap_cons, List.append_assoc]
  rfl

/-- What a closing brace ends is the content of one placeholder only. -/
theorem content_unique
    {content content' : List Stretch} {rest rest' : List Char}
    (fits : ∀ stretch ∈ content, stretch.Fits)
    (fits' : ∀ stretch ∈ content', stretch.Fits)
    (same : contentText content ++ '\x7d' :: rest =
      contentText content' ++ '\x7d' :: rest') :
    content = content' ∧ rest = rest' := by
  induction content generalizing content' with
  | nil =>
      cases content' with
      | nil => exact ⟨rfl, (List.cons.inj same).2⟩
      | cons stretch' content' =>
          rw [contentText_cons_append] at same
          exact
            (Stretch.ne_closing (fits' stretch' List.mem_cons_self) _ _
              same.symm).elim
  | cons stretch content ih =>
      rcases List.forall_mem_cons.mp fits with ⟨first, others⟩
      rw [contentText_cons_append] at same
      cases content' with
      | nil => exact (Stretch.ne_closing first _ _ same).elim
      | cons stretch' content' =>
          rcases List.forall_mem_cons.mp fits' with ⟨first', others'⟩
          rw [contentText_cons_append] at same
          rcases Stretch.unique first first' same with ⟨rfl, following⟩
          rcases ih others others' following with ⟨rfl, rfl⟩
          exact ⟨rfl, rfl⟩

/-- What was scanned, with a text before it. -/
def prefixed (characters : List Char) (taken : List Char × List Char) :
    List Char × List Char :=
  (characters ++ taken.1, taken.2)

theorem prefixed_append
    (characters more : List Char) (taken : Option (List Char × List Char)) :
    (taken.map (prefixed more)).map (prefixed characters) =
      taken.map (prefixed (characters ++ more)) := by
  rw [Option.map_map]
  congr 1
  funext one
  exact Prod.ext (List.append_assoc _ _ _).symm rfl

/-- Outside quotes the scanner stops at a closing brace and goes on behind every
other character. -/
theorem content?_outside (character : Char) (rest : List Char) :
    taken? (content? none (character :: rest)) =
      if character = '\x7d' then some ([], rest)
      else
        (taken?
          (content? (if character = '\'' ∨
            character = '"' then some character else none) rest)).map
          (prefixed [character]) := by
  show taken? (if character = '\x7d' then _ else _) = _
  by_cases closing : character = '\x7d'
  · rw [if_pos closing, if_pos closing]
    rfl
  · rw [if_neg closing, if_neg closing]
    exact taken?_map _ _ _

theorem content?_closing (rest : List Char) :
    taken? (content? none ('\x7d' :: rest)) = some ([], rest) := by
  rw [content?_outside, if_pos rfl]

/-- A bare character is taken into the content. -/
theorem content?_bare
    {character : Char} (fits : (Stretch.bare character).Fits)
    (rest : List Char) :
    taken? (content? none (character :: rest)) =
      (taken? (content? none rest)).map (prefixed [character]) := by
  have noQuote : ¬ (character = '\'' ∨ character = '"') := by
    rintro (rfl | rfl)
    · exact fits.2 .single rfl
    · exact fits.2 .double rfl
  rw [content?_outside, if_neg fits.1, if_neg noQuote]

/-- A quote is taken into the content and opens a quoted stretch. -/
theorem content?_opening (quote : Quote) (rest : List Char) :
    taken? (content? none (quote.character :: rest)) =
      (taken? (content? (some quote.character) rest)).map
        (prefixed [quote.character]) := by
  have noClosing : quote.character ≠ '\x7d' := by
    cases quote <;> decide
  have isQuote : quote.character = '\'' ∨ quote.character = '"' := by
    cases quote <;> decide
  rw [content?_outside, if_neg noClosing, if_pos isQuote]

/-- Inside quotes every character but the backslash is passed over by itself. -/
theorem content?_inside {character : Char} (ordinary : character ≠ '\\')
    (quote : Char) (rest : List Char) :
    taken? (content? (some quote) (character :: rest)) =
      (taken?
        (content? (if character = quote then none else some quote) rest)).map
        (prefixed [character]) := by
  -- The scanner tells a lone last character from two, so it computes only when
  -- the rest is split.
  cases rest <;>
    (show taken? (if character = '\\' then _ else _) = _
     rw [if_neg ordinary]
     exact taken?_map _ _ _)

/-- Inside quotes a backslash passes over the next character. -/
theorem content?_escaped (quote character : Char) (rest : List Char) :
    taken? (content? (some quote) ('\\' :: character :: rest)) =
      (taken? (content? (some quote) rest)).map
        (prefixed ['\\', character]) := by
  show taken? (if '\\' = '\\' then _ else _) = _
  rw [if_pos rfl]
  exact taken?_map _ _ _

/-- An item inside quotes is taken into the content. -/
theorem content?_item
    {quote : Quote} {item : QuotedItem} (fits : item.Fits quote.character)
    (rest : List Char) :
    taken? (content? (some quote.character) (item.text ++ rest)) =
      (taken? (content? (some quote.character) rest)).map
        (prefixed item.text) := by
  cases item with
  | plain character =>
      change taken? (content? (some quote.character) (character :: rest)) = _
      rw [content?_inside fits.1, if_neg fits.2]
      rfl
  | escaped character =>
      exact content?_escaped quote.character character rest

theorem content?_endQuote (quote : Quote) (rest : List Char) :
    taken? (content? (some quote.character) (quote.character :: rest)) =
      (taken? (content? none rest)).map (prefixed [quote.character]) := by
  rw [content?_inside quote.character_ne_backslash, if_pos rfl]

theorem content?_items
    {quote : Quote} {items : List QuotedItem}
    (fits : ∀ item ∈ items, item.Fits quote.character) (rest : List Char) :
    taken?
      (content? (some quote.character)
        (items.flatMap QuotedItem.text ++ rest)) =
      (taken? (content? (some quote.character) rest)).map
        (prefixed (items.flatMap QuotedItem.text)) := by
  induction items with
  | nil => exact Option.map_id'.symm
  | cons item items ih =>
      rcases List.forall_mem_cons.mp fits with ⟨first, others⟩
      rw [List.flatMap_cons, List.append_assoc, content?_item first, ih others,
        prefixed_append]

/-- A stretch is taken into the content as a whole. -/
theorem content?_stretch
    {stretch : Stretch} (fits : stretch.Fits) (rest : List Char) :
    taken? (content? none (stretch.text ++ rest)) =
      (taken? (content? none rest)).map (prefixed stretch.text) := by
  cases stretch with
  | bare character => exact content?_bare fits rest
  | quoted quote items =>
      rw [Stretch.text_quoted_append, content?_opening, content?_items fits,
        content?_endQuote, prefixed_append, prefixed_append]
      rfl

/-- The scanner finds the closing brace behind a content. -/
theorem content?_complete
    {content : List Stretch} (fits : ∀ stretch ∈ content, stretch.Fits)
    (rest : List Char) :
    taken? (content? none (contentText content ++ '\x7d' :: rest)) =
      some (contentText content, rest) := by
  induction content with
  | nil => exact content?_closing rest
  | cons stretch content ih =>
      rcases List.forall_mem_cons.mp fits with ⟨first, others⟩
      rw [contentText_cons_append, content?_stretch first, ih others]
      rfl

/-- A text up to the closing brace that was found, from outside quotes or from
inside a quoted text. -/
def Scanned (text value rest : List Char) : Option Quote → Prop
  | none =>
    ∃ content : List Stretch,
      (∀ stretch ∈ content, stretch.Fits) ∧ value = contentText content ∧
        text = contentText content ++ '\x7d' :: rest
  | some quote =>
    ∃ (items : List QuotedItem) (content : List Stretch),
      (∀ item ∈ items, item.Fits quote.character) ∧
        (∀ stretch ∈ content, stretch.Fits) ∧
        value = items.flatMap QuotedItem.text ++ quote.character ::
          contentText content ∧
        text =
          items.flatMap QuotedItem.text ++
            quote.character :: (contentText content ++ '\x7d' :: rest)

namespace Scanned

variable {text value rest : List Char}

theorem bare {character : Char} (fits : (Stretch.bare character).Fits)
    (scanned : Scanned text value rest none) :
    Scanned (character :: text) (character :: value) rest none := by
  rcases scanned with ⟨content, fitting, rfl, rfl⟩
  exact ⟨.bare character :: content, List.forall_mem_cons.mpr ⟨fits, fitting⟩,
    rfl, rfl⟩

theorem opening
    {quote : Quote} (scanned : Scanned text value rest (some quote)) :
    Scanned (quote.character :: text) (quote.character :: value) rest none := by
  rcases scanned with ⟨items, content, fits, fitting, rfl, rfl⟩
  refine ⟨.quoted quote items :: content,
    List.forall_mem_cons.mpr ⟨fits, fitting⟩, ?_, ?_⟩
  · have layout := Stretch.text_quoted_append quote items (contentText content)
    exact layout.symm
  · rw [contentText_cons_append, Stretch.text_quoted_append]

theorem item
    {quote : Quote} {item : QuotedItem} (fits : item.Fits quote.character)
    (scanned : Scanned text value rest (some quote)) :
    Scanned (item.text ++ text) (item.text ++ value) rest (some quote) := by
  rcases scanned with ⟨items, content, others, fitting, rfl, rfl⟩
  refine ⟨item :: items, content, List.forall_mem_cons.mpr ⟨fits, others⟩,
    fitting, ?_, ?_⟩
  · rw [List.flatMap_cons, List.append_assoc]
  · rw [List.flatMap_cons, List.append_assoc]

theorem endQuote {quote : Quote} (scanned : Scanned text value rest none) :
    Scanned (quote.character :: text) (quote.character :: value) rest
      (some quote) := by
  rcases scanned with ⟨content, fitting, rfl, rfl⟩
  exact ⟨[], content, List.forall_mem_nil _, fitting, rfl, rfl⟩

end Scanned

/-- A character other than the closing brace is a quote or a bare one. -/
theorem exists_quote_or_bare {character : Char} (open_ : character ≠ '\x7d') :
    (∃ quote : Quote, quote.character = character) ∨
      (Stretch.bare character).Fits := by
  by_cases single : character = '\''
  · exact .inl ⟨.single, single.symm⟩
  · by_cases double : character = '"'
    · exact .inl ⟨.double, double.symm⟩
    · refine .inr ⟨open_, ?_⟩
      intro quote
      cases quote with
      | single => exact single
      | double => exact double

/-- What the scanner finds is the end of a content. -/
theorem content?_sound
    {quote : Option Quote} {text value rest : List Char}
    (found : taken? (content? (quote.map Quote.character) text) =
      some (value, rest)) :
    Scanned text value rest quote := by
  generalize inside : quote.map Quote.character = character at found
  induction character, text using TemplateNode.content?.induct
      generalizing value quote with
  | case1 => cases found
  | case2 following =>
      rcases Option.map_eq_none_iff.mp inside with rfl
      rw [content?_closing] at found
      cases found
      exact ⟨[], List.forall_mem_nil _, rfl, rfl⟩
  | case3 character following open_ opened =>
      rename_i ih
      rcases Option.map_eq_none_iff.mp inside with rfl
      rw [content?_outside, if_neg open_] at found
      rcases Option.map_eq_some_iff.mp found with ⟨⟨read, _⟩, inner, equal⟩
      cases equal
      rcases exists_quote_or_bare open_ with ⟨quote, rfl⟩ | fits
      · have isQuote : quote.character = '\'' ∨ quote.character = '"' := by
          cases quote <;> decide
        have scanned : Scanned following read _ (some quote) :=
          ih (if_pos isQuote).symm inner
        exact scanned.opening
      · have noQuote : ¬ (character = '\'' ∨ character = '"') := by
          rintro (rfl | rfl)
          · exact fits.2 .single rfl
          · exact fits.2 .double rfl
        have scanned : Scanned following read _ none :=
          ih (if_neg noQuote).symm inner
        exact scanned.bare fits
  | case4 => cases found
  | case5 open_ escaped following ih =>
      rcases Option.map_eq_some_iff.mp inside with ⟨quote, rfl, -⟩
      rw [content?_escaped] at found
      rcases Option.map_eq_some_iff.mp found with ⟨⟨read, _⟩, inner, equal⟩
      cases equal
      have fits : (QuotedItem.escaped escaped).Fits quote.character := trivial
      exact (ih inside inner).item fits
  | case6 character following open_ ordinary still =>
      rename_i ih
      rcases Option.map_eq_some_iff.mp inside with ⟨quote, rfl, rfl⟩
      rw [content?_inside ordinary] at found
      rcases Option.map_eq_some_iff.mp found with ⟨⟨read, _⟩, inner, equal⟩
      cases equal
      by_cases ends : character = quote.character
      · rcases ends with rfl
        have scanned : Scanned following read _ none :=
          ih (if_pos rfl).symm inner
        exact scanned.endQuote
      · have fits : (QuotedItem.plain character).Fits quote.character :=
          ⟨ordinary, ends⟩
        have scanned : Scanned following read _ (some quote) :=
          ih (if_neg ends).symm inner
        exact scanned.item fits

/-- The scanner finds a closing brace exactly behind a content. -/
theorem content?_iff {text value rest : List Char} :
    taken? (content? none text) = some (value, rest) ↔
      ∃ content : List Stretch,
        (∀ stretch ∈ content, stretch.Fits) ∧ value = contentText content ∧
          text = contentText content ++ '\x7d' :: rest := by
  constructor
  · exact @content?_sound none _ _ _
  · rintro ⟨content, fits, rfl, rfl⟩
    exact content?_complete fits rest

end Segmentation

end Phrasebook
