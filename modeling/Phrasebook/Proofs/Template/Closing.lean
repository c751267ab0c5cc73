import Phrasebook.Proofs.Template.Embedding
import Phrasebook.Proofs.Text.Cutting

/-!
# The brace behind an accepted expression

The closing brace of a placeholder can be searched for byte by byte: no byte of
a character beyond ASCII is a quote, a backslash or a brace, so the search over
the bytes and the scanner of characters stop at the same brace.  A text that is
accepted as an expression, with blanks behind it, is the content of a
placeholder as it stands.  So both find the brace behind it and none before, and
of the texts that end at a closing brace of one placeholder at most one is
accepted.
-/

namespace Phrasebook

namespace Segmentation

open Grammar (Quote Embeds Derivation taken? bare_fits_of stops_cons)
open TemplateNode (content? ofSource ofPending)

section Bytes

/-- The bytes of a text. -/
def bytes (text : List Char) : List UInt8 :=
  text.flatMap String.utf8EncodeChar

theorem bytes_append (text text' : List Char) :
    bytes (text ++ text') = bytes text ++ bytes text' :=
  List.flatMap_append

theorem bytes_singleton
    (character : Char) : bytes [character] = String.utf8EncodeChar character :=
  List.flatMap_singleton _ _

theorem toByteArray_eq_bytes (source : String) :
    source.toByteArray.data.toList = bytes source.toList := by
  rw [← String.utf8Encode_toList, List.utf8Encode, List.toList_data_toByteArray]
  rfl

theorem length_bytes
    (source : String) : (bytes source.toList).length = source.utf8ByteSize := by
  rw [← toByteArray_eq_bytes]
  rfl

variable {character character' : Char}

/-- A character of ASCII is one byte. -/
theorem bytes_narrow (narrow : character.toNat ≤ 0x7f) :
    bytes [character] = [UInt8.ofNat character.toNat] :=
  (bytes_singleton character).trans (if_pos narrow)

/-- Different characters of ASCII are different bytes. -/
theorem byte_ne
    (narrow : character.toNat ≤ 0x7f) (narrow' : character'.toNat ≤ 0x7f)
    (different : character ≠ character') :
    UInt8.ofNat character.toNat ≠ UInt8.ofNat character'.toNat := by
  intro same
  have codes := congrArg UInt8.toNat same
  rw [UInt8.toNat_ofNat', UInt8.toNat_ofNat', Nat.mod_eq_of_lt (by omega),
    Nat.mod_eq_of_lt (by omega)]
    at codes
  exact different (Char.toNat_inj.mp codes)

/-- A character beyond ASCII has bytes beyond ASCII only. -/
theorem bytes_wide (wide : ¬ character.toNat ≤ 0x7f) :
    ∀ byte ∈ bytes [character], 0x7f < byte.toNat := by
  have code : character.val.toNat = character.toNat := rfl
  rw [bytes_singleton, String.utf8EncodeChar, code, if_neg wide]
  split_ifs <;>
    simp only [List.mem_cons, List.not_mem_nil, or_false, forall_eq_or_imp,
      forall_eq, UInt8.toNat_ofNat'] <;>
    omega

/-- Behind the first byte of a character are bytes beyond ASCII only. -/
theorem exists_bytes (character : Char) :
    ∃ byte others, bytes [character] = byte :: others ∧ ∀ byte ∈ others,
      0x7f < byte.toNat := by
  by_cases narrow : character.toNat ≤ 0x7f
  · exact ⟨_, [], bytes_narrow narrow, List.forall_mem_nil _⟩
  · have nonempty : bytes [character] ≠ [] := by
      rw [bytes_singleton]
      exact String.utf8EncodeChar_ne_nil
    rcases List.exists_cons_of_ne_nil nonempty with ⟨byte, others, split⟩
    refine ⟨byte, others, split, fun other member => bytes_wide narrow other ?_⟩
    rw [split]
    exact List.mem_cons_of_mem _ member

end Bytes

/-- Where a search for a closing brace stands between two bytes: outside quotes,
behind a quote, or there behind a backslash. -/
inductive Search where
  | outside
  | inside (quote : UInt8)
  | escaped (quote : UInt8)

namespace Search

/-- One byte further, unless that byte is the closing brace. -/
def pass? (byte : UInt8) : Search → Option Search
  | outside =>
    if byte = 0x27 ∨ byte = 0x22 then some (inside byte)
    else if byte = 0x7d then none
    else some outside
  | inside quote =>
    if byte = 0x5c then some (escaped quote)
    else if byte = quote then some outside
    else some (inside quote)
  | escaped quote => some (inside quote)

/-- The number of bytes before the closing brace. -/
def offset? (search : Search) : List UInt8 → Option Nat
  | [] => none
  | byte :: rest =>
    match search.pass? byte with
    | none => some 0
    | some next => (next.offset? rest).map (1 + ·)

/-- A search goes on from one place to another over some bytes, whatever follows
them. -/
def Passes (search : Search) (passed : List UInt8) (next : Search) : Prop :=
  ∀ rest, search.offset? (passed ++ rest) =
    (next.offset? rest).map (passed.length + ·)

namespace Passes

variable {search next last : Search} {byte : UInt8}
  {passed passed' : List UInt8}

theorem none (search : Search) : Passes search [] search := by
  intro rest
  simp

theorem one (pass : search.pass? byte = some next) :
    Passes search [byte] next := by
  intro rest
  rw [List.singleton_append, offset?, pass]
  rfl

theorem trans
    (first : Passes search passed next) (second : Passes next passed' last) :
    Passes search (passed ++ passed') last := by
  intro rest
  rw [List.append_assoc, first, second, Option.map_map, List.length_append]
  congr 1
  funext count
  exact (Nat.add_assoc _ _ _).symm

/-- Bytes at which the search stays where it is. -/
theorem stay (stays : ∀ byte ∈ passed, search.pass? byte = some search) :
    Passes search passed search := by
  induction passed with
  | nil => exact none search
  | cons byte passed ih =>
      rcases List.forall_mem_cons.mp stays with ⟨first, others⟩
      exact (one first).trans (ih others)

end Passes

/-- The byte of a quote. -/
def quoteByte (quote : Quote) : UInt8 :=
  .ofNat quote.character.toNat

theorem quoteByte_le (quote : Quote) : (quoteByte quote).toNat ≤ 0x7f := by
  cases quote <;> decide

variable {character : Char}

/-- A search outside quotes goes on over a character that is neither a quote nor
a closing brace. -/
theorem passes_bare (fits : (Stretch.bare character).Fits) :
    Passes outside (bytes [character]) outside := by
  by_cases narrow : character.toNat ≤ 0x7f
  · have single : UInt8.ofNat character.toNat ≠ 0x27 :=
      byte_ne narrow (by decide) (fits.2 .single)
    have double : UInt8.ofNat character.toNat ≠ 0x22 :=
      byte_ne narrow (by decide) (fits.2 .double)
    have closing : UInt8.ofNat character.toNat ≠ 0x7d :=
      byte_ne narrow (by decide) fits.1
    rw [bytes_narrow narrow]
    exact .one
      (by rw [pass?, if_neg (not_or.mpr ⟨single, double⟩), if_neg closing])
  · refine .stay fun byte member => ?_
    have beyond := bytes_wide narrow byte member
    have noQuote : ¬ (byte = 0x27 ∨ byte = 0x22) := by
      rintro (rfl | rfl) <;> contradiction
    have noClosing : byte ≠ 0x7d := by
      rintro rfl
      contradiction
    rw [pass?, if_neg noQuote, if_neg noClosing]

theorem passes_opening (quote : Quote) :
    Passes outside (bytes [quote.character]) (inside (quoteByte quote)) := by
  cases quote <;> exact .one rfl

theorem passes_endQuote (quote : Quote) :
    Passes (inside (quoteByte quote)) (bytes [quote.character]) outside := by
  cases quote <;> exact .one rfl

/-- A byte beyond ASCII is no quote and no backslash. -/
theorem pass?_wide {byte : UInt8} (beyond : 0x7f < byte.toNat) (quote : Quote) :
    (inside (quoteByte quote)).pass? byte =
      some (inside (quoteByte quote)) := by
  have noBackslash : byte ≠ 0x5c := by
    rintro rfl
    contradiction
  have noQuote : byte ≠ quoteByte quote := by
    rintro rfl
    exact absurd (quoteByte_le quote) (Nat.not_le_of_lt beyond)
  rw [pass?, if_neg noBackslash, if_neg noQuote]

/-- A search behind a quote goes on over a character that is neither that quote
nor a backslash. -/
theorem passes_inside {quote : Quote} (ordinary : character ≠ '\\')
    (different : character ≠ quote.character) :
    Passes (inside (quoteByte quote)) (bytes [character])
      (inside (quoteByte quote)) := by
  by_cases narrow : character.toNat ≤ 0x7f
  · have noBackslash : UInt8.ofNat character.toNat ≠ 0x5c :=
      byte_ne narrow (by decide) ordinary
    have noQuote : UInt8.ofNat character.toNat ≠ quoteByte quote :=
      byte_ne narrow (by cases quote <;> decide) different
    rw [bytes_narrow narrow]
    exact .one (by rw [pass?, if_neg noBackslash, if_neg noQuote])
  · exact .stay fun byte member =>
      pass?_wide (bytes_wide narrow byte member) quote

/-- Behind a backslash every character is passed over, with all its bytes: the
first one ends the escape, and no other one could be taken for a quote or a
backslash. -/
theorem passes_escaped (quote : Quote) (character : Char) :
    Passes (inside (quoteByte quote)) (bytes ['\\', character])
      (inside (quoteByte quote)) := by
  have backslash : Passes (inside (quoteByte quote)) (bytes ['\\'])
      (escaped (quoteByte quote)) := .one rfl
  have behind : Passes (escaped (quoteByte quote)) (bytes [character])
      (inside (quoteByte quote)) := by
    rcases exists_bytes character with ⟨byte, others, encoded, wide⟩
    have first : Passes (escaped (quoteByte quote)) [byte]
        (inside (quoteByte quote)) := .one rfl
    rw [encoded]
    exact first.trans (.stay fun byte member =>
      pass?_wide (wide byte member) quote)
  exact backslash.trans behind

/-- The place of a search for the scanner that is inside a quote or not. -/
def within : Option Quote → Search
  | none => outside
  | some quote => inside (quoteByte quote)

/-- The number of bytes that were scanned before a closing brace. -/
def scanned (taken : List Char × List Char) : Nat :=
  (bytes taken.1).length

/-- The search and the scanner agree on a text if they agree behind a part of
it. -/
theorem Passes.agrees
    {search next : Search} {passed rest : List Char}
    {taken : Option (List Char × List Char)}
    (passes : Passes search (bytes passed) next)
    (agrees : next.offset? (bytes rest) = taken.map scanned) :
    search.offset? (bytes (passed ++ rest)) =
      (taken.map (prefixed passed)).map scanned := by
  rw [bytes_append, passes, agrees, Option.map_map, Option.map_map]
  congr 1
  funext one
  show _ = (bytes (passed ++ one.1)).length
  rw [bytes_append, List.length_append]
  rfl

/-- The search over the bytes of a text stops where the scanner of its
characters does. -/
theorem offset?_bytes (quote : Option Quote) (text : List Char) :
    (within quote).offset? (bytes text) =
      (taken? (content? (quote.map Quote.character) text)).map scanned := by
  generalize inside : quote.map Quote.character = character
  induction character, text using TemplateNode.content?.induct
      generalizing quote with
  | case1 => rfl
  | case2 following =>
      rcases Option.map_eq_none_iff.mp inside with rfl
      rw [content?_closing]
      rfl
  | case3 character following open_ opened =>
      rename_i ih
      rcases Option.map_eq_none_iff.mp inside with rfl
      rw [content?_outside, if_neg open_]
      rcases exists_quote_or_bare open_ with ⟨quote, rfl⟩ | fits
      · have isQuote : quote.character = '\'' ∨ quote.character = '"' := by
          cases quote <;> decide
        exact (passes_opening quote).agrees
          (ih (some quote) (if_pos isQuote).symm)
      · have noQuote : ¬ (character = '\'' ∨ character = '"') := by
          rintro (rfl | rfl)
          · exact fits.2 .single rfl
          · exact fits.2 .double rfl
        exact (passes_bare fits).agrees (ih none (if_neg noQuote).symm)
  | case4 =>
      rcases Option.map_eq_some_iff.mp inside with ⟨quote, rfl, -⟩
      rfl
  | case5 open_ escaped following ih =>
      rcases Option.map_eq_some_iff.mp inside with ⟨quote, rfl, -⟩
      rw [content?_escaped]
      exact (passes_escaped quote escaped).agrees (ih (some quote) inside)
  | case6 character following open_ ordinary still =>
      rename_i ih
      rcases Option.map_eq_some_iff.mp inside with ⟨quote, rfl, rfl⟩
      rw [content?_inside ordinary]
      by_cases ends : character = quote.character
      · rcases ends with rfl
        exact (passes_endQuote quote).agrees (ih none (if_pos rfl).symm)
      · exact (passes_inside ordinary ends).agrees
          (ih (some quote) (if_neg ends).symm)

end Search

/-- The place of the brace that closes a placeholder, whose content starts at a
given place of a source.  Places are counted in bytes. -/
def closingBrace? (source : String) (start : Nat) : Option Nat :=
  (Search.outside.offset? (source.toByteArray.data.toList.drop start)).map
    (start + ·)

/-- The brace that is found among the bytes of a source is the one behind the
characters that the scanner takes. -/
theorem closingBrace?_eq (before after : String) :
    closingBrace? (before ++ after) before.utf8ByteSize =
      (taken? (content? none after.toList)).map fun taken =>
        before.utf8ByteSize + (bytes taken.1).length := by
  have start : (before ++ after).toByteArray.data.toList.drop
      before.utf8ByteSize = bytes after.toList := by
    rw [toByteArray_eq_bytes, String.toList_append,
      bytes_append, ← length_bytes, List.drop_left]
  rw [closingBrace?, start]
  change ((Search.within none).offset? (bytes after.toList)).map _ = _
  rw [Search.offset?_bytes, Option.map_map]
  rfl

section Accepted

variable {content : String} {origin : Origin} {expression : Expression}

/-- A text that is accepted without the blanks at its end is the content of a
placeholder. -/
theorem embeds_of_accepted
    (accepted : Expression.parse (Text.trimEnd content) origin =
      .ok expression) :
    Embeds content.toList := by
  rcases Derivation.exists_of_parse accepted with ⟨derivation, text, -⟩
  rcases Text.exists_trimmed content.toList with ⟨tail, blank, split⟩
  rw [Text.trimEnd, String.toList_ofList] at text
  rw [split, ← text]
  exact derivation.embeds.append
    (.of_bare fun character member => bare_fits_of rfl (blank character member))

theorem content?_accepted
    (accepted : Expression.parse (Text.trimEnd content) origin = .ok expression)
    (following : List Char) :
    taken? (content? none (content.toList ++ '\x7d' :: following)) =
      some (content.toList, following) := by
  rcases embeds_of_accepted accepted with ⟨stretches, fits, text⟩
  rw [← text]
  exact content?_complete fits following

/-- Whether a text is accepted does not depend on its origin. -/
theorem accepted_elsewhere
    (accepted : Expression.parse (Text.trimEnd content) origin = .ok expression)
    (origin' : Origin) :
    ∃ expression', Expression.parse (Text.trimEnd content) origin' =
      .ok expression' := by
  rcases Derivation.exists_of_parse accepted with ⟨derivation, text, -⟩
  exact ⟨derivation.value origin', Derivation.parse_text text⟩

/--
The search for the closing brace and the parser of expressions agree.  Behind a
text that is accepted without the blanks at its end, whatever stands before it
and whatever follows, the search over the bytes finds the closing brace exactly
there, and the scanner of characters takes exactly this text.  So a placeholder
that opens with it is read as its expression, and no other text that ends at a
closing brace in the same place is accepted.
-/
theorem closes_behind_accepted
    (accepted : Expression.parse (Text.trimEnd content) origin = .ok expression)
    (following : String) :
    (∀ before : String,
      closingBrace? (before ++ (content ++ "\x7d" ++ following))
        before.utf8ByteSize =
        some (before.utf8ByteSize + content.utf8ByteSize)) ∧
    taken? (content? none (content ++ "\x7d" ++ following).toList) =
      some (content.toList, following.toList) ∧
    (∀ (content' following' : String) (origin' : Origin)
      (expression' : Expression),
      Expression.parse (Text.trimEnd content') origin' = .ok expression' →
        content' ++ "\x7d" ++ following' = content ++ "\x7d" ++ following →
          content' = content ∧ following' = following) ∧
    (Opens content.toList →
      ∀ (template : String) (line : Nat) (pending : List Char),
      ∃ placeholder, Expression.parse (Text.trimEnd content) ⟨template, line⟩ =
        .ok placeholder ∧
        ofSource template line pending
          ('\x7b' :: (content ++ "\x7d" ++ following).toList) =
          (ofSource template (line + content.toList.count '\n')
            [] following.toList).map fun nodes =>
            ofPending pending ++ .placeholder placeholder :: nodes) := by
  have closed (content following : String) :
      (content ++ "\x7d" ++ following).toList =
          content.toList ++ '\x7d' :: following.toList := by
    rw [String.toList_append, String.toList_append, List.append_assoc]
    rfl
  refine ⟨?search, ?scanner, ?only, ?placeholder⟩
  case search =>
    intro before
    rw [closingBrace?_eq, closed, content?_accepted accepted, Option.map_some,
      length_bytes]
  case scanner =>
    rw [closed, content?_accepted accepted]
  case only =>
    intro content' following' origin' expression' accepted' same
    have texts := congrArg String.toList same
    rw [closed, closed] at texts
    have taken := content?_accepted accepted' following'.toList
    rw [texts, content?_accepted accepted] at taken
    rcases Prod.mk.inj (Option.some.inj taken) with ⟨contents, followings⟩
    exact ⟨(String.toList_inj.mp contents).symm,
      (String.toList_inj.mp followings).symm⟩
  case placeholder =>
    intro opens template line pending
    rcases accepted_elsewhere accepted ⟨template, line⟩ with
      ⟨placeholder, parsed⟩
    refine ⟨placeholder, parsed, ?_⟩
    have opens' : Opens (content.toList ++ '\x7d' :: following.toList) := by
      rcases opens with ⟨first, others, split, starts⟩
      exact ⟨first, _, congrArg (· ++ _) split, starts⟩
    rw [closed,
      ofSource_placeholder opens' (content?_accepted accepted following.toList),
      String.ofList_toList, parsed]

end Accepted

/-- A closing brace, a letter beyond ASCII behind a backslash and the other
quote. -/
def quotedItems : List Grammar.QuotedItem :=
  [.plain '\x7d', .escaped 'é', .plain '"']

theorem quotedItems_fit :
    ∀ item ∈ quotedItems, item.Fits Quote.single.character :=
  List.forall_mem_cons.mpr ⟨⟨by decide, by decide⟩,
    List.forall_mem_cons.mpr ⟨trivial,
      List.forall_mem_singleton.mpr ⟨by decide, by decide⟩⟩⟩

/-- A method with a quoted argument, in which these stand. -/
def quotedBraces : Derivation where
  before := .absent
  tree :=
    .path none (.single 'h' rfl)
      (.call (.some (.last .absent (.quoted .single quotedItems) .space)))
  after := .absent
  valid := ⟨stops_cons rfl, nofun, quotedItems_fit⟩

/-- A brace, quotes and letters inside a quoted argument are passed over. -/
theorem closes_behind_quotedBraces :
    Expression.parse (Text.trimEnd "h('\x7d\\é\"' )\u00a0") ⟨"sample", 1⟩ =
        .ok (quotedBraces.value ⟨"sample", 1⟩) ∧
      closingBrace?
        ("¡\x7b" ++ ("h('\x7d\\é\"' )\u00a0" ++ "\x7d" ++ ", \x7bname\x7d!"))
        3 = some 16 := by
  have accepted :
      Expression.parse (Text.trimEnd "h('\x7d\\é\"' )\u00a0") ⟨"sample", 1⟩ =
        .ok (quotedBraces.value ⟨"sample", 1⟩) :=
    Derivation.parse_text (by decide)
  exact ⟨accepted, (closes_behind_accepted accepted _).1 "¡\x7b"⟩

end Segmentation

end Phrasebook
