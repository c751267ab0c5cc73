import Mathlib.Data.List.Basic
import Mathlib.Tactic.SplitIfs
import Phrasebook.Bundle.Loading
import Phrasebook.Proofs.Roster
import Phrasebook.Proofs.Scene
import Phrasebook.Proofs.Text.Cutting

/-!
# Messages files

Entries are listed in a file one in a line, with blanks around the method and
around the source text as the writer likes, and with comments and blank lines in
between; a line ends in a line feed, with or without a carriage return before
it.  However they are listed, reading the file gives the entries back: the
methods in the order of their first mention, each with the last of its texts.

A line is at fault when it is neither blank nor a comment and has no separator.
Reading fails exactly when there is such a line, and reports the first one.
-/

namespace Phrasebook

namespace MessagesFile

open Text
  (AllBlank Trimmed isBlank trimChars trimChars_append trimChars_padded
    splitFirst?
  splitFirst?_append splitFirst?_append_cons splitFirst?_eq_none)

/-- A file name is made of a bundle, a locale and an extension. -/
structure Names (fileName bundle locale : String) : Prop where
  written : ∃ extension, fileName = bundle ++ "_" ++ locale ++ "." ++ extension
  bundle_ne : bundle ≠ ""
  bundle_plain : '_' ∉ bundle.toList ∧ '.' ∉ bundle.toList
  locale_ne : locale ≠ ""
  locale_plain : '.' ∉ locale.toList

/-- A method and a source text that can be declared in a line. -/
structure IsEntry (method template : String) : Prop where
  method_trimmed : Trimmed method.toList
  method_plain : method.toList.head? ≠ some '#' ∧ '=' ∉ method.toList ∧
    '\n' ∉ method.toList
  template_trimmed : Trimmed template.toList
  template_plain : '\n' ∉ template.toList

instance (method template : String) : Decidable (IsEntry method template) :=
  decidable_of_iff
    (Trimmed method.toList ∧
      (method.toList.head? ≠ some '#' ∧ '=' ∉ method.toList ∧
        '\n' ∉ method.toList) ∧
      Trimmed template.toList ∧ '\n' ∉ template.toList)
    ⟨
      fun ⟨trimmed, plain, trimmed', plain'⟩ =>
        ⟨trimmed, plain, trimmed', plain'⟩,
      fun entry => ⟨entry.1, entry.2, entry.3, entry.4⟩⟩

/-- The characters are blanks inside a line. -/
structure IsPadding (characters : List Char) : Prop where
  blank : AllBlank characters
  unbroken : '\n' ∉ characters

instance (characters : List Char) : Decidable (IsPadding characters) :=
  decidable_of_iff (AllBlank characters ∧ '\n' ∉ characters)
    ⟨fun ⟨blank, unbroken⟩ => ⟨blank, unbroken⟩, fun padding =>
      ⟨padding.blank, padding.unbroken⟩⟩

/-- What a line lists: nothing when it is a comment or blank, and otherwise an
entry. -/
inductive Row : List Char → Option (String × String) → Prop where
  | comment {text : List Char} : '\n' ∉ text → Row ('#' :: text) none
  | blank {line : List Char} : IsPadding line → Row line none
  | entry {method template : String} {front back front' back' : List Char} :
    IsEntry method template → IsPadding front → IsPadding back →
      IsPadding front' → IsPadding back' →
      Row
        (front ++ method.toList ++ back ++
          '=' :: (front' ++ template.toList ++ back'))
        (some (method, template))

/-- A text lists entries, line by line; the last line may have no ending. -/
inductive Lists : List Char → List (String × String) → Prop where
  | last {line : List Char} {listed : Option (String × String)} :
    Row line listed → Lists line listed.toList
  | next {line ending rest : List Char} {listed : Option (String × String)}
    {entries : List (String × String)} :
    Row line listed → ending = ['\n'] ∨ ending = ['\r', '\n'] →
      Lists rest entries →
      Lists (line ++ ending ++ rest) (listed.toList ++ entries)

/-- A line that is neither blank nor a comment has no separator. -/
structure IsFaulty (line : List Char) : Prop where
  uncommented : line.head? ≠ some '#'
  visible : ¬ AllBlank line
  unseparated : '=' ∉ line

theorem isSilent_iff {line : List Char} :
    isSilent line = true ↔ line.head? = some '#' ∨ AllBlank line := by
  simp [isSilent, AllBlank]

section Lines

variable {line rest : List Char} {definition : BundleDefinition}

theorem addLines_silent
    {lines : List (List Char)} (silent : isSilent line = true) (number : Nat) :
    addLines number (line :: lines) definition =
      addLines (number + 1) lines definition := by
  rw [addLines, if_pos silent]

/-- A line with a separator adds the message in front of it. -/
theorem addLines_separated
    {lines : List (List Char)} {before after : List Char}
    (loud : isSilent line = false)
    (split : splitFirst? '=' line = some (before, after)) (number : Nat) :
    addLines number (line :: lines) definition =
      addLines (number + 1) lines
        (definition.addMessage (String.ofList (trimChars before))
          { template := String.ofList (trimChars after) }) := by
  rw [addLines, if_neg (Bool.eq_false_iff.mp loud), split]

/-- A line that is neither silent nor has a separator is the fault that is told,
with its number. -/
theorem addLines_faulty
    {lines : List (List Char)} (faulty : IsFaulty line) (number : Nat) :
    addLines number (line :: lines) definition =
      .error (.separator number) := by
  have loud : ¬ isSilent line = true := by
    rw [isSilent_iff]
    exact not_or.mpr ⟨faulty.uncommented, faulty.visible⟩
  rw [addLines, if_neg loud, splitFirst?_eq_none.mpr faulty.unseparated]

/-- Each line is silent, at fault, or cut in two. -/
inductive Reads (line : List Char) : Prop where
  | silent : isSilent line = true → Reads line
  | faulty : IsFaulty line → Reads line
  | separated {before after : List Char} :
    isSilent line = false → splitFirst? '=' line = some (before, after) →
      Reads line

/-- Every line is silent, has a separator, or is faulty. -/
theorem reads (line : List Char) : Reads line := by
  cases silent : isSilent line with
  | true => exact .silent silent
  | false =>
      cases split : splitFirst? '=' line with
      | some parts => exact .separated silent split
      | none =>
          have loud := mt isSilent_iff.mpr (Bool.eq_false_iff.mp silent)
          rcases not_or.mp loud with ⟨uncommented, visible⟩
          exact .faulty ⟨uncommented, visible, splitFirst?_eq_none.mp split⟩

theorem not_isFaulty_of_silent (silent : isSilent line = true) :
    ¬ IsFaulty line :=
  fun faulty => (isSilent_iff.mp silent).elim faulty.uncommented faulty.visible

theorem not_isFaulty_of_split
    {parts : List Char × List Char}
    (split : splitFirst? '=' line = some parts) :
    ¬ IsFaulty line := by
  intro faulty
  cases (splitFirst?_eq_none.mpr faulty.unseparated).symm.trans split

theorem addLines_cons_congr
    {lines lines' : List (List Char)}
    (same : ∀ number definition, addLines number lines definition =
      addLines number lines' definition)
    (number : Nat) :
    addLines number (line :: lines) definition =
      addLines number (line :: lines') definition := by
  simp only [addLines, same]

/-- A carriage return at the end of a line makes no difference. -/
theorem addLines_return (lines : List (List Char)) (number : Nat) :
    addLines number ((line ++ ['\r']) :: lines) definition =
      addLines number (line :: lines) definition := by
  have blank : AllBlank ['\r'] := by
    simp only [AllBlank, List.forall_mem_singleton]
    decide
  have absent : '=' ∉ ['\r'] := by decide
  have silent : isSilent (line ++ ['\r']) = isSilent line := by
    cases line with
    | nil => decide
    | cons first line => simp [isSilent, blank _ (List.mem_singleton.mpr rfl)]
  rcases reads line with quiet | faulty | ⟨loud, split⟩
  · rw [addLines_silent (silent.trans quiet), addLines_silent quiet]
  · have loud : ¬ isSilent (line ++ ['\r']) = true := by
      rw [silent]
      exact fun quiet => not_isFaulty_of_silent quiet faulty
    have faulty' : IsFaulty (line ++ ['\r']) :=
      ⟨fun comment => loud (isSilent_iff.mpr (.inl comment)),
        fun blank => loud (isSilent_iff.mpr (.inr blank)),
        List.not_mem_append faulty.unseparated absent⟩
    rw [addLines_faulty faulty, addLines_faulty faulty']
  · have split' := splitFirst?_append line absent
    rw [split] at split'
    rw [addLines_separated loud split,
      addLines_separated (silent.trans loud) split', trimChars_append _ blank]

/-- Reading the lines of a text is reading what stands between its line
feeds. -/
theorem addLines_lines
    (content : String) (number : Nat) (definition : BundleDefinition) :
    addLines number (Text.lines content) definition =
      addLines number (content.toList.splitOn '\n') definition := by
  rw [Text.lines]
  induction content.toList.splitOn '\n' generalizing number definition with
  | nil => rfl
  | cons line lines ih =>
      rw [List.map_cons, addLines_cons_congr ih]
      split_ifs with returned
      · rw [← addLines_return, List.dropLast_append_getLast? _ returned]
      · rfl

end Lines

section Faults

/-- The first line that is at fault, counted from zero. -/
def IsFirstFault (lines : List (List Char)) (index : Nat) : Prop :=
  (∃ line, lines[index]? = some line ∧ IsFaulty line) ∧
    ∀ earlier < index, ∀ line, lines[earlier]? = some line → ¬ IsFaulty line

variable {line : List Char} {lines : List (List Char)}

/-- Before a faulty first line there is no other fault. -/
theorem isFirstFault_of_faulty (faulty : IsFaulty line) {index : Nat} :
    IsFirstFault (line :: lines) index ↔ index = 0 := by
  constructor
  · intro first
    by_contra later
    exact first.2 0 (Nat.pos_of_ne_zero later) line rfl faulty
  · rintro rfl
    exact ⟨⟨line, rfl, faulty⟩, fun earlier before =>
      absurd before (Nat.not_lt_zero earlier)⟩

/-- Behind a sound first line the first fault is the one of the rest. -/
theorem isFirstFault_of_sound (sound : ¬ IsFaulty line) {index : Nat} :
    IsFirstFault (line :: lines) index ↔ ∃ later, index = later + 1 ∧
      IsFirstFault lines later := by
  constructor
  · rintro ⟨⟨found, there, faulty⟩, none⟩
    cases index with
    | zero =>
        cases there
        exact absurd faulty sound
    | succ later =>
        refine ⟨later, rfl, ⟨found, there, faulty⟩, fun earlier before => ?_⟩
        exact none (earlier + 1) (Nat.succ_lt_succ before)
  · rintro ⟨later, rfl, ⟨found, there, faulty⟩, none⟩
    refine ⟨⟨found, there, faulty⟩, fun earlier before other among => ?_⟩
    cases earlier with
    | zero =>
        cases among
        exact sound
    | succ earlier =>
        exact none earlier (Nat.lt_of_succ_lt_succ before) other among

/-- Where some line is at fault, one is the first. -/
theorem exists_isFirstFault_iff :
    (∃ index, IsFirstFault lines index) ↔ ∃ line ∈ lines, IsFaulty line := by
  induction lines with
  | nil =>
      refine iff_of_false ?_ fun ⟨_, member, _⟩ => List.not_mem_nil member
      rintro ⟨index, ⟨line, there, -⟩, -⟩
      cases there
  | cons line lines ih =>
      rw [List.exists_mem_cons_iff, ← ih]
      by_cases faulty : IsFaulty line
      · simp [isFirstFault_of_faulty faulty, faulty]
      · simp only [isFirstFault_of_sound faulty, faulty, false_or]
        constructor
        · rintro ⟨_, later, -, first⟩
          exact ⟨later, first⟩
        · rintro ⟨later, first⟩
          exact ⟨later + 1, later, rfl, first⟩

/-- Reading fails exactly at the first line that is at fault. -/
theorem addLines_error_iff
    {definition : BundleDefinition} {number : Nat} {fault : FileFault} :
    addLines number lines definition = .error fault ↔
      ∃ index, fault = .separator (number + index) ∧
        IsFirstFault lines index := by
  induction lines generalizing definition number with
  | nil =>
      rw [addLines]
      refine iff_of_false nofun ?_
      rintro ⟨index, -, ⟨line, there, -⟩, -⟩
      cases there
  | cons line lines ih =>
      have later (sound : ¬ IsFaulty line) (definition' : BundleDefinition) :
          addLines (number + 1) lines definition' = .error fault ↔
            ∃ index, fault = .separator (number + index) ∧
                IsFirstFault (line :: lines) index := by
        rw [ih]
        simp only [isFirstFault_of_sound sound]
        constructor
        · rintro ⟨index, same, first⟩
          exact ⟨index + 1, by rw [same, Nat.add_assoc, Nat.add_comm 1], index,
            rfl, first⟩
        · rintro ⟨_, same, index, rfl, first⟩
          exact ⟨index, by rw [same, Nat.add_assoc, Nat.add_comm 1], first⟩
      rcases reads line with quiet | faulty | ⟨loud, split⟩
      · rw [addLines_silent quiet]
        exact later (not_isFaulty_of_silent quiet) definition
      · rw [addLines_faulty faulty]
        simp only [isFirstFault_of_faulty faulty, exists_eq_right, Nat.add_zero,
          Except.error.injEq]
        exact eq_comm
      · rw [addLines_separated loud split]
        exact later (not_isFaulty_of_split split) _

end Faults

section Entries

/-- A definition with one more entry. -/
def declare (definition : BundleDefinition) (entry : String × String) :
    BundleDefinition :=
  definition.addMessage entry.1 { template := entry.2 }

variable {line : List Char} {listed : Option (String × String)}

theorem Row.unbroken (row : Row line listed) : '\n' ∉ line := by
  cases row with
  | comment unbroken => simpa using unbroken
  | blank padding => exact padding.unbroken
  | entry isEntry front back front' back' =>
      simp [front.unbroken, back.unbroken, front'.unbroken, back'.unbroken,
        isEntry.method_plain.2.2, isEntry.template_plain]

theorem IsPadding.return
    {characters : List Char} (padding : IsPadding characters) :
    IsPadding (characters ++ ['\r']) where
  blank :=
    List.forall_mem_append.mpr
      ⟨padding.blank, by simp only [List.forall_mem_singleton]; decide⟩
  unbroken := List.not_mem_append padding.unbroken (by decide)

/-- With a carriage return at its end, a line lists the same. -/
theorem Row.return (row : Row line listed) : Row (line ++ ['\r']) listed := by
  cases row with
  | comment unbroken =>
      exact .comment (List.not_mem_append unbroken (by decide))
  | blank padding => exact .blank padding.return
  | entry isEntry front back front' back' =>
      rw [List.append_assoc, List.cons_append, List.append_assoc _ _ ['\r']]
      exact .entry isEntry front back front' back'.return

theorem IsPadding.not_mem
    {characters : List Char} (padding : IsPadding characters) {character : Char}
    (visible : isBlank character = false) : character ∉ characters := by
  intro member
  rw [padding.blank character member] at visible
  cases visible

/-- An entry is cut at its separator, and blanks around its parts are trimmed
away. -/
theorem Row.addLines
    (row : Row line listed) (lines : List (List Char)) (number : Nat)
    (definition : BundleDefinition) :
    addLines number (line :: lines) definition =
      MessagesFile.addLines (number + 1) lines
        (listed.toList.foldl declare definition) := by
  cases row with
  | comment => exact addLines_silent (isSilent_iff.mpr (.inl rfl)) number
  | blank padding =>
      exact addLines_silent (isSilent_iff.mpr (.inr padding.blank)) number
  | @entry method template front back front' back' isEntry before after before'
      after' =>
      have absent : '=' ∉ front ++ method.toList ++ back := by
        simp [before.not_mem, after.not_mem, isEntry.method_plain.2.1,
          show isBlank '=' = false by decide]
      have split :=
        splitFirst?_append_cons absent (front' ++ template.toList ++ back')
      have loud :
          isSilent
            (front ++ method.toList ++ back ++
              '=' :: (front' ++ template.toList ++ back')) =
          false := by
        rw [Bool.eq_false_iff, ne_eq, isSilent_iff, not_or]
        constructor
        · have hash : isBlank '#' = false := by decide
          intro comment
          simp only [List.head?_append, Option.or_eq_some_iff, List.head?_cons]
            at comment
          rcases comment with
            ((inFront | ⟨-, inMethod⟩) | ⟨-, inBack⟩) | ⟨-, separator⟩
          · exact before.not_mem hash (List.mem_of_head? inFront)
          · exact isEntry.method_plain.1 inMethod
          · exact after.not_mem hash (List.mem_of_head? inBack)
          · cases separator
        · intro blank
          have visible := blank '=' (by simp)
          cases visible
      rw [addLines_separated loud split,
        trimChars_padded isEntry.method_trimmed before.blank after.blank,
        trimChars_padded isEntry.template_trimmed before'.blank after'.blank]
      simp [declare]

/-- A text that lists entries is read to its end, and declares them in order. -/
theorem Lists.addLines
    {text : List Char} {entries : List (String × String)}
    (lists : Lists text entries) (number : Nat)
    (definition : BundleDefinition) :
    addLines number (text.splitOn '\n') definition =
      .ok (entries.foldl declare definition) := by
  induction lists generalizing number definition with
  | last row =>
      rw [List.splitOn_eq_singleton row.unbroken, row.addLines]
      rfl
  | @next line ending rest listed entries row ends _ ih =>
      rw [List.foldl_append]
      rcases ends with rfl | rfl
      · rw [List.append_assoc, List.singleton_append,
          List.splitOn_append_cons_self_of_not_mem row.unbroken, row.addLines]
        exact ih _ _
      · rw [List.append_assoc, List.cons_append, List.singleton_append,
          List.append_cons,
          List.splitOn_append_cons_self_of_not_mem row.return.unbroken,
            row.return.addLines]
        exact ih _ _

/-- Declaring entries one after the other is putting them into the roster of
messages. -/
theorem foldl_declare
    (entries : List (String × String)) (definition : BundleDefinition) :
    entries.foldl declare definition =
      { definition with
        messages :=
  (entries.map fun entry => (entry.1, { template := entry.2 })).foldl
          (fun roster entry => roster.put entry.1 entry.2)
            definition.messages } := by
  induction entries generalizing definition with
  | nil => rfl
  | cons entry entries ih =>
      rw [List.foldl_cons, ih]
      rfl

end Entries

section File

variable {fileName bundle locale : String}

/-- The bundle and the locale are read off the name of a file. -/
theorem Names.bundleAndLocale? (names : Names fileName bundle locale) :
    bundleAndLocale? fileName = some (bundle, locale) := by
  rcases names.written with ⟨extension, rfl⟩
  have stem : (bundle ++ "_" ++ locale ++ "." ++ extension).toList.takeWhile
      (· ≠ '.') =
      bundle.toList ++ '_' :: locale.toList := by
    have plain : ∀ character ∈ bundle.toList ++ '_' :: locale.toList,
        decide (character ≠ '.') = true := by
      intro character member
      refine decide_eq_true ?_
      rintro rfl
      simp [names.bundle_plain.2, names.locale_plain] at member
    have spelled : (bundle ++ "_" ++ locale ++ "." ++ extension).toList =
        (bundle.toList ++ '_' :: locale.toList) ++ '.' :: extension.toList := by
      simp
    rw [spelled, List.takeWhile_append_of_pos plain]
    simp
  rw [MessagesFile.bundleAndLocale?, stem,
    splitFirst?_append_cons names.bundle_plain.1]
  have present : ¬ (bundle.toList = [] ∨ locale.toList = []) := by
    simp [names.bundle_ne, names.locale_ne]
  simp only [if_neg present, String.ofList_toList]

theorem Names.parse (names : Names fileName bundle locale) (content : String) :
    parse fileName content =
      addLines 1 (content.toList.splitOn '\n')
        { bundle, locale := some locale, localized := true } := by
  rw [MessagesFile.parse, names.bundleAndLocale?]
  exact addLines_lines content 1 _

/-- A messages file gives back the entries that it lists, however they are
listed: its definition is the localized one of the bundle and the locale in its
name, with the methods in the order of their first mention and the last text of
each.  Whatever else it holds, reading it fails exactly when some line, neither
blank nor a comment, has no separator; the fault is then the number of the first
such line. -/
theorem parse_entries_or_first_fault
    {path : String} (told : Path.fileName? path = some fileName)
    (names : Names fileName bundle locale) :
    (∀ content entries, Lists content.toList entries →
      ∃ messages : Roster MessageDefinition,
        parse ((Path.fileName? path).getD "") content =
          .ok { bundle, locale := some locale, localized := true, messages } ∧
        messages.map Prod.fst = (entries.map Prod.fst).eraseDups ∧
        ∀ method, messages.get? method =
          (entries.reverse.lookup method).map fun template =>
            { template, parameters := [], key := none }) ∧
    (∀ content,
      (∃ fault, parse ((Path.fileName? path).getD "") content = .error fault) ↔
      ∃ line ∈ content.toList.splitOn '\n', IsFaulty line) ∧
    (∀ content fault, parse ((Path.fileName? path).getD "") content =
      .error fault ↔
      ∃ index, fault = .separator (index + 1) ∧
        IsFirstFault (content.toList.splitOn '\n') index) ∧
    ((∀ extension ∈ ["json", "yaml", "yml"],
      Path.extension? path ≠ some extension) → ∀ content,
      BundleDefinition.parseFile path content =
        parse ((Path.fileName? path).getD "") content) := by
  rw [told, Option.getD_some]
  have fails (content : String) (fault : FileFault) : parse fileName content =
      .error fault ↔
      ∃ index, fault = .separator (index + 1) ∧
          IsFirstFault (content.toList.splitOn '\n') index := by
    rw [names.parse, addLines_error_iff]
    simp only [Nat.add_comm 1]
  refine ⟨fun content entries lists => ?_, fun content => ?_, fails,
    fun other content => ?_⟩
  · refine ⟨.ofList (entries.map fun entry =>
      (entry.1, { template := entry.2 })), ?_, ?_, fun method => ?_⟩
    · rw [names.parse, lists.addLines, foldl_declare]
      rfl
    · rw [Roster.keys_ofList, List.map_map]
      rfl
    · rw [Roster.get?_ofList, ← List.map_reverse]
      exact Dictionary.get?_map (fun template : String =>
        ({ template } : MessageDefinition)) method
        entries.reverse
  · simp only [fails]
    rw [exists_comm, ← exists_isFirstFault_iff]
    simp
  · rw [BundleDefinition.parseFile, told, Option.getD_some]
    split
    · rename_i json
      exact absurd json (other "json" (by decide))
    · rename_i yaml
      exact absurd yaml (other "yaml" (by decide))
    · rename_i yml
      exact absurd yml (other "yml" (by decide))
    · rfl

/-- A file with a comment, a blank line, blanks of all kinds and a method that
is declared twice. -/
def austrianGreetings : String :=
  "# greetings\r\n hello\t= Hallo!\n \nbye=a = #b\r\nhello=Servus"

theorem austrianGreetings_lists :
    Lists austrianGreetings.toList [("hello", "Hallo!"), ("bye", "a = #b"),
      ("hello", "Servus")] := by
  have spelled : austrianGreetings.toList =
      ('#' :: " greetings".toList) ++ ['\r', '\n'] ++
        ([' '] ++ "hello".toList ++ ['\t'] ++
          '=' :: ([' '] ++ "Hallo!".toList ++ []) ++ ['\n'] ++
          ([' '] ++ ['\n'] ++
            ([] ++ "bye".toList ++ [] ++ '=' :: ([] ++ "a = #b".toList ++ []) ++
              ['\r', '\n'] ++
              ([] ++ "hello".toList ++ [] ++
                  '=' :: ([] ++ "Servus".toList ++ []))))) := by
    decide +kernel
  have nothing : IsPadding [] := by decide
  have space : IsPadding [' '] := by decide
  have tab : IsPadding ['\t'] := by decide
  have hello : IsEntry "hello" "Hallo!" := by decide +kernel
  have bye : IsEntry "bye" "a = #b" := by decide +kernel
  have again : IsEntry "hello" "Servus" := by decide +kernel
  rw [spelled]
  exact .next (.comment (by decide +kernel)) (.inr rfl) <|
    .next (.entry hello space tab space nothing) (.inl rfl) <|
    .next (.blank space) (.inl rfl) <|
    .next (.entry bye nothing nothing nothing nothing) (.inr rfl) <|
    .last (.entry again nothing nothing nothing nothing)

theorem names_austrian : Names "msg_de_AT.txt" "msg" "de_AT" where
  written := ⟨"txt", by decide +kernel⟩
  bundle_ne := by decide
  bundle_plain := by decide +kernel
  locale_ne := by decide
  locale_plain := by decide +kernel

/-- The greetings are read back, the second text of the first method in its
place; and a line without a separator is found by its number. -/
theorem austrianGreetings_read :
    (∃ messages : Roster MessageDefinition,
      parse "msg_de_AT.txt" austrianGreetings =
        .ok { bundle := "msg", locale := some "de_AT", localized := true,
              messages } ∧
      messages.map Prod.fst = ["hello", "bye"] ∧
      messages.get? "hello" = some { template := "Servus" }) ∧
    parse "msg_de_AT.txt" "hello=Hallo\nbroken line\nworse" =
      .error (.separator 2) := by
  have told : Path.fileName? "bundles/msg_de_AT.txt" =
      some "msg_de_AT.txt" := by cbv
  rcases parse_entries_or_first_fault told names_austrian with
    ⟨entries, -, faults, -⟩
  rw [told, Option.getD_some] at entries faults
  constructor
  · rcases entries _ _ austrianGreetings_lists with
      ⟨messages, read, keys, values⟩
    exact ⟨messages, read, keys.trans (by decide),
      (values "hello").trans (by decide)⟩
  · have cut : "hello=Hallo\nbroken line\nworse".toList.splitOn '\n' =
        ["hello=Hallo".toList, "broken line".toList, "worse".toList] := by
      decide +kernel
    refine (faults _ _).mpr ⟨1, rfl, ?_⟩
    rw [cut]
    constructor
    · refine ⟨_, rfl, by decide +kernel, fun blank => ?_, by decide +kernel⟩
      exact absurd (blank 'b' (by decide +kernel)) (by decide)
    · intro earlier before line there
      rcases Nat.lt_one_iff.mp before with rfl
      cases there
      exact fun faulty => faulty.unseparated (by decide +kernel)

end File

end MessagesFile

end Phrasebook
