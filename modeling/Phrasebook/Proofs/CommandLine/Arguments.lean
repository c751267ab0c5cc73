import Mathlib.Tactic.SplitIfs
import Phrasebook.CommandLine.Run
import Phrasebook.Proofs.Text.Cutting

/-!
# Options on the command line

An option is written with its value behind an equals sign, or with the value as
the next argument if that does not look like an option.  However options are
written, they are read in their order, one after the other: they are all taken
when the command allows them, none is given again that must not be, and every
value is one that its option accepts.  One value that is not accepted is a fault
of the whole.
-/

namespace Phrasebook.CommandLine

open Text (splitFirst? splitFirst?_append_cons splitFirst?_eq_none)

namespace OptionName

/-- How the name of an option is written. -/
def text : OptionName → String
  | .bundle => "bundle"
  | .key => "key"
  | .locale => "locale"
  | .param => "param"
  | .config => "config"
  | .template => "template"

@[simp]
theorem ofName?_text
    (option : OptionName) : ofName? option.text = some option := by
  cases option <;> rfl

theorem equals_not_mem_text (option : OptionName) :
    '=' ∉ option.text.toList := by
  cases option <;> decide

/-- No option starts as the request for help does. -/
theorem exists_text_cons (option : OptionName) :
    ∃ first rest, option.text.toList = first :: rest ∧ first ≠ 'h' := by
  cases option <;> exact ⟨_, _, rfl, by decide⟩

end OptionName

/-- Options are written as arguments. -/
inductive Writes : List (OptionName × String) → List String → Prop
  | nil : Writes [] []
  | joined (option : OptionName) (value : String)
      {given : List (OptionName × String)} {arguments : List String}
      (others : Writes given arguments) :
      Writes ((option, value) :: given)
        (("--" ++ option.text ++ "=" ++ value) :: arguments)
  | apart (option : OptionName) {value : String}
      (plain : looksLikeOption value = false)
      {given : List (OptionName × String)} {arguments : List String}
      (others : Writes given arguments) :
      Writes ((option, value) :: given)
        (("--" ++ option.text) :: value :: arguments)

/-- A command takes the options: it allows all of them, and those that must not
be repeated are given once. -/
structure Orderly
    (allowed : List OptionName) (given : List (OptionName × String)) :
    Prop where
  allowed : ∀ one ∈ given, one.1 ∈ allowed
  once : given.Pairwise fun one other => one.1 = other.1 → one.1.repeats = true

section Reading

variable {allowed : List OptionName} {before given : List (OptionName × String)}
  {arguments : List String}

/-- Adds options to those given before, one after the other. -/
def giveAll?
    (allowed : List OptionName) (before given : List (OptionName × String)) :
    Option (List (OptionName × String)) :=
  given.foldlM (fun before one =>
    give? allowed before one.1.text.toList one.2) before

theorem giveAll?_cons (one : OptionName × String) :
    giveAll? allowed before (one :: given) =
      (give? allowed before one.1.text.toList one.2).bind fun before =>
        giveAll? allowed before given :=
  rfl

/-- An argument that starts with an option asks for no help and does not end the
options. -/
theorem not_help_of_option
    {argument : String} {option : OptionName} {following : List Char}
    (written : argument.toList =
      '-' :: '-' :: (option.text.toList ++ following)) :
    asksForHelp argument = false ∧ argument ≠ "--" := by
  rcases option.exists_text_cons with ⟨first, name, split, different⟩
  rw [split] at written
  constructor
  · have unlike : argument ≠ "--help" := by
      rintro rfl
      exact different
        (List.cons.inj (List.cons.inj (List.cons.inj written).2).2).1.symm
    simp [asksForHelp, startsWithFlag, unlike, written, List.isPrefixOf]
  · rintro rfl
    cases written

/-- Options are read in the order in which they are written. -/
theorem readOptions_written (writes : Writes given arguments) :
    readOptions allowed before arguments =
      (giveAll? allowed before given).elim .fault .options := by
  induction writes generalizing before with
  | nil => rfl
  | joined option value others ih =>
      have written : ("--" ++ option.text ++ "=" ++ value).toList =
          '-' :: '-' :: (option.text.toList ++ '=' :: value.toList) := by
        simp
      rcases not_help_of_option written with ⟨unhelpful, unfinished⟩
      have split :=
        splitFirst?_append_cons option.equals_not_mem_text value.toList
      rw [readOptions, unhelpful, if_neg Bool.false_ne_true, if_neg unfinished]
      simp only [written, split, giveAll?_cons, String.ofList_toList]
      cases give? allowed before option.text.toList value with
      | none => rfl
      | some before => exact ih
  | apart option plain others ih =>
      have written : ("--" ++ option.text).toList =
          '-' :: '-' :: (option.text.toList ++ []) := by
        simp
      rcases not_help_of_option written with ⟨unhelpful, unfinished⟩
      have whole := splitFirst?_eq_none.mpr option.equals_not_mem_text
      rw [List.append_nil] at written
      rw [readOptions, unhelpful, if_neg Bool.false_ne_true, if_neg unfinished]
      simp only [written, whole, plain, giveAll?_cons, Bool.false_eq_true,
        if_false]
      cases give? allowed before option.text.toList _ with
      | none => rfl
      | some before => exact ih

/-- Options that the command takes, each with a value that it accepts, are all
given. -/
theorem giveAll?_orderly
    (orderly : Orderly allowed (before ++ given))
    (accepted : ∀ one ∈ given, one.1.accepts one.2 = true) :
    giveAll? allowed before given = some (before ++ given) := by
  induction given generalizing before with
  | nil => simp [giveAll?]
  | cons one given ih =>
      rcases List.forall_mem_cons.mp accepted with ⟨accepts, others⟩
      have permitted : one.1 ∈ allowed := orderly.allowed one (by simp)
      have fresh : (one.1.repeats || (before.lookup one.1).isNone) = true := by
        by_cases repeats : one.1.repeats = true
        · simp [repeats]
        · have absent : ∀ other ∈ before, other.1 ≠ one.1 := by
            intro other member same
            have once :=
              (List.pairwise_append.mp orderly.once).2.2 other member one
                List.mem_cons_self same
            exact repeats (same ▸ once)
          have unknown : before.lookup one.1 = none := by
            simp only [List.lookup_eq_none_iff, bne_iff_ne]
            exact fun other member => (absent other member).symm
          simp [unknown]
      have given : give? allowed before one.1.text.toList one.2 =
          some (before ++ [one]) := by
        simp [give?, permitted, fresh, accepts]
      rw [giveAll?_cons, given, Option.bind_some, ih _ others,
        List.append_assoc, List.singleton_append]
      rw [List.append_assoc, List.singleton_append]
      exact orderly

/-- One value that is not accepted is a fault. -/
theorem giveAll?_refused
    (refused : ∃ one ∈ given, one.1.accepts one.2 = false) :
    giveAll? allowed before given = none := by
  induction given generalizing before with
  | nil => simp at refused
  | cons one given ih =>
      rw [giveAll?_cons]
      rcases refused with ⟨other, member, refuses⟩
      rcases List.mem_cons.mp member with rfl | later
      · simp [give?, refuses]
      · cases give? allowed before one.1.text.toList one.2 with
        | none => rfl
        | some before => exact ih ⟨other, later, refuses⟩

end Reading

/-- The options that `render` allows. -/
def renderNames : List OptionName :=
  [.bundle, .key, .locale, .param, .config]

section Running

variable {given : List (OptionName × String)} {arguments : List String}
  {options : RenderOptions}

/-- However the options of `render` are written, they are what is rendered. -/
theorem run_written
    (writes : Writes given arguments) (orderly : Orderly renderNames given)
    (accepted : ∀ one ∈ given, one.1.accepts one.2 = true)
    (asked : renderOptions? given = some options)
    (environment : Environment) (files : Files) :
    run environment files ("render" :: arguments) =
      (Command.render options).run environment files := by
  have read : readOptions renderNames [] arguments = .options given := by
    rw [readOptions_written writes, giveAll?_orderly orderly accepted]
    rfl
  have command : command? ("render" :: arguments) = some (.render options) := by
    change (readOptions renderNames [] arguments).command? .render _ = _
    rw [read, Reading.command?, asked]
    rfl
  rw [run, command]

/-- A value that is not accepted ends the program before anything is read. -/
theorem run_refused
    (writes : Writes given arguments)
    (refused : ∃ one ∈ given, one.1.accepts one.2 = false)
    (environment : Environment) (files : Files) :
    run environment files ("render" :: arguments) = ⟨2, "", none⟩ := by
  have read : readOptions renderNames [] arguments = .fault := by
    rw [readOptions_written writes, giveAll?_refused refused]
    rfl
  have command : command? ("render" :: arguments) = none := by
    change (readOptions renderNames [] arguments).command? .render _ = _
    rw [read, Reading.command?]
  rw [run, command]

end Running

end Phrasebook.CommandLine
