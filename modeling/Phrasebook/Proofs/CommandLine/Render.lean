import Mathlib.Tactic.SplitIfs
import Phrasebook.Proofs.CommandLine.Arguments
import Phrasebook.Proofs.Message.Catalog
import Phrasebook.Proofs.Roster
import Phrasebook.Proofs.Template.Embedding

/-!
# Rendering from the command line

Rendering a message from the command line first prepares: it loads the bundles,
finds the message by the written key, and gathers its arguments by the names of
its parameters.  Only then the message is rendered.  The order of the flags,
flags for other names and earlier flags for the same name do not matter; but
without a flag for one of the parameters nothing is rendered.
-/

namespace Phrasebook

open Text (Trimmed splitFirst? splitFirst?_append_cons splitFirst?_eq_none)

namespace BundleDefinition

/-- A messages file declares each method once. -/
theorem nodup_addLines
    {number : Nat} {lines : List (List Char)}
    {definition definition' : BundleDefinition}
    (distinct : (definition.messages.map Prod.fst).Nodup)
    (added : MessagesFile.addLines number lines definition = .ok definition') :
    (definition'.messages.map Prod.fst).Nodup := by
  induction lines generalizing number definition with
  | nil =>
      cases added
      exact distinct
  | cons line rest ih =>
      rw [MessagesFile.addLines] at added
      split at added
      · exact ih distinct added
      · split at added
        · cases added
        · exact ih (Roster.nodup_put _ _ distinct) added

/-- A document declares each method once. -/
theorem nodup_ofDocument?
    {format : Format} {document : Document} {definition : BundleDefinition}
    (read : ofDocument? format document = some definition) :
    (definition.messages.map Prod.fst).Nodup := by
  simp only [ofDocument?, Option.bind_eq_bind, Option.bind_eq_some_iff,
    Option.some.injEq] at read
  rcases read with ⟨record, -, bundle, -, locale, -, localized, -, defaultKey,
    -, messages, declared, rfl⟩
  rw [Record.default?] at declared
  split at declared
  · cases declared
    exact List.nodup_nil
  · simp only [messages?, Option.bind_eq_bind, Option.bind_eq_some_iff,
      Option.some.injEq] at declared
    rcases declared with ⟨entries, -, read, -, rfl⟩
    exact Roster.nodup_ofList _

theorem nodup_parseFile {path content : String} {definition : BundleDefinition}
    (parsed : parseFile path content = .ok definition) :
    (definition.messages.map Prod.fst).Nodup := by
  have read {format : Format} {other : BundleDefinition}
      (found : (format.document? content).bind (ofDocument? format) =
        some other) :
      (other.messages.map Prod.fst).Nodup := by
    rcases Option.bind_eq_some_iff.mp found with ⟨document, -, ofWhole⟩
    exact nodup_ofDocument? ofWhole
  rw [parseFile] at parsed
  dsimp only at parsed
  split at parsed
  case h_4 =>
    rw [MessagesFile.parse] at parsed
    split at parsed
    · cases parsed
    · rename_i bundle locale _
      have empty :
          (BundleDefinition.messages
            { bundle, locale := some locale, localized := true }).map Prod.fst =
              [] :=
        rfl
      exact nodup_addLines (empty ▸ List.nodup_nil) parsed
  all_goals
    split at parsed
    · cases parsed
      exact read ‹_›
    · cases parsed

/-- However a definition is loaded, it declares each method once. -/
theorem nodup_load
    {files : Files} {path : String} {definition : BundleDefinition}
    (loaded : load files path = .ok definition) :
    (definition.messages.map Prod.fst).Nodup := by
  rw [load] at loaded
  split at loaded
  · rename_i content _
    cases parsed : parseFile path content with
    | error fault =>
        rw [parsed] at loaded
        cases loaded
    | ok other =>
        rw [parsed] at loaded
        cases loaded
        exact nodup_parseFile parsed
  · cases loaded

end BundleDefinition

namespace CommandLine

section Loading

theorem mem_of_mapM_ok
    {ε α β : Type} {f : α → Except ε β} {inputs : List α} {outputs : List β}
    (mapped : inputs.mapM f = .ok outputs) :
    ∀ output ∈ outputs, ∃ input ∈ inputs, f input = .ok output := by
  induction inputs generalizing outputs with
  | nil =>
      cases mapped
      simp
  | cons input inputs ih =>
      rw [List.mapM_cons] at mapped
      cases first : f input with
      | error error =>
          rw [first] at mapped
          cases mapped
      | ok output =>
          cases rest : inputs.mapM f with
          | error error =>
              rw [first, rest] at mapped
              cases mapped
          | ok others =>
              rw [first, rest] at mapped
              cases mapped
              intro other member
              rcases List.mem_cons.mp member with rfl | later
              · exact ⟨input, List.mem_cons_self, first⟩
              · rcases ih rest other later with ⟨input', member', given⟩
                exact ⟨input', List.mem_cons_of_mem input member', given⟩

variable {files : Files} {paths templates : List String} {config : Config}
  {catalog : Catalog} {state : EngineState}

/-- A loaded catalog is built from definitions that declare each method once. -/
theorem exists_build
    (loaded : loadCatalog files paths templates config = .ok (catalog, state)) :
    ∃ definitions sources,
      (∀ definition ∈ definitions, (definition.messages.map Prod.fst).Nodup) ∧
      Catalog.build definitions sources (engine config) .empty =
        (.ok catalog, state) := by
  rw [loadCatalog] at loaded
  cases read : loadDefinitions files paths with
  | error failure =>
      rw [read] at loaded
      cases loaded
  | ok definitions =>
      cases others : loadTemplates files templates with
      | error failure =>
          rw [read, others] at loaded
          cases loaded
      | ok sources =>
          rw [read, others] at loaded
          refine ⟨definitions, sources, ?_, ?_⟩
          · intro definition member
            rcases mem_of_mapM_ok read definition member with ⟨path, -, one⟩
            cases found : BundleDefinition.load files path with
            | error error =>
                rw [found] at one
                cases one
            | ok other =>
                rw [found] at one
                cases one
                exact BundleDefinition.nodup_load found
          · dsimp only [bind, Except.bind] at loaded
            split at loaded
            · cases loaded
              assumption
            · cases loaded

end Loading

section Keys

theorem colon_not_mem_of_isBundleName
    {name : String} (valid : Assembly.isBundleName name = true) :
    ':' ∉ name.toList := by
  have plain : ∀ character ∈ name.toList, character.isAlphanum = true ∨
      character = '_' := by
    rw [Assembly.isBundleName] at valid
    split at valid
    · cases valid
    · rename_i first rest split
      simp only [Bool.and_eq_true, List.all_eq_true, Bool.or_eq_true,
        beq_iff_eq] at valid
      rw [split]
      intro character member
      rcases List.mem_cons.mp member with rfl | later
      · simp [Char.isAlphanum, Char.isAlpha, valid.1]
      · exact valid.2 character later
  intro member
  rcases plain ':' member with alphanumeric | same
  · revert alphanumeric
    decide
  · revert same
    decide

/-- A bundle with its name in front of a colon, then any key. -/
theorem splitKey_qualified
    {bundle : Bundle} (valid : Assembly.isBundleName bundle.name = true)
    (key : String) (bundles : List Bundle) :
    splitKey (bundle.name ++ ":" ++ key) bundles = .ok (bundle.name, key) := by
  have split :=
    splitFirst?_append_cons (colon_not_mem_of_isBundleName valid) key.toList
  have written : (bundle.name ++ ":" ++ key).toList =
      bundle.name.toList ++ ':' :: key.toList := by
    simp
  unfold splitKey
  rw [written, split]
  simp only [String.ofList_toList]

/-- A key without a colon is one of the only bundle. -/
theorem splitKey_bare
    {bundle : Bundle} {key : String} (plain : ':' ∉ key.toList) :
    splitKey key [bundle] = .ok (bundle.name, key) := by
  rw [splitKey, splitFirst?_eq_none.mpr plain]

end Keys

section Parameters

/-- The last of the flags that name a parameter gives it a value, written as its
data text. -/
def Binds (flags : List String) (name : String) (value : Json) : Prop :=
  ∃ before after, flags = before ++ (name ++ "=" ++ value.text) :: after ∧
    ∀ flag ∈ after, (parameter flag).1 ≠ name

/-- No flag names a parameter. -/
def Unbound (flags : List String) (name : String) : Prop :=
  ∀ flag ∈ flags, (parameter flag).1 ≠ name

/-- A name that a flag can write: it has no equals sign, and no blanks around
it. -/
def Writable (name : String) : Prop :=
  '=' ∉ name.toList ∧ Trimmed name.toList

variable {flags : List String} {name : String} {value : Json}

theorem parameter_written
    (writable : Writable name)
    (readsBack : Json.ofText? value.text = some value) :
    parameter (name ++ "=" ++ value.text) = (name, value) := by
  have written : (name ++ "=" ++ value.text).toList =
      name.toList ++ '=' :: value.text.toList := by
    simp
  have split := splitFirst?_append_cons writable.1 value.text.toList
  unfold parameter
  rw [written, split]
  simp only [String.ofList_toList, writable.2.trimChars, readsBack,
    Option.getD_some]

theorem lookup_of_unbound (unbound : Unbound flags name) :
    (flags.map parameter).reverse.lookup name = none := by
  simp only [List.lookup_eq_none_iff, List.mem_reverse, List.mem_map,
    bne_iff_ne]
  rintro _ ⟨flag, member, rfl⟩
  exact (unbound flag member).symm

/-- The last flag of a name counts. -/
theorem lookup_of_binds
    (writable : Writable name)
    (readsBack : Json.ofText? value.text = some value)
    (binds : Binds flags name value) :
    (flags.map parameter).reverse.lookup name = some value := by
  rcases binds with ⟨before, after, rfl, later⟩
  have none := lookup_of_unbound later
  simp [List.lookup_append, none, parameter_written writable readsBack]

/-- A name that some flag names has a value. -/
theorem exists_lookup_of_not_unbound (named : ¬ Unbound flags name) :
    ∃ value, (flags.map parameter).reverse.lookup name = some value := by
  apply Option.ne_none_iff_exists'.mp
  intro nothing
  apply named
  simp only [List.lookup_eq_none_iff, List.mem_reverse, List.mem_map,
    bne_iff_ne] at nothing
  exact fun flag member same => nothing _ ⟨flag, member, rfl⟩ same.symm

variable {message : Message}

theorem argumentsFor_bound
    {given : List (String × Json)} {valueOf : String → Json}
    (bound : ∀ name ∈ message.parameters, given.reverse.lookup name =
      some (valueOf name)) :
    argumentsFor message given = .ok (message.parameters.map valueOf) := by
  rw [argumentsFor]
  generalize message.parameters = names at bound
  induction names with
  | nil => rfl
  | cons name names ih =>
      rcases List.forall_mem_cons.mp bound with ⟨first, others⟩
      rw [List.mapM_cons, first, ih others]
      rfl

/-- The first parameter without a value is the one that is missed. -/
theorem argumentsFor_missing
    {given : List (String × Json)} {before after : List String}
    (split : message.parameters = before ++ name :: after)
    (bound : ∀ other ∈ before, ∃ value, given.reverse.lookup other = some value)
    (missing : given.reverse.lookup name = none) :
    argumentsFor message given =
      .error ("missing --param " ++ name ++ "=<value>") := by
  rw [argumentsFor, split]
  clear split
  induction before with
  | nil =>
      rw [List.nil_append, List.mapM_cons, missing]
      rfl
  | cons other before ih =>
      rcases List.forall_mem_cons.mp bound with ⟨⟨value, first⟩, others⟩
      rw [List.cons_append, List.mapM_cons, first, ih others]
      rfl

/-- A parameter without a flag is preceded by one that is the first of them. -/
theorem exists_first_unbound
    {names : List String} (unbound : ∃ name ∈ names, Unbound flags name) :
    ∃ before name after, names = before ++ name :: after ∧
      (∀ other ∈ before, ¬ Unbound flags other) ∧
      Unbound flags name := by
  classical
  induction names with
  | nil => simp at unbound
  | cons first names ih =>
      by_cases here : Unbound flags first
      · exact ⟨[], first, names, rfl, by simp, here⟩
      · have later : ∃ name ∈ names, Unbound flags name := by
          rcases unbound with ⟨name, member, missing⟩
          rcases List.mem_cons.mp member with rfl | later
          · exact absurd missing here
          · exact ⟨name, later, missing⟩
        rcases ih later with ⟨before, name, after, rfl, others, missing⟩
        exact ⟨first :: before, name, after, rfl,
          List.forall_mem_cons.mpr ⟨here, others⟩, missing⟩

end Parameters

section Rendering

/-- All that `render` needs for rendering a message. -/
structure Prepared where
  catalog : Catalog
  state : EngineState
  bundle : String
  key : String
  arguments : List Json

/-- What `render` works out before anything is rendered. -/
def prepare
    (environment : Environment) (files : Files) (options : RenderOptions) :
    Except String Prepared := do
  let config ← (renderConfig environment files options).mapError
    ConfigError.message
  let (catalog, state) ← loadCatalog files options.bundles [] config
  let (bundle, key) ← splitKey options.key catalog.bundles
  match (catalog.bundle? bundle).bind fun found => found.byKey? key with
  | none => .error ("no message '" ++ key ++ "' in bundle '" ++ bundle ++ "'")
  | some message =>
    let arguments ← argumentsFor message options.parameters
    .ok { catalog, state, bundle, key, arguments }

/-- How a run ends that writes a message. -/
def Outcome.ofMessage : Except BundleError String → Outcome
  | .ok text => .success (text ++ "\n")
  | .error error => .failed error.message

/-- The message of a catalog that `render` is asked for: the bundles load, and
the key is written behind the name of its bundle, or alone if there is no other
bundle and the key has no colon. -/
structure Asks
    (environment : Environment) (files : Files) (options : RenderOptions)
    (catalog : Catalog)
    (state : EngineState) (bundle : Bundle) (key : String) (message : Message) :
    Prop where
  loads : ∃ config, renderConfig environment files options = .ok config ∧
    loadCatalog files options.bundles [] config = .ok (catalog, state)
  member : bundle ∈ catalog.bundles
  found : bundle.byKey? key = some message
  written : options.key = bundle.name ++ ":" ++ key ∨
    catalog.bundles = [bundle] ∧ options.key = key ∧ ':' ∉ key.toList

variable {environment : Environment} {files : Files} {options : RenderOptions}
  {catalog : Catalog}
  {state : EngineState} {bundle : Bundle} {key : String} {message : Message}

/-- Rendering comes after the preparation, and fails without it. -/
theorem render_eq_prepare
    (environment : Environment) (files : Files) (options : RenderOptions) :
    render environment files options =
      prepare environment files options >>= fun prepared =>
        (prepared.catalog.message prepared.bundle options.locale prepared.key
          prepared.arguments
          prepared.state).1.mapError BundleError.message := by
  rw [render, prepare]
  cases (renderConfig environment files options).mapError
      ConfigError.message with
  | error failure => rfl
  | ok config =>
      cases loaded : loadCatalog files options.bundles [] config with
      | error failure => simp [bind, Except.bind, loaded]
      | ok loaded' =>
          cases split : splitKey options.key loaded'.1.bundles with
          | error failure => simp [bind, Except.bind, loaded, split]
          | ok named =>
              cases found : (loaded'.1.bundle? named.1).bind fun found =>
                found.byKey? named.2 with
              | none => simp [bind, Except.bind, loaded, split, found]
              | some message =>
                  cases gathered : argumentsFor message options.parameters with
                  | error failure =>
                      simp [bind, Except.bind, loaded, split, found, gathered]
                  | ok arguments =>
                      simp [bind, Except.bind, loaded, split, found, gathered]

/-- A message that is asked for is prepared once its arguments are there. -/
theorem prepare_asked
    (asks : Asks environment files options catalog state bundle key message) :
    prepare environment files options =
      (argumentsFor message options.parameters).map fun arguments =>
        ⟨catalog, state, bundle.name, key, arguments⟩ := by
  rcases asks.loads with ⟨config, configured, loaded⟩
  rcases exists_build loaded with ⟨definitions, sources, distinct, built⟩
  have valid := Catalog.isBundleName_of_mem built distinct asks.member
  have named := Catalog.bundle?_of_mem built distinct asks.member
  have split : splitKey options.key catalog.bundles =
      .ok (bundle.name, key) := by
    rcases asks.written with qualified | ⟨only, bare, plain⟩
    · rw [qualified, splitKey_qualified valid]
    · rw [only, bare, splitKey_bare plain]
  have found : (catalog.bundle? bundle.name).bind (fun found =>
    found.byKey? key) = some message := by
    rw [named, Option.bind_some, asks.found]
  cases gathered : argumentsFor message options.parameters with
  | error failure =>
      simp [prepare, configured, Except.mapError, bind, Except.bind, loaded,
        split, found, gathered, Except.map]
  | ok arguments =>
      simp [prepare, configured, Except.mapError, bind, Except.bind, loaded,
        split, found, gathered, Except.map]

/-- A run of `render` that is prepared writes what the message comes to. -/
theorem run_prepared
    {prepared : Prepared}
    (ready : prepare environment files options = .ok prepared) :
    (Command.render options).run environment files =
      .ofMessage
        (prepared.catalog.message prepared.bundle options.locale prepared.key
          prepared.arguments
        prepared.state).1 := by
  rw [Command.run, render_eq_prepare, ready]
  cases written :
      (prepared.catalog.message prepared.bundle options.locale prepared.key
        prepared.arguments
      prepared.state).1 with
  | ok text =>
      simp [bind, Except.bind, Except.mapError, written, Outcome.ofMessage]
  | error error =>
      simp [bind, Except.bind, Except.mapError, written, Outcome.ofMessage]

theorem run_unprepared
    {failure : String}
    (fails : prepare environment files options = .error failure) :
    (Command.render options).run environment files = .failed failure := by
  rw [Command.run, render_eq_prepare, fails]
  rfl

theorem mem_valuesOf {option : OptionName} {given : List (OptionName × String)}
    {value : String} :
    value ∈ valuesOf option given ↔ (option, value) ∈ given := by
  simp only [valuesOf, List.mem_filterMap]
  constructor
  · rintro ⟨⟨other, given⟩, member, same⟩
    split_ifs at same with named
    cases same
    exact named ▸ member
  · intro member
    exact ⟨_, member, if_pos rfl⟩

theorem parameters_renderOptions? {given : List (OptionName × String)}
    (asked : renderOptions? given = some options) :
    options.parameters = (valuesOf .param given).map parameter := by
  simp only [renderOptions?, Option.bind_eq_bind, Option.bind_eq_some_iff]
    at asked
  rcases asked with ⟨key, -, asked⟩
  split_ifs at asked
  cases asked
  rfl

/-- The command line binds parameters by name.  Let the options of `render` be
written in any way and any order, each option that must not be repeated once,
and let them ask for a message of the bundles that they load.

Where the last flag for each declared parameter gives it a value, in any order,
among flags for other names and after earlier flags for the same name, the run
ends as rendering the message with the values in the declared order does.  Where
some declared parameter has no flag, the first such parameter is reported and
nothing is rendered, whatever the other flags are; and a flag without an equals
sign ends the program before anything is read. -/
theorem parameters_bound_by_name
    {given : List (OptionName × String)} {arguments : List String}
    (writes : Writes given arguments) (orderly : Orderly renderNames given)
    (accepted : ∀ one ∈ given, one.1 ≠ .param → one.1.accepts one.2 = true)
    (asked : renderOptions? given = some options)
    (asks : Asks environment files options catalog state bundle key message) :
    (∀ valueOf : String → Json,
      (∀ flag ∈ valuesOf .param given, flag.contains '=' = true) →
      (∀ name ∈ message.parameters, Writable name ∧
        Json.ofText? (valueOf name).text = some (valueOf name) ∧
        Binds (valuesOf .param given) name (valueOf name)) →
      run environment files ("render" :: arguments) =
        .ofMessage
          (catalog.message bundle.name options.locale key
            (message.parameters.map valueOf) state).1) ∧
    ((∃ name ∈ message.parameters, Unbound (valuesOf .param given) name) →
      (∀ flag ∈ valuesOf .param given, flag.contains '=' = true) →
      ∃ before name after, message.parameters = before ++ name :: after ∧
        (∀ other ∈ before, ¬ Unbound (valuesOf .param given) other) ∧
          Unbound (valuesOf .param given) name ∧
        prepare environment files options =
          .error ("missing --param " ++ name ++ "=<value>") ∧
        run environment files ("render" :: arguments) =
          .failed ("missing --param " ++ name ++ "=<value>")) ∧
    ((∃ flag ∈ valuesOf .param given, flag.contains '=' = false) →
      run environment files ("render" :: arguments) = ⟨2, "", none⟩) := by
  have written := parameters_renderOptions? asked
  have runs (separated : ∀ flag ∈ valuesOf .param given,
      flag.contains '=' = true) :
      run environment files ("render" :: arguments) =
          (Command.render options).run environment files := by
    apply run_written writes orderly _ asked
    rintro ⟨option, value⟩ member
    by_cases named : option = .param
    · subst named
      exact separated value (mem_valuesOf.mpr member)
    · exact accepted _ member named
  refine ⟨?bound, ?missing, ?unseparated⟩
  case bound =>
    intro valueOf separated bound
    have gathered : argumentsFor message options.parameters =
        .ok (message.parameters.map valueOf) := by
      apply argumentsFor_bound
      intro name declared
      rcases bound name declared with ⟨writable, readsBack, binds⟩
      rw [written]
      exact lookup_of_binds writable readsBack binds
    have ready := prepare_asked asks
    rw [gathered] at ready
    rw [runs separated, run_prepared ready]
  case missing =>
    intro unbound separated
    rcases exists_first_unbound unbound with
      ⟨before, name, after, split, bound, missing⟩
    have gathered : argumentsFor message options.parameters =
        .error ("missing --param " ++ name ++ "=<value>") := by
      apply argumentsFor_missing split
      · intro other member
        rw [written]
        exact exists_lookup_of_not_unbound (bound other member)
      · rw [written]
        exact lookup_of_unbound missing
    have fails := prepare_asked asks
    rw [gathered] at fails
    exact ⟨before, name, after, split, bound, missing, fails,
      (runs separated).trans (run_unprepared fails)⟩
  case unseparated =>
    rintro ⟨flag, member, unseparated⟩
    exact run_refused writes ⟨_, mem_valuesOf.mp member, unseparated⟩
      environment files

/-- One file with a bundle of one message. -/
def greetingFiles : Files := fun path =>
  if path = "b.json" then
    .text ("\x7b\"bundle\":\"m\",\"messages\":\x7b\"hello\":" ++
      "\x7b\"template\":\"\x7bq\x7d, \x7bp\x7d!\"," ++
      "\"params\":[\"p\",\"q\"]\x7d\x7d\x7d")
  else .absent

def greetingDefinition : BundleDefinition :=
  ⟨"m", none, false, .elementName,
    [("hello", ⟨"\x7bq\x7d, \x7bp\x7d!", ["p", "q"], none⟩)]⟩

def greetingMessage :
    Message := ⟨"hello", "hello", ["p", "q"], .template "m_hello", []⟩

def greetingBundle : Bundle := ⟨"m", none, [], [greetingMessage]⟩

/-- The parameters in the other order. -/
def greetingTemplate : Template :=
  let placeholder (name : String) : TemplateNode :=
    .placeholder (.path none [.property name] ⟨"m_hello", 1⟩)
  ⟨"m_hello", "1", [placeholder "q", .text ", ", placeholder "p", .text "!"]⟩

def greetingState : EngineState :=
  ⟨⟨[("m_hello", greetingTemplate)], 1⟩, [.registeredTemplate "m_hello"]⟩

/-- An environment that says nothing about settings. -/
def quietEnvironment : Environment := ⟨none, none, none, "/"⟩

def greetingOptions : List (OptionName × String) :=
  [(.bundle, "b.json"), (.param, "p=false"), (.key, "hello"),
    (.param, "q=\"Ada\""), (.param, "r=[1"),
    (.param, "p=true")]

def greetingCatalog : Catalog :=
  ⟨(engine {}).addNamespace greetingBundle.namespaceResolver, [greetingBundle]⟩

/-- A name of one letter is an expression: no keyword is that short. -/
theorem letter_valid
    {name : Grammar.Name} {letter : Char} (spelled : name.characters = [letter])
    (starts : Expression.Parser.startsNumeral letter = false) :
    (Grammar.Tree.path none name .done).Valid := by
  have leads : name.Leads := by
    rw [Grammar.Name.Leads, spelled]
    exact Grammar.stops_cons starts
  refine ⟨leads, ?_, trivial⟩
  rintro - - word rfl
  have short : word.name.characters.length = 1 := congrArg List.length spelled
  revert short
  cases word <;> decide

/-- Either letter in braces is a placeholder, and what is between and behind
them is text. -/
theorem parse_greeting :
    TemplateNode.parse "m_hello" "\x7bq\x7d, \x7bp\x7d!" =
      .ok greetingTemplate.nodes := by
  let q : Grammar.Name := ⟨['q'], nofun, List.forall_mem_singleton.mpr rfl⟩
  let p : Grammar.Name := ⟨['p'], nofun, List.forall_mem_singleton.mpr rfl⟩
  have validQ : (Grammar.Tree.path none q .done).Valid := letter_valid rfl rfl
  have validP : (Grammar.Tree.path none p .done).Valid := letter_valid rfl rfl
  have plain (character : Char) (escapes : character ≠ '\\')
      (opens : character ≠ '\x7b') (rest : List Char) :
      (Segmentation.TextItem.plain character).Fits rest.head? :=
    ⟨fun same => absurd same escapes, fun same => absurd same opens⟩
  show TemplateNode.ofSource "m_hello" 1 []
    ('\x7b' :: ((Grammar.Tree.path none q .done).text ++ '\x7d' :: ',' :: ' ' ::
      '\x7b' :: ((Grammar.Tree.path none p .done).text ++ '\x7d' :: ['!']))) = _
  rw [Grammar.ofSource_tree validQ,
    Segmentation.ofSource_plain (plain ',' (by decide) (by decide) _),
    Segmentation.ofSource_plain (plain ' ' (by decide) (by decide) _),
    Grammar.ofSource_tree validP,
    Segmentation.ofSource_plain (plain '!' (by decide) (by decide) _),
    TemplateNode.ofSource]
  rfl

theorem load_greeting :
    loadCatalog greetingFiles ["b.json"] [] {} =
      .ok (greetingCatalog, greetingState.log (.builtBundles 1 1)) := by
  have lower : "json".toLower = "json" := by cbv
  have extension : Path.extension? "b.json" = some "json" := by
    rw [Path.extension?]
    change some ("json".toLower) = some "json"
    rw [lower]
  have parsed : BundleDefinition.load greetingFiles "b.json" =
      .ok greetingDefinition := by
    rw [BundleDefinition.load]
    change (BundleDefinition.parseFile "b.json" _).mapError _ = _
    rw [BundleDefinition.parseFile, extension]
    rfl
  have assembled :
      Assembly.ofDefinitions [greetingDefinition] =
        .ok ⟨[greetingBundle], [("m_hello", "\x7bq\x7d, \x7bp\x7d!")]⟩ := by
    cbv
  have registered :
      EngineState.empty.registerAll ([("m_hello", "\x7bq\x7d, \x7bp\x7d!")] ++
          []) = (.ok (), greetingState) := by
    rw [List.append_nil, EngineState.registerAll, EngineState.register,
      Registry.register]
    dsimp only [Registry.issue, Registry.parseAs]
    rw [parse_greeting]
    rfl
  have built :
      Catalog.build [greetingDefinition] [] (engine {}) .empty =
        (.ok greetingCatalog, greetingState.log (.builtBundles 1 1)) := by
    rw [Catalog.build, assembled]
    dsimp only
    rw [registered]
    rfl
  rw [loadCatalog, loadDefinitions, List.mapM_cons, parsed]
  dsimp only [List.mapM_nil, Except.mapError, bind, Except.bind, pure,
    Except.pure, loadTemplates]
  rw [built]

/-- The message renders alike in every locale. -/
theorem message_greeting (locale : Option String) :
    (greetingCatalog.message "m" locale "hello" [.bool true, .string "Ada"]
      (greetingState.log (.builtBundles 1 1))).1 = .ok "Ada, true!" := by
  have noMappers : greetingCatalog.engine.mappers = [] := List.mergeSort_nil
  have plain : greetingCatalog =
      ⟨⟨greetingCatalog.engine.resolvers, greetingCatalog.engine.namespaces, [],
          [], {}⟩, [greetingBundle]⟩ := by
    rw [← noMappers]
    rfl
  rw [plain]
  -- Both parameters are explicit data, so no resolver is asked.
  generalize greetingCatalog.engine.resolvers = resolvers,
    greetingCatalog.engine.namespaces = namespaces
  cases locale <;> rfl

theorem greeting_asked :
    ∃ options, renderOptions? greetingOptions = some options ∧
      Asks quietEnvironment greetingFiles options greetingCatalog
        (greetingState.log (.builtBundles 1 1))
        greetingBundle "hello" greetingMessage :=
  ⟨_, rfl, ⟨{}, rfl, load_greeting⟩, List.mem_singleton_self _, rfl,
    .inr ⟨rfl, rfl, by decide⟩⟩

/-- Of two values for one parameter the later one counts, and a flag for no
parameter is left alone. -/
theorem greeting_bound_by_name :
    run quietEnvironment greetingFiles
        ["render", "--bundle=b.json", "--param", "p=false", "--key", "hello",
          "--param=q=\"Ada\"",
          "--param=r=[1", "--param", "p=true"] =
      .success "Ada, true!\n" := by
  rcases greeting_asked with ⟨options, asked, asks⟩
  have writes : Writes greetingOptions
      ["--bundle=b.json", "--param", "p=false", "--key", "hello",
        "--param=q=\"Ada\"", "--param=r=[1", "--param",
        "p=true"] :=
    .joined .bundle "b.json" (.apart .param rfl (.apart .key rfl
      (.joined .param "q=\"Ada\""
        (.joined .param "r=[1" (.apart .param rfl .nil)))))
  have orderly : Orderly renderNames greetingOptions := ⟨by decide, by decide⟩
  have flags : valuesOf .param greetingOptions =
      ["p=false", "q=\"Ada\"", "r=[1", "p=true"] := rfl
  have separated : ∀ flag ∈ valuesOf .param greetingOptions,
      flag.contains '=' = true := by
    rw [flags]
    simp only [List.mem_cons, List.not_mem_nil, or_false]
    rintro flag (rfl | rfl | rfl | rfl) <;> cbv
  let valueOf (name : String) : Json := if name = "p" then .bool true
    else .string "Ada"
  have first : valueOf "p" = .bool true := if_pos rfl
  have second : valueOf "q" = .string "Ada" := if_neg (by decide)
  have binds : ∀ name ∈ greetingMessage.parameters, Writable name ∧
      Json.ofText? (valueOf name).text = some (valueOf name) ∧
        Binds (valuesOf .param greetingOptions) name (valueOf name) := by
    refine List.forall_mem_cons.mpr ⟨?_, List.forall_mem_singleton.mpr ?_⟩
    · rw [first]
      exact ⟨⟨by decide, by decide⟩, rfl, ["p=false", "q=\"Ada\"", "r=[1"], [],
        rfl, by simp⟩
    · rw [second]
      refine ⟨⟨by decide, by decide⟩, rfl, ["p=false"], ["r=[1", "p=true"],
        rfl, ?_⟩
      intro flag member
      rcases List.mem_pair.mp member with rfl | rfl <;> decide
  have bound :=
    (parameters_bound_by_name writes orderly (by decide) asked asks).1 valueOf
      separated binds
  have values : greetingMessage.parameters.map valueOf =
      [.bool true, .string "Ada"] := by
    rw [← first, ← second]
    rfl
  rw [bound, values]
  exact congrArg Outcome.ofMessage (message_greeting options.locale)

end Rendering

end CommandLine

end Phrasebook
