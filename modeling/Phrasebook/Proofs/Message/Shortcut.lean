import Phrasebook.Catalog
import Phrasebook.Proofs.Completion.Round
import Phrasebook.Proofs.Registry
import Phrasebook.Proofs.Strictness.Render
import Phrasebook.Proofs.Template.Segmentation

/-!
# Messages without a closing brace

A message without a closing brace is kept as fixed text and never parsed.
Registered and rendered as a template it would come to the same text exactly
when no backslash stands before an opening brace and no opening brace before a
character that a placeholder can start with: the backslashes before opening
braces would be dropped, and a placeholder that nothing closes would be an
error.
-/

namespace Phrasebook

namespace Segmentation

open Grammar (taken?)
open TemplateNode (content? ofSource opensBefore)
open Text (isAsciiBlank)

/-- A text with each backslash dropped that stands before an opening brace. -/
def withoutEscapes : List Char → List Char
  | [] => []
  | character :: rest =>
    if character = '\\' ∧ rest.head? = some '\x7b' then withoutEscapes rest
    else character :: withoutEscapes rest

/-- A backslash stands before an opening brace. -/
def HasEscape (text : List Char) : Prop :=
  ['\\', '\x7b'] <:+: text

/-- An opening brace stands before a character that is neither an ASCII blank
nor an opening brace. -/
def HasOpening (text : List Char) : Prop :=
  ∃ next, ['\x7b', next] <:+: text ∧ isAsciiBlank next = false ∧ next ≠ '\x7b'

/-- Behind some characters of a text stands such an opening brace, and no
backslash before it. -/
def OpensAfter (text before : List Char) : Prop :=
  ∃ next after, text = before ++ '\x7b' :: next :: after ∧
    before.getLast? ≠ some '\\' ∧
    isAsciiBlank next = false ∧ next ≠ '\x7b'

theorem length_withoutEscapes_le (text : List Char) :
    (withoutEscapes text).length ≤ text.length := by
  induction text with
  | nil => exact le_rfl
  | cons character text ih =>
      rw [withoutEscapes]
      split_ifs
      · exact ih.trans (Nat.le_succ _)
      · exact Nat.succ_le_succ ih

theorem hasEscape_cons (character : Char) (text : List Char) :
    HasEscape (character :: text) ↔
      (character = '\\' ∧ text.head? = some '\x7b') ∨ HasEscape text := by
  rw [HasEscape, List.infix_cons_iff, List.cons_prefix_cons, HasEscape]
  refine or_congr_left (and_congr eq_comm ?_)
  cases text with
  | nil => simp
  | cons next text => simp [eq_comm]

/-- Dropping backslashes leaves a text as it is exactly when it has none before
an opening brace. -/
theorem withoutEscapes_eq_self_iff (text : List Char) :
    withoutEscapes text = text ↔ ¬ HasEscape text := by
  induction text with
  | nil =>
      exact iff_of_true rfl
        (by rw [HasEscape, List.infix_nil]; exact List.cons_ne_nil _ _)
  | cons character text ih =>
      rw [withoutEscapes, hasEscape_cons, not_or, ← ih]
      split_ifs with escape
      · refine iff_of_false ?_ fun both => both.1 escape
        intro same
        have shorter := length_withoutEscapes_le text
        rw [same, List.length_cons] at shorter
        omega
      · rw [List.cons_inj_right]
        exact (and_iff_right escape).symm

section Runs

variable {run : List TextItem} {rest : List Char}

/-- What a run contributes is its text without the backslashes before opening
braces. -/
theorem withoutEscapes_run (fits : RunFits none run) :
    withoutEscapes (runText run) = runCharacters run := by
  induction run with
  | nil => rfl
  | cons item run ih =>
      rcases fits with ⟨first, others⟩
      rw [Option.or_none] at first
      have characters : runCharacters (item :: run) =
          item.character :: runCharacters run := List.map_cons
      rw [runText_cons, characters, ← ih others]
      cases item with
      | plain character =>
          exact if_neg fun escape => first.1 escape.1 escape.2
      | brace => rfl

/-- A run before an opening brace does not end in a backslash. -/
theorem getLast?_run (fits : RunFits (some '\x7b') run) :
    (runText run).getLast? ≠ some '\\' := by
  induction run with
  | nil => exact nofun
  | cons item run ih =>
      rcases fits with ⟨first, others⟩
      rw [runText_cons, List.getLast?_append]
      cases last : (runText run).getLast? with
      | some character =>
          rw [Option.some_or, ← last]
          exact ih others
      | none =>
          rw [Option.none_or]
          rw [List.getLast?_eq_none_iff.mp last, List.head?_nil,
            Option.none_or] at first
          cases item with
          | plain character =>
              exact fun backslash => first.1 (Option.some.inj backslash) rfl
          | brace => exact nofun

/-- An opening brace that is inside a run and before a character that a
placeholder can start with has a backslash before it. -/
theorem escaped_of_run
    (fits : RunFits rest.head? run) {before after : List Char} {next : Char}
    (split : runText run ++ rest = before ++ '\x7b' :: next :: after)
    (starts : opensBefore next = true)
    (inside : before.length < (runText run).length) :
    before.getLast? = some '\\' := by
  induction run generalizing before with
  | nil => exact absurd inside (Nat.not_lt_zero _)
  | cons item run ih =>
      rcases fits with ⟨first, others⟩
      rw [← List.head?_append] at first
      rw [runText_cons, List.length_append] at inside
      rw [runText_cons_append] at split
      -- The brace is in what the item leaves over, and the backslash with it.
      have later {passed : List Char}
          (behind : runText run ++ rest = passed ++ '\x7b' :: next :: after)
          (shorter : passed.length < (runText run).length) (front : List Char) :
          (front ++ passed).getLast? = some '\\' := by
        rw [List.getLast?_append, ih others behind shorter, Option.some_or]
      cases item with
      | plain character =>
          cases before with
          | nil =>
              rcases List.cons.inj split with
                ⟨rfl, (behind : runText run ++ rest = next :: after)⟩
              have stays := first.2 rfl next (by rw [behind]; rfl)
              rw [starts] at stays
              cases stays
          | cons _ passed =>
              rcases List.cons.inj split with ⟨rfl, behind⟩
              simp only [TextItem.text, List.length_cons, List.length_nil]
                at inside
              exact later behind (by omega) [character]
      | brace =>
          match before with
          | [] => cases (List.cons.inj split).1
          | [one] =>
              rcases (List.cons.inj split).1 with rfl
              rfl
          | one :: two :: passed =>
              rcases List.cons.inj split with ⟨rfl, more⟩
              rcases List.cons.inj more with ⟨rfl, behind⟩
              simp only [TextItem.text, List.length_cons, List.length_nil]
                at inside
              exact later behind (by omega) ['\\', '\x7b']

/-- The node of a run is the text that the run contributes. -/
theorem exists_texts (run : List TextItem) :
    ∃ texts : List String,
      runNodes run = texts.map .text ∧ String.join texts =
        String.ofList (runCharacters run) := by
  cases run with
  | nil => exact ⟨[], rfl, rfl⟩
  | cons item run =>
      exact ⟨[String.ofList (runCharacters (item :: run))], rfl,
        String.empty_append⟩

end Runs

section Unclosed

variable {source : String} (unclosed : '\x7d' ∉ source.toList)

include unclosed

theorem opensBefore_iff {next : Char} (member : next ∈ source.toList) :
    opensBefore next = true ↔ isAsciiBlank next = false ∧ next ≠ '\x7b' := by
  have open_ : next ≠ '\x7d' := fun closing => unclosed (closing ▸ member)
  simp [opensBefore, open_]

/-- Without a closing brace a source is one run, or a run before a placeholder
that has no end. -/
theorem parse_unclosed (id : String) :
    ∃ run text, source.toList = runText run ++ text ∧ RunFits text.head? run ∧
      Breaks text ∧
      TemplateNode.parse id source =
        if text = [] then .ok (runNodes run)
          else .error (lineAfter (runText run), .unterminated) := by
  rcases exists_run source.toList with ⟨run, text, split, fits, breaks⟩
  refine ⟨run, text, split, fits, breaks, ?_⟩
  rw [TemplateNode.parse, split, ofSource_run fits]
  cases breaks with
  | finished => exact ofSource_end run
  | @opens text opens =>
      refine (ofSource_unterminated opens ?_).trans
        (if_neg (List.cons_ne_nil _ _)).symm
      cases found : taken? (content? none text) with
      | none => rfl
      | some one =>
          rcases content?_iff.mp found with ⟨inside, -, -, closed⟩
          refine (unclosed ?_).elim
          rw [split, closed]
          simp

theorem opensAfter_run
    {run : List TextItem} {text : List Char}
    (split : source.toList = runText run ++ '\x7b' :: text)
    (fits : RunFits (some '\x7b') run) (opens : Opens text) :
    OpensAfter source.toList (runText run) := by
  rcases opens with ⟨next, after, rfl, starts⟩
  have member : next ∈ source.toList := by
    rw [split]
    simp
  exact ⟨next, after, split, getLast?_run fits,
    (opensBefore_iff unclosed member).mp starts⟩

/-- The first opening brace that starts a placeholder is the error of a source
without closing braces. -/
theorem parse_of_opensAfter
    (id : String) {before : List Char}
    (opens : OpensAfter source.toList before) :
    ∃ first, first <+: before ∧ OpensAfter source.toList first ∧
      TemplateNode.parse id source =
        .error (lineAfter first, .unterminated) := by
  rcases parse_unclosed unclosed id with
    ⟨run, text, split, fits, breaks, parsed⟩
  rcases opens with ⟨next, after, opening, unescaped, starts⟩
  have member : next ∈ source.toList := by
    rw [opening]
    simp
  have both := split.symm.trans opening
  have longer : (runText run).length ≤ before.length := by
    by_contra inside
    exact unescaped
      (escaped_of_run fits both ((opensBefore_iff unclosed member).mpr starts)
      (Nat.lt_of_not_le inside))
  have front : runText run <+: before :=
    List.prefix_of_prefix_length_le ⟨text, both⟩ ⟨_, rfl⟩ longer
  cases breaks with
  | finished =>
      have lengths := congrArg List.length both
      simp only [List.append_nil, List.length_append, List.length_cons]
        at lengths
      omega
  | opens opens =>
      exact ⟨runText run, front,
        opensAfter_run unclosed split fits opens, parsed⟩

/-- A source without closing braces in which nothing starts a placeholder is one
text. -/
theorem parse_of_no_opening
    (id : String) (none : ∀ before, ¬ OpensAfter source.toList before) :
    ∃ texts :
    List String, TemplateNode.parse id source = .ok (texts.map .text) ∧
      String.join texts = String.ofList (withoutEscapes source.toList) := by
  rcases parse_unclosed unclosed id with
    ⟨run, text, split, fits, breaks, parsed⟩
  cases breaks with
  | finished =>
      rcases exists_texts run with ⟨texts, nodes, join⟩
      rw [List.append_nil] at split
      refine ⟨texts, parsed.trans (congrArg _ nodes), ?_⟩
      rw [join, split, withoutEscapes_run fits]
  | opens opens =>
      exact (none _ (opensAfter_run unclosed split fits opens)).elim

end Unclosed

/-- Where something starts a placeholder and nothing is escaped, some opening
brace starts one. -/
theorem exists_opensAfter
    {text : List Char} (opening : HasOpening text) (plain : ¬ HasEscape text) :
    ∃ before, OpensAfter text before := by
  rcases opening with ⟨next, ⟨before, after, split⟩, starts⟩
  rw [List.append_assoc] at split
  refine ⟨before, next, after, split.symm, ?_, starts⟩
  intro escaped
  rcases List.getLast?_eq_some_iff.mp escaped with ⟨passed, rfl⟩
  refine plain ⟨passed, next :: after, ?_⟩
  rw [← split]
  simp

theorem OpensAfter.hasOpening
    {text before : List Char} (opens : OpensAfter text before) :
    HasOpening text := by
  rcases opens with ⟨next, after, rfl, -, starts⟩
  exact ⟨next, ⟨before, after, by simp⟩, starts⟩

end Segmentation

namespace Engine

/-- An instance of a template that is made ready for a render. -/
structure Preparation where
  prepare : Template → EngineState → Instance × EngineState
  keeps : ∀ template state, (prepare template state).1.template = template

variable (engine : Engine)

/-- Texts are started as constants. -/
theorem startNodes_texts
    (evaluator : Evaluator) (texts : List String) (scene : Scene) :
    evaluator.startNodes (texts.map .text) scene =
      ((texts.map .constant).map fun node => .ready (.ok node), scene) := by
  induction texts with
  | nil => rfl
  | cons text texts ih =>
      have first : evaluator.startNode (.text text) scene =
          (.ready (.ok (.constant text)), scene) := rfl
      rw [List.map_cons, Evaluator.startNodes, first]
      dsimp only
      rw [ih]
      rfl

theorem writeAll_constants
    (config : Config) (mappers : List Mapper) (written : String)
    (texts : List String) (state : EngineState) :
    Mapper.writeAll config mappers written (texts.map .constant) state =
      (.ok (texts.foldl (· ++ ·) written), state) := by
  induction texts generalizing written with
  | nil => rfl
  | cons text texts ih => exact ih (written ++ text)

/-- A template of texts is rendered to them, whatever the data and the mappers
are. -/
theorem renderBlocking_texts
    {target : Instance} {texts : List String}
    (nodes : target.template.nodes = texts.map .text) (state : EngineState) :
    (engine.renderBlocking target state).1 = .ok (String.join texts) := by
  have resolved : ∃ scene, engine.resolved target state =
      (some (.ok (texts.map .constant)), scene) := by
    rw [Engine.resolved, Evaluator.resolveNodes, nodes, startNodes_texts]
    dsimp only
    rw [Completion.all_ready_values, Completion.driven_ready]
    exact ⟨_, rfl⟩
  rcases resolved with ⟨scene, resolved⟩
  rw [renderBlocking_eq_write, resolved]
  dsimp only
  rw [writeAll_constants]
  rfl

/-- What comes of a source that is registered under an id and rendered in an
instance. -/
def renderSource
    (preparation : Preparation) (id source : String) (state : EngineState) :
    Except EngineError String :=
  match state.register id source with
  | (.error error, _) => .error error
  | (.ok template, state) =>
    let (target, state) := preparation.prepare template state
    (engine.renderBlocking target state).1

variable (preparation : Preparation) {id source : String} {state : EngineState}

theorem renderSource_of_error
    {line : Nat} {error : PlaceholderError}
    (parsed : TemplateNode.parse id source = .error (line, error)) :
    engine.renderSource preparation id source state =
      .error (.parse id line error) := by
  simp [renderSource, EngineState.register, Registry.register,
    Registry.parseAs, parsed]

theorem renderSource_of_texts
    {texts : List String}
    (parsed : TemplateNode.parse id source = .ok (texts.map .text)) :
    engine.renderSource preparation id source state =
      .ok (String.join texts) := by
  rcases EngineState.exists_register parsed state with
    ⟨template, state', registered⟩
  have nodes : template.nodes = texts.map .text :=
    Except.ok.inj ((EngineState.register_ok registered).2.1.symm.trans parsed)
  rw [renderSource, registered]
  exact engine.renderBlocking_texts (by rw [preparation.keeps, nodes]) _

end Engine

theorem Body.ofSource_unclosed
    {source : String} (unclosed : '\x7d' ∉ source.toList) (id : String) :
    Body.ofSource id source = .constant source := by
  rw [Body.ofSource, String.contains_char_eq, if_neg (by simpa using unclosed)]

/-- A fixed message is its text. -/
theorem Catalog.message_constant
    {catalog : Catalog} {bundle key text : String} {locale : Option String}
    {arguments : List Json} {found : Bundle} {message : Message}
    (named : catalog.bundle? bundle = some found)
    (keyed : found.byKey? key = some message)
    (counted : message.parameters.length = arguments.length)
    (body : message.body locale = .constant text) (state : EngineState) :
    catalog.message bundle locale key arguments state = (.ok text, state) := by
  rw [Catalog.message, named]
  dsimp only
  rw [keyed]
  dsimp only
  rw [if_neg (not_not_intro counted), body]

open Segmentation (HasEscape HasOpening OpensAfter withoutEscapes lineAfter)

/--
A message without a closing brace is fixed text.  Whatever its id, the engine,
the state and the instance are, registering and rendering it comes to the same
text exactly when no backslash stands before an opening brace and no opening
brace before a character that is neither an ASCII blank nor an opening brace.
Where such an opening brace is not escaped, the first one is a placeholder
without an end; otherwise the text is the message without the backslashes before
opening braces.
-/
theorem renderSource_eq_constant_iff
    {source : String} (unclosed : '\x7d' ∉ source.toList) (engine : Engine)
    (preparation : Engine.Preparation) (id : String) (state : EngineState) :
    (Body.ofSource id source = .constant source ∧
      ∀ (catalog : Catalog) (bundle key : String) (locale : Option String)
        (arguments : List Json)
        (found : Bundle) (message : Message),
          catalog.bundle? bundle = some found →
          found.byKey? key = some message →
            message.parameters.length = arguments.length →
            message.body locale = Body.ofSource id source →
              catalog.message bundle locale key arguments state =
                (.ok source, state)) ∧
    (engine.renderSource preparation id source state = .ok source ↔
      ¬ HasEscape source.toList ∧ ¬ HasOpening source.toList) ∧
    (∀ before, OpensAfter source.toList before →
      ∃ first, first <+: before ∧ OpensAfter source.toList first ∧
        engine.renderSource preparation id source state =
          .error (.parse id (lineAfter first) .unterminated)) ∧
    ((∀ before, ¬ OpensAfter source.toList before) →
      engine.renderSource preparation id source state =
        .ok (String.ofList (withoutEscapes source.toList))) := by
  have constant := Body.ofSource_unclosed unclosed id
  have failing : ∀ before, OpensAfter source.toList before →
      ∃ first, first <+: before ∧ OpensAfter source.toList first ∧
        engine.renderSource preparation id source state =
          .error (.parse id (lineAfter first) .unterminated) := by
    intro before opens
    rcases Segmentation.parse_of_opensAfter unclosed id opens with
      ⟨first, front, starts, parsed⟩
    exact ⟨first, front, starts,
      engine.renderSource_of_error preparation parsed⟩
  have written : (∀ before, ¬ OpensAfter source.toList before) →
      engine.renderSource preparation id source state =
        .ok (String.ofList (withoutEscapes source.toList)) := by
    intro none
    rcases Segmentation.parse_of_no_opening unclosed id none with
      ⟨texts, parsed, join⟩
    rw [engine.renderSource_of_texts preparation parsed, join]
  refine ⟨⟨constant, ?fixed⟩, ?same, failing, written⟩
  case fixed =>
    intro catalog bundle key locale arguments found message named keyed
      counted body
    exact Catalog.message_constant named keyed counted
      (body.trans constant) state
  case same =>
    by_cases opens : ∃ before, OpensAfter source.toList before
    · rcases opens with ⟨before, opens⟩
      rcases failing before opens with ⟨first, -, -, failed⟩
      rw [failed]
      exact iff_of_false nofun fun plain => plain.2 opens.hasOpening
    · have none := not_exists.mp opens
      have closed : ¬ HasEscape source.toList → ¬ HasOpening source.toList :=
        fun plain opening =>
          opens (Segmentation.exists_opensAfter opening plain)
      rw [written none, Except.ok.injEq, ← String.toList_inj,
        String.toList_ofList, Segmentation.withoutEscapes_eq_self_iff]
      exact (and_iff_left_of_imp closed).symm

/-- A new instance with the given values. -/
def Engine.Preparation.withData (data : List (String × Json)) :
    Engine.Preparation where
  prepare template state :=
    (({ template } : Instance).updateBindings (Bindings.setAll data), state)
  keeps _ _ := rfl

/-- An engine without resolvers and mappers. -/
def bareEngine : Engine :=
  .build [] [] [] [] {}

/-- A brace that is escaped and never closed loses its backslash on the way
through a template. -/
theorem escapedName_loses_backslash :
    '\x7d' ∉ "\\\x7bname".toList ∧
      bareEngine.renderSource (.withData [("name", .string "Ada")]) "note"
        "\\\x7bname" .empty =
        .ok "\x7bname" ∧
      bareEngine.renderSource (.withData [("name", .string "Ada")]) "note"
        "\\\x7bname" .empty ≠
        .ok "\\\x7bname" := by
  have unclosed : '\x7d' ∉ "\\\x7bname".toList := by decide
  have escaped : HasEscape "\\\x7bname".toList :=
    ⟨[], ['n', 'a', 'm', 'e'], rfl⟩
  have none : ∀ before, ¬ OpensAfter "\\\x7bname".toList before := by
    rintro before ⟨next, after, split, unescaped, -⟩
    match before with
    | [] => cases (List.cons.inj split).1
    | [one] =>
        rcases (List.cons.inj split).1 with rfl
        exact unescaped rfl
    | one :: two :: passed =>
        have behind := (List.cons.inj (List.cons.inj split).2).2
        have member : '\x7b' ∈ ['n', 'a', 'm', 'e'] := by
          rw [show ['n', 'a', 'm', 'e'] = _ from behind]
          simp
        revert member
        decide
  rcases renderSource_eq_constant_iff unclosed bareEngine
    (.withData [("name", .string "Ada")]) "note"
    .empty with ⟨-, same, -, written⟩
  exact ⟨unclosed, written none, fun equal => (same.mp equal).1 escaped⟩

end Phrasebook
