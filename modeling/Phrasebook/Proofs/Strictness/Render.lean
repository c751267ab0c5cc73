import Phrasebook.Proofs.Nesting.Outcome
import Phrasebook.Proofs.Strictness.Evaluation
import Phrasebook.Proofs.Strictness.Writing

/-!
# Strict rendering

Where resolvers and suppliers use no services, a template is resolved to the
same results whether rendering is strict or not, and the settings matter only
for the gaps.  So strict rendering succeeds exactly when rendering that is not
strict does and no result is left unclaimed, and it fails at the first unclaimed
result otherwise; and the missing text stands once for every unclaimed result
between texts that do not depend on it.
-/

namespace Phrasebook

open Completion (driven driveOn)

namespace Engine

/-- The same engine with strict rendering. -/
def strict (engine : Engine) : Engine :=
  { engine with config := { engine.config with strictRendering := true } }

/-- The same engine with a text for what is missing. -/
def lenient (missing : String) (engine : Engine) : Engine :=
  { engine with config :=
      { engine.config with strictRendering := false, missingValue := missing } }

/-- What the nodes of an instance are resolved to when it is rendered, and the
scene then. -/
def resolved (engine : Engine) (target : Instance) (state : EngineState) :
    Option (Except EngineError (List ResultNode)) × Scene :=
  driven
    ((Evaluator.mk engine (engine.servicesIn state)
      target.bindings.suppliers).resolveNodes
    target.template ⟨target.bindings.data, state⟩)

/-- The expressions of the results without a value that no mapper claims when an
instance is rendered, in the order of its nodes. -/
def unclaimed (engine : Engine) (target : Instance) (state : EngineState) :
    List Expression :=
  match engine.resolved target state with
  | (some (.ok nodes), scene) =>
    Mapper.unclaimed engine.mappers nodes scene.engine
  | _ => []

/-- What the results of an instance come to when it is rendered, before the
settings are asked. -/
def outline (engine : Engine) (target : Instance) (state : EngineState) :
    Except EngineError (List Entry) :=
  match engine.resolved target state with
  | (none, _) => .error stuck
  | (some (.error error), _) => .error error.afterWaiting
  | (some (.ok nodes), scene) =>
    (Mapper.entries engine.mappers nodes scene.engine).1.mapError .render

variable (engine : Engine) (target : Instance) (state : EngineState)

/-- A render writes what the nodes of the instance are resolved to. -/
theorem renderBlocking_eq_write :
    (engine.renderBlocking target state).1 =
      match engine.resolved target state with
      | (none, _) => .error stuck
      | (some (.error error), _) => .error error.afterWaiting
      | (some (.ok nodes), scene) =>
        (Mapper.writeAll engine.config engine.mappers "" nodes
            scene.engine).1.mapError .render := by
  rw [renderBlocking_eq, Evaluator.outcome,
    Evaluator.renderTemplate_eq_resolveNodes,
    Completion.driven_andThen, resolved]
  change (Option.getD (driveOn _ (driven _)).1 _).mapError _ = _
  generalize driven _ = reached
  rcases reached with ⟨_ | error | nodes, scene⟩
  · rfl
  · rfl
  · rw [driveOn, Evaluator.write, driven]
    dsimp only
    rw [Completion.drive_ready]
    cases (Mapper.writeAll engine.config engine.mappers "" nodes
      scene.engine).1 <;> rfl

/-- A render that is not strict fills the gaps. -/
theorem renderBlocking_of_lenient
    (lenient : engine.config.strictRendering = false) :
    (engine.renderBlocking target state).1 =
      (engine.outline target state).map fun entries =>
        engine.config.missingValue.intercalate (Entry.segments entries) := by
  rw [renderBlocking_eq_write, outline]
  rcases engine.resolved target state with ⟨_ | error | nodes, scene⟩
  · rfl
  · rfl
  · dsimp only
    rw [Mapper.writeAll_lenient _ _ lenient]
    cases (Mapper.entries engine.mappers nodes scene.engine).1 with
    | error error => rfl
    | ok entries =>
        dsimp only [Except.map, Except.mapError]
        rw [String.empty_append, Entry.join_fill]

/-- A strict render fails at the first gap. -/
theorem renderBlocking_of_strict
    (strict : engine.config.strictRendering = true) {entries : List Entry}
    (known : engine.outline target state = .ok entries) :
    (engine.renderBlocking target state).1 =
      (Entry.demandAll entries).mapError .render := by
  rw [outline] at known
  rw [renderBlocking_eq_write]
  revert known
  rcases engine.resolved target state with ⟨_ | error | nodes, scene⟩
  · exact fun known => nomatch known
  · exact fun known => nomatch known
  · dsimp only
    cases mapped : (Mapper.entries engine.mappers nodes scene.engine).1 with
    | error error => exact fun known => nomatch known
    | ok entries =>
        intro known
        cases known
        rw [Mapper.writeAll_strict _ _ strict _ _ _ mapped]
        cases Entry.demandAll entries with
        | error error => rfl
        | ok text => simp [Except.map, Except.mapError]

/-- A strict render fails when there is no outline. -/
theorem renderBlocking_of_strict_of_failed
    (strict : engine.config.strictRendering = true) {error : EngineError}
    (failed : engine.outline target state = .error error) :
    ∃ error, (engine.renderBlocking target state).1 = .error error := by
  rw [outline] at failed
  rw [renderBlocking_eq_write]
  revert failed
  rcases engine.resolved target state with ⟨_ | error | nodes, scene⟩
  · exact fun _ => ⟨_, rfl⟩
  · exact fun _ => ⟨_, rfl⟩
  · dsimp only
    cases mapped : (Mapper.entries engine.mappers nodes scene.engine).1 with
    | ok entries => exact fun failed => nomatch failed
    | error error =>
        obtain ⟨error', failed⟩ :=
          Mapper.writeAll_strict_of_failed _ _ strict "" _ _ mapped
        rw [failed]
        exact fun _ => ⟨.render error', rfl⟩

/-- The gaps of the outline are left by the unclaimed results. -/
theorem gaps_outline
    {entries : List Entry} (known : engine.outline target state = .ok entries) :
    entries.filterMap Entry.gap? = engine.unclaimed target state := by
  rw [outline] at known
  rw [unclaimed]
  revert known
  rcases engine.resolved target state with ⟨_ | error | nodes, scene⟩
  · exact fun known => nomatch known
  · exact fun known => nomatch known
  · dsimp only
    cases mapped : (Mapper.entries engine.mappers nodes scene.engine).1 with
    | error error => exact fun known => nomatch known
    | ok entries =>
        intro known
        cases known
        exact Mapper.gaps_eq_unclaimed _ _ _ mapped

section Settings

variable {engine target} (ignores : engine.IgnoresServices)
  (ignoring : SuppliersIgnoreServices target.bindings.suppliers)

include ignores ignoring

theorem resolved_strict :
    engine.strict.resolved target state = engine.resolved target state := by
  have same :
      (Evaluator.mk engine (engine.servicesIn state)
        target.bindings.suppliers).SameSources
      ⟨engine.strict, engine.strict.servicesIn state,
          target.bindings.suppliers⟩ :=
    ⟨rfl, rfl, rfl, rfl, ignores, ignoring⟩
  rw [resolved, resolved, same.resolveNodes_eq]

theorem resolved_lenient (missing : String) :
    (engine.lenient missing).resolved target state =
      engine.resolved target state := by
  have same :
      (Evaluator.mk engine (engine.servicesIn state)
        target.bindings.suppliers).SameSources
      ⟨engine.lenient missing, (engine.lenient missing).servicesIn state,
          target.bindings.suppliers⟩ :=
    ⟨rfl, rfl, rfl, rfl, ignores, ignoring⟩
  rw [resolved, resolved, same.resolveNodes_eq]

theorem outline_strict :
    engine.strict.outline target state = engine.outline target state := by
  rw [outline, outline, resolved_strict state ignores ignoring]
  rfl

theorem outline_lenient (missing : String) :
    (engine.lenient missing).outline target state =
      engine.outline target state := by
  rw [outline, outline, resolved_lenient state ignores ignoring]
  rfl

/-- Rendering that is not strict, from what strict rendering starts from as
well. -/
theorem renderBlocking_lenient (missing : String) :
    ((engine.lenient missing).renderBlocking target state).1 =
      (engine.outline target state).map fun entries =>
        missing.intercalate (Entry.segments entries) := by
  rw [renderBlocking_of_lenient (engine.lenient missing) target state rfl,
    outline_lenient state ignores ignoring]
  rfl

/-- Strict rendering succeeds as the other does when no result is left
unclaimed, and only then. -/
theorem strict_succeeds_iff (missing text : String) :
    (engine.strict.renderBlocking target state).1 = .ok text ↔
      ((engine.lenient missing).renderBlocking target state).1 = .ok text ∧
        engine.unclaimed target state = [] := by
  rw [renderBlocking_lenient state ignores ignoring]
  have strictly := outline_strict state ignores ignoring
  cases known : engine.outline target state with
  | error error =>
      obtain ⟨error', failed⟩ :=
        renderBlocking_of_strict_of_failed engine.strict target state rfl
          (strictly.trans known)
      rw [failed]
      exact iff_of_false nofun fun succeeds => nomatch succeeds.1
  | ok entries =>
      rw [renderBlocking_of_strict engine.strict target state rfl
        (strictly.trans known),
        ← gaps_outline engine target state known]
      cases gaps : entries.filterMap Entry.gap? with
      | nil =>
          rw [Entry.demandAll_of_no_gap gaps missing]
          exact (and_iff_left rfl).symm
      | cons expression others =>
          rw [Entry.demandAll_of_gap gaps]
          exact iff_of_false nofun fun complete => nomatch complete.2

/-- Where only strict rendering fails, no value was found for the first
unclaimed result. -/
theorem strict_fails_at_first
    {missing text : String} {error : EngineError}
    (succeeds : ((engine.lenient missing).renderBlocking target state).1 =
      .ok text)
    (failed : (engine.strict.renderBlocking target state).1 = .error error) :
    ∃ expression others, engine.unclaimed target state = expression :: others ∧
      error = .render (.of .propertyNotFound expression) := by
  rw [renderBlocking_lenient state ignores ignoring] at succeeds
  cases known : engine.outline target state with
  | error error =>
      rw [known] at succeeds
      cases succeeds
  | ok entries =>
      have strictly := (outline_strict state ignores ignoring).trans known
      rw [renderBlocking_of_strict engine.strict target state rfl strictly]
        at failed
      rw [← gaps_outline engine target state known]
      cases gaps : entries.filterMap Entry.gap? with
      | nil =>
          rw [Entry.demandAll_of_no_gap gaps missing] at failed
          cases failed
      | cons expression others =>
          rw [Entry.demandAll_of_gap gaps] at failed
          cases failed
          exact ⟨expression, others, rfl, rfl⟩

omit ignores ignoring

/-- There is one segment more than there are unclaimed results. -/
theorem length_segments_of_outline
    {segments : List String}
    (known : (engine.outline target state).map Entry.segments = .ok segments) :
    segments.length = (engine.unclaimed target state).length + 1 := by
  cases found : engine.outline target state with
  | error error =>
      rw [found] at known
      cases known
  | ok entries =>
      rw [found] at known
      cases known
      rw [Entry.length_segments, gaps_outline engine target state found]

/-- Strict rendering only removes successes, where resolvers and suppliers
neither read the settings nor render other templates.  The nodes are resolved
alike.  Rendering that is not strict comes to texts that do not depend on the
missing text, with the missing text between them, once for every result without
a value that no mapper claims; it succeeds or fails whatever the missing text
is.  Strict rendering succeeds with a text exactly when rendering with any
missing text does and no result is left unclaimed, and where it fails although
the other succeeds, no value was found for the first unclaimed result. -/
theorem strict_removes_successes
    (engine : Engine) (ignores : engine.IgnoresServices) (target : Instance)
    (ignoring : SuppliersIgnoreServices target.bindings.suppliers)
    (state : EngineState) :
    (engine.strict.resolved target state = engine.resolved target state ∧
      ∀ missing, (engine.lenient missing).resolved target state =
        engine.resolved target state) ∧
    (∃ texts : Except EngineError (List String),
      (∀ missing, ((engine.lenient missing).renderBlocking target state).1 =
        texts.map missing.intercalate) ∧
      ∀ segments, texts = .ok segments →
        segments.length = (engine.unclaimed target state).length + 1) ∧
    (∀ missing text, (engine.strict.renderBlocking target state).1 = .ok text ↔
      ((engine.lenient missing).renderBlocking target state).1 = .ok text ∧
        engine.unclaimed target state = []) ∧
    ∀ missing text error,
      ((engine.lenient missing).renderBlocking target state).1 = .ok text →
      (engine.strict.renderBlocking target state).1 = .error error →
        ∃ expression others, engine.unclaimed target state =
          expression :: others ∧
          error = .render (.of .propertyNotFound expression) := by
  refine ⟨⟨resolved_strict state ignores ignoring,
    resolved_lenient state ignores ignoring⟩,
    ⟨(engine.outline target state).map Entry.segments, fun missing => ?_,
      fun _ => length_segments_of_outline state⟩,
    strict_succeeds_iff state ignores ignoring,
    fun _ _ _ => strict_fails_at_first state ignores ignoring⟩
  rw [renderBlocking_lenient state ignores ignoring]
  cases engine.outline target state <;> rfl

end Settings

end Engine

/-- The place of a guest, which is not known. -/
def seatExpression : Expression :=
  .path none [.property "seat"] ⟨"letter", 1⟩

/-- An engine that hands over a seat without a value, and has a title for those
who gave none. -/
def letterEngine : Engine where
  resolvers := [{
    resolve := fun request scene =>
      (if request.part.name == "seat"
          then some (.node (.single none seatExpression))
        else none, scene) }]
  namespaces := []
  mappers := [{
    map := fun value expression state =>
      (.ok
        (if value.isNone && expression.text == "title" then some "guest"
          else none), state) }]
  initializers := []
  config := {}

/-- A letter with a title and with a seat. -/
def letter : Instance where
  template := ⟨"letter", "1",
    [.text "Dear ", .placeholder (.path none [.property "title"] ⟨"letter", 1⟩),
      .text ", take ",
      .placeholder (.path none [.property "seat"] ⟨"letter", 2⟩), .text "."]⟩

theorem letterEngine_ignoresServices : letterEngine.IgnoresServices where
  resolvers := by
    intro resolver member
    rw [List.mem_singleton.mp member]
    exact ⟨fun _ _ => rfl, fun _ _ => rfl⟩
  namespaces _ _ served := nomatch served

/-- The title is claimed; the seat is not, and the strict render of the letter
fails with the expression that the resolver handed over. -/
theorem letter_fails_strictly :
    ((letterEngine.lenient "any").renderBlocking letter .empty).1 =
      .ok "Dear guest, take any." ∧
      letterEngine.unclaimed letter .empty = [seatExpression] ∧
      (letterEngine.strict.renderBlocking letter .empty).1 =
        .error (.render (.of .propertyNotFound seatExpression)) := by
  rcases Engine.strict_removes_successes letterEngine
    letterEngine_ignoresServices letter
    (fun _ _ _ => rfl) .empty with ⟨-, -, same, unclaimed⟩
  have lenient : ((letterEngine.lenient "any").renderBlocking letter .empty).1 =
      .ok "Dear guest, take any." := by
    rfl
  have left : letterEngine.unclaimed letter .empty = [seatExpression] := by rfl
  refine ⟨lenient, left, ?_⟩
  cases ended : (letterEngine.strict.renderBlocking letter .empty).1 with
  | ok text =>
      have complete := ((same "any" text).mp ended).2
      rw [left] at complete
      cases complete
  | error error =>
      obtain ⟨expression, others, first, rfl⟩ :=
        unclaimed "any" _ error lenient ended
      rw [left] at first
      cases first
      rfl

end Phrasebook
