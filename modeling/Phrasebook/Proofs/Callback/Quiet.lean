import Phrasebook.Engine.Render
import Phrasebook.Proofs.Completion.Keeping
import Phrasebook.Proofs.ComputedBinding

/-!
# Quiet evaluations

Callbacks that fire leave notes in the journal, and so may resolvers, suppliers
and mappers.  These are *quiet* about some texts when they leave no notes with
such a text.  Evaluating and rendering write only events that show details, so
with quiet resolvers, suppliers and mappers no evaluation of a template leaves a
note with one of the texts.
-/

namespace Phrasebook

open Completion (StartKeeps startKeeps_ready)

/-- The text of a note, when it is marked. -/
def Event.note? (marked : String → Bool) : Event → Option String
  | .note text => if marked text then some text else none
  | _ => none

/-- The marked notes in the journal, the oldest first. -/
def EngineState.notes (marked : String → Bool) (state : EngineState) :
    List String :=
  state.journal.reverse.filterMap (Event.note? marked)

def Scene.notes (marked : String → Bool) (scene : Scene) : List String :=
  scene.engine.notes marked

/-- A resolver that leaves no marked notes, whatever it is asked for. -/
def Resolver.Quiet
    (marked : String → Bool) (services : Services) (resolver : Resolver) :
    Prop :=
  ∀ base part arguments topLevel scene,
    (resolver.resolve ⟨base, part, arguments, topLevel, services⟩ scene).2.notes
        marked =
        scene.notes marked ∧
      ∀ answer,
        (resolver.resolve ⟨base, part, arguments, topLevel, services⟩ scene).1 =
          some answer →
        answer.Keeps (Scene.notes marked)

/-- A supplier that leaves no marked notes. -/
def Supplier.Quiet
    (marked : String → Bool) (services : Services) (supplier : Supplier) :
    Prop :=
  ∀ key call scene,
    (supplier services key call scene).2.notes marked = scene.notes marked ∧
      (supplier services key call scene).1.Keeps (Scene.notes marked)

/-- A mapper that leaves no marked notes. -/
def Mapper.Quiet (marked : String → Bool) (mapper : Mapper) : Prop :=
  ∀ value expression state,
    (mapper.map value expression state).2.notes marked = state.notes marked

/-- An engine whose resolvers and mappers leave no marked notes. -/
structure Engine.Quiet
    (marked : String → Bool) (services : Services) (engine : Engine) :
    Prop where
  resolvers : ∀ resolver ∈ engine.resolvers, resolver.Quiet marked services
  namespaces : ∀ qualifier chain, engine.namespaces.get? qualifier =
    some chain →
    ∀ resolver ∈ chain, resolver.Quiet marked services
  mappers : ∀ mapper ∈ engine.mappers, mapper.Quiet marked

/-- An evaluator all of whose parts leave no marked notes. -/
structure Evaluator.Quiet (marked : String → Bool) (evaluator : Evaluator) :
    Prop where
  engine : evaluator.engine.Quiet marked evaluator.services
  suppliers : ∀ name,
    Supplier.Quiet marked evaluator.services (evaluator.suppliers name)

variable {marked : String → Bool}

theorem EngineState.notes_log (event : Event) (state : EngineState) :
    (state.log event).notes marked =
      state.notes marked ++ (event.note? marked).toList := by
  rw [notes, log, List.reverse_cons, List.filterMap_append]
  cases read : event.note? marked <;> simp [read, notes]

@[simp]
theorem Scene.notes_log_detail
    {event : Event} (detail : event.isDetail = true) (scene : Scene) :
    (scene.log event).notes marked = scene.notes marked := by
  have silent : event.note? marked = none := by
    cases event with
    | note text => cases detail
    | _ => rfl
  simp [notes, log, EngineState.notes_log, silent]

@[simp]
theorem Scene.notes_updateMemo
    (cell : Cell) (change : Memo → Memo) (scene : Scene) :
    (scene.updateMemo cell change).notes marked = scene.notes marked :=
  rfl

namespace Resolver

/-- A resolver that answers with values notes nothing. -/
theorem quiet_ofValue
    (priority : Int) (applies : Request → Bool) (answer : Request → Option Json)
    (services : Services) :
    (ofValue priority applies answer).Quiet marked services := by
  intro base part arguments topLevel scene
  refine ⟨rfl, fun given said => ?_⟩
  rcases Option.map_eq_some_iff.mp said with ⟨value, -, rfl⟩
  trivial

/-- The built-in resolvers note nothing. -/
theorem quiet_builtIn {resolver : Resolver} (builtIn : resolver ∈ BuiltIn.all)
    (services : Services) :
    resolver.Quiet marked services := by
  simp only [BuiltIn.all, List.mem_cons, List.not_mem_nil, or_false] at builtIn
  rcases builtIn with rfl | rfl | rfl | rfl <;>
    exact quiet_ofValue _ _ _ services

end Resolver

namespace Mapper

variable (config : Config) {mappers : List Mapper}
  (quiet : ∀ mapper ∈ mappers, mapper.Quiet marked)

include quiet

/-- Mapping a value to its text notes nothing. -/
theorem notes_mapThrough
    (value : Option Json) (expression : Expression) (state : EngineState) :
    (mapThrough config mappers value expression state).2.notes marked =
      state.notes marked := by
  induction mappers generalizing state with
  | nil => rfl
  | cons mapper rest ih =>
      rcases List.forall_mem_cons.mp quiet with ⟨first, others⟩
      have mapped := first value expression state
      revert mapped
      rw [mapThrough]
      generalize mapper.map value expression state = mapped
      rcases mapped with ⟨_ | _ | text, after⟩
      · exact id
      · exact fun mapped => (ih others after).trans mapped
      · exact id

/-- Writing results with quiet mappers leaves no marked notes. -/
theorem notes_writeAll
    (written : String) (results : List ResultNode) (state : EngineState) :
    (writeAll config mappers written results state).2.notes marked =
      state.notes marked := by
  induction results generalizing written state with
  | nil => rfl
  | cons node rest ih =>
      have first : (nodeText config mappers node state).2.notes marked =
          state.notes marked := by
        cases node with
        | constant text => rfl
        | single value expression =>
            exact notes_mapThrough config quiet value expression state
      revert first
      rw [writeAll]
      generalize nodeText config mappers node state = first
      rcases first with ⟨_ | text, after⟩
      · exact id
      · exact fun first => (ih _ after).trans first

end Mapper

namespace Evaluator.Quiet

variable {evaluator : Evaluator} (quiet : evaluator.Quiet marked)
  {expression : Expression}

section Lookups

omit quiet in
/-- Asking quiet resolvers leaves no marked notes. -/
theorem ask
    {chain : Chain}
    (resolvers : ∀ resolver ∈ chain, resolver.Quiet marked evaluator.services)
    (part : Part) (arguments : List Json) (base : Json) (topLevel : Bool)
    (scene : Scene) :
    StartKeeps (Scene.notes marked) scene
      (evaluator.ask expression (evaluator.request part arguments base topLevel)
        chain scene) := by
  induction chain generalizing scene with
  | nil => exact startKeeps_ready _ scene
  | cons resolver rest ih =>
      rcases List.forall_mem_cons.mp resolvers with ⟨first, others⟩
      have said := first base part arguments topLevel scene
      rw [Evaluator.ask]
      split_ifs
      · revert said
        rw [Evaluator.request]
        generalize resolver.resolve _ scene = said
        rcases said with ⟨_ | answer, after⟩
        · exact fun said => (ih others after).after said.1
        · intro said
          have settles := (said.2 answer rfl).flatten expression
            evaluator.engine.config.unrestrictedAsyncValues
          refine (settles.andThen (fun settled scene => ?_) after).after said.1
          split_ifs
          · exact ih others scene
          · exact startKeeps_ready _ scene
      · exact ih others scene

include quiet

/-- The run of a quiet supplier notes nothing. -/
theorem runSupplier (cell : Cell) (ticket : Nat) (scene : Scene) :
    StartKeeps (Scene.notes marked) scene
      (evaluator.runSupplier expression cell ticket scene) := by
  have said :=
    quiet.suppliers cell.supplier cell.key
      ((scene.noteCall cell).data.memo cell).calls
    (scene.noteCall cell)
  have noted : (scene.noteCall cell).notes marked = scene.notes marked :=
    (Scene.notes_updateMemo cell Memo.called _).trans
      (Scene.notes_log_detail rfl scene)
  have settles :=
    (said.2.flatten expression
      evaluator.engine.config.unrestrictedAsyncValues).poll
    (evaluator.callSupplier cell scene).2
  rw [Evaluator.runSupplier_eq]
  refine (settles.2.ending ?_ ?_ _).after ((settles.1.trans said.1).trans noted)
  · intro result scene
    cases result <;> rfl
  · exact fun scene => rfl

/-- The lookup of a computed binding notes nothing when suppliers are quiet. -/
theorem lookupComputed (cell : Cell) (scene : Scene) :
    StartKeeps (Scene.notes marked) scene
      (evaluator.lookupComputed expression cell scene) := by
  cases kept : (scene.data.memo cell).value with
  | some settled =>
      rw [Evaluator.lookupComputed_of_kept _ _ kept]
      exact startKeeps_ready _ scene
  | none =>
      rw [Evaluator.lookupComputed_of_not_kept _ _ kept]
      split_ifs
      · exact (quiet.runSupplier cell _ _).after rfl
      · refine ⟨rfl, ?_⟩
        rw [Evaluator.waiting]
        refine ⟨fun scene => ?_, fun scene => rfl⟩
        dsimp only
        cases (scene.data.memo cell).value with
        | some settled => exact ⟨rfl, trivial⟩
        | none =>
            dsimp only
            split_ifs
            · exact ⟨(quiet.runSupplier cell _ scene).kept,
                (quiet.runSupplier cell _ scene).keeps⟩
            · trivial

/-- Resolving a part notes nothing. -/
theorem resolvePart
    (part : Part) (arguments : List Json) (base : Option Json) (scene : Scene) :
    StartKeeps (Scene.notes marked) scene
      (evaluator.resolvePart [] expression part arguments base scene) := by
  cases base with
  | some base =>
      exact ask quiet.engine.resolvers part arguments base false scene
  | none =>
      rw [Evaluator.resolvePart, Evaluator.resolveFirst]
      cases expression.qualifier with
      | some qualifier =>
          dsimp only
          cases asked : evaluator.engine.namespaces.get? qualifier with
          | none => exact startKeeps_ready _ scene
          | some chain =>
              exact ask (quiet.engine.namespaces qualifier chain asked) part
                arguments .null true scene
      | none =>
          have asked : StartKeeps (Scene.notes marked) scene
              (evaluator.ask expression
                (evaluator.request part arguments .null true)
                evaluator.engine.resolvers scene) :=
            ask quiet.engine.resolvers part arguments .null true scene
          dsimp only
          rw [Evaluator.lookupScopes]
          cases part.isMethod with
          | true => exact asked
          | false =>
              simp only [Bool.false_eq_true, if_false]
              cases scene.data.get? part.name with
              | some value => exact startKeeps_ready _ scene
              | none =>
                  cases scene.data.cell? part.name with
                  | some cell => exact quiet.lookupComputed cell scene
                  | none => exact asked

end Lookups

/-- Evaluations that were started one after the other, and have left no marked
notes. -/
structure StartAllQuiet
    {α : Type} (marked : String → Bool) (before : Scene)
    (started : List (Evaluation Scene α) × Scene) : Prop where
  kept : started.2.notes marked = before.notes marked
  keeps : ∀ completion ∈ started.1, completion.Keeps (Scene.notes marked)

theorem StartAllQuiet.all
    {α : Type} {before : Scene} {started : List (Evaluation Scene α) × Scene}
    (starts : StartAllQuiet marked before started) :
    StartKeeps (Scene.notes marked) before
      (Completion.all started.1 started.2) :=
  (Completion.all_keeps starts.keeps started.2).after starts.kept

mutual

/-- Evaluating an expression leaves no marked notes. -/
theorem evaluate
    (quiet : evaluator.Quiet marked) (expression : Expression) (scene : Scene) :
    StartKeeps (Scene.notes marked) scene
      (evaluator.evaluate [] expression scene) := by
  match expression with
  | .mk qualifier parts constant origin =>
      rw [Evaluator.evaluate]
      split
      · exact startKeeps_ready _ scene
      · exact evaluateParts quiet _ none parts scene

/-- Evaluating the parts of an expression notes nothing in a quiet evaluator. -/
theorem evaluateParts
    (quiet : evaluator.Quiet marked) (expression : Expression)
    (base : Option Json) (parts : List Part) (scene : Scene) :
    StartKeeps (Scene.notes marked) scene
      (evaluator.evaluateParts [] expression base parts scene) := by
  match parts with
  | [] =>
      rw [Evaluator.evaluateParts]
      exact startKeeps_ready _ scene
  | part :: rest =>
      rw [Evaluator.evaluateParts]
      refine (startArguments quiet part scene).all.andThen fun values scene =>
        ?_
      refine (quiet.resolvePart part values base scene).andThen fun settled
        scene => ?_
      split_ifs
      · exact startKeeps_ready _ scene
      · exact evaluateParts quiet expression _ rest scene

theorem startArguments
    (quiet : evaluator.Quiet marked) (part : Part) (scene : Scene) :
    StartAllQuiet marked scene (evaluator.startArguments [] part scene) := by
  match part with
  | .property _ =>
      rw [Evaluator.startArguments]
      exact ⟨rfl, List.forall_mem_nil _⟩
  | .method _ arguments =>
      rw [Evaluator.startArguments]
      exact startAll quiet arguments scene

theorem startAll
    (quiet : evaluator.Quiet marked) (expressions : List Expression)
    (scene : Scene) :
    StartAllQuiet marked scene (evaluator.startAll [] expressions scene) := by
  match expressions with
  | [] =>
      rw [Evaluator.startAll]
      exact ⟨rfl, List.forall_mem_nil _⟩
  | expression :: rest =>
      have first := evaluate quiet expression scene
      have others :=
        startAll quiet rest (evaluator.evaluate [] expression scene).2
      rw [Evaluator.startAll]
      exact ⟨others.kept.trans first.kept,
        List.forall_mem_cons.mpr ⟨first.keeps.map _, others.keeps⟩⟩

end

include quiet

/-- Starting a node notes nothing in a quiet evaluator. -/
theorem startNode (node : TemplateNode) (scene : Scene) :
    StartKeeps (Scene.notes marked) scene (evaluator.startNode node scene) := by
  cases node with
  | text text => exact startKeeps_ready _ scene
  | placeholder expression =>
      have started :=
        (quiet.evaluate expression
          (scene.log (.resolveStarted expression))).after
        (Scene.notes_log_detail rfl scene)
      rw [Evaluator.startNode]
      refine started.andThen fun settled scene => ?_
      exact (startKeeps_ready _ _).after (Scene.notes_log_detail rfl scene)

theorem startNodes (nodes : List TemplateNode) (scene : Scene) :
    StartAllQuiet marked scene (evaluator.startNodes nodes scene) := by
  induction nodes generalizing scene with
  | nil => exact ⟨rfl, List.forall_mem_nil _⟩
  | cons node rest ih =>
      have first := quiet.startNode node scene
      have others := ih (evaluator.startNode node scene).2
      exact ⟨others.kept.trans first.kept,
        List.forall_mem_cons.mpr ⟨first.keeps, others.keeps⟩⟩

theorem write (results : List ResultNode) (scene : Scene) :
    StartKeeps (Scene.notes marked) scene (evaluator.write results scene) :=
  ⟨Mapper.notes_writeAll evaluator.engine.config quiet.engine.mappers "" results
    scene.engine, trivial⟩

/-- Rendering a template leaves no marked notes. -/
theorem renderTemplate (template : Template) (scene : Scene) :
    StartKeeps (Scene.notes marked) scene
      (evaluator.renderTemplate template scene) := by
  have started :=
    (quiet.startNodes template.nodes
      (scene.log (.renderingTemplate template.id))).all.after
    (Scene.notes_log_detail rfl scene)
  rw [Evaluator.renderTemplate]
  exact started.andThen quiet.write

end Evaluator.Quiet

end Phrasebook
