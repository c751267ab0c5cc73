import Phrasebook.Proofs.Callback.Quiet
import Phrasebook.Proofs.Completion.Commitment

/-!
# Renders fire callbacks when they succeed

The render of an instance commits: the poll in which it ends in success fires
the callbacks that wait at that moment, and nothing before, no failure and no
abandonment does anything to them.  What firing leaves in the journal is known
for the notes about which the rest of the render is quiet; about no notes at all
everything is quiet.
-/

namespace Phrasebook

open Completion (StartKeeps StartCommits)

section Constant

variable {σ τ ρ : Type} {view : σ → τ}

mutual

/-- An answer keeps whatever is the same in all states. -/
theorem Resolved.keeps_of_constant
    (constant : ∀ state state', view state = view state')
    (answer : Resolved σ) :
    answer.Keeps view := by
  match answer with
  | .value _ | .notFound | .node _ | .failed _ => trivial
  | .completed inner => exact Resolved.keeps_of_constant constant inner
  | .pending handle | .foreign handle =>
      exact Resolved.handleKeeps_of_constant constant handle

theorem Resolved.handleKeeps_of_constant
    (constant : ∀ state state', view state = view state')
    (handle : Completion σ (Resolved σ)) :
    Resolved.HandleKeeps view handle := by
  match handle with
  | .ready answer => exact Resolved.keeps_of_constant constant answer
  | .pending advance _ =>
      exact ⟨
        fun state =>
          Resolved.handlePollKeeps_of_constant constant state (advance state),
        fun _ => constant _ _⟩

theorem Resolved.handlePollKeeps_of_constant
    (constant : ∀ state state', view state = view state') (state : σ)
    (poll : Poll σ (Resolved σ)) :
    Resolved.HandlePollKeeps view state poll := by
  match poll with
  | .blocked => trivial
  | .advanced next after =>
      exact ⟨constant _ _, Resolved.handleKeeps_of_constant constant next⟩

end

end Constant

/-- A supplier that leaves no marked notes when an engine runs it, however deep
its renders nest. -/
def Supplier.QuietUnder
    (marked : String → Bool) (engine : Engine) (supplier : Supplier) : Prop :=
  ∀ depth, Supplier.Quiet marked (engine.services depth) supplier

namespace Engine

/-- An engine that leaves no marked notes, however deep its renders nest. -/
def QuietThroughout (marked : String → Bool) (engine : Engine) : Prop :=
  ∀ depth, engine.Quiet marked (engine.services depth)

/-- Suppliers that leave no marked notes, whatever name a computed binding
registers with. -/
def Silences
    (marked : String → Bool) (engine : Engine) (suppliers : Suppliers) : Prop :=
  ∀ name, (suppliers name).QuietUnder marked engine

/-- Of no note everything is quiet. -/
def noNote : String → Bool :=
  fun _ => false

end Engine

open Engine (noNote)

theorem EngineState.notes_noNote (state : EngineState) :
    state.notes noNote = [] := by
  rw [notes, List.filterMap_eq_nil_iff]
  intro event _
  cases event <;> rfl

theorem Scene.notes_noNote (scene scene' : Scene) :
    scene.notes noNote = scene'.notes noNote := by
  simp [notes, EngineState.notes_noNote]

theorem Supplier.quietUnder_noNote (engine : Engine) (supplier : Supplier) :
    supplier.QuietUnder noNote engine :=
  fun _ _ _ _ =>
    ⟨Scene.notes_noNote _ _, Resolved.keeps_of_constant Scene.notes_noNote _⟩

namespace Engine

variable (engine : Engine)

/-- When no note is marked every engine is quiet throughout. -/
theorem quietThroughout_noNote : engine.QuietThroughout noNote := by
  have quiet : ∀ services (resolver : Resolver),
      resolver.Quiet noNote services :=
    fun _ _ _ _ _ _ _ =>
      ⟨Scene.notes_noNote _ _, fun _ _ =>
        Resolved.keeps_of_constant Scene.notes_noNote _⟩
  intro depth
  constructor
  · exact fun resolver _ => quiet _ resolver
  · exact fun _ _ _ resolver _ => quiet _ resolver
  · intro mapper _ value expression state
    rw [EngineState.notes_noNote, EngineState.notes_noNote]

/-- Built-in resolvers leave no notes at all. -/
theorem quietThroughout_builtIn
    (marked : String → Bool) {resolvers : List Resolver}
    (builtIn : ∀ resolver ∈ resolvers, resolver ∈ Resolver.BuiltIn.all)
    (initializers : List Initializer) (config : Config) :
    (Engine.build resolvers [] [] initializers config).QuietThroughout
      marked := by
  intro depth
  constructor
  · intro resolver member
    exact Resolver.quiet_builtIn
      (builtIn resolver (List.mem_mergeSort.mp member)) _
  · intro qualifier chain found
    cases found
  · intro mapper member
    have listed : mapper ∈ ([] : List Mapper) := List.mem_mergeSort.mp member
    cases listed

end Engine

/-- What an instance and its engine show of callbacks: the suppliers of the
instance, the callbacks that wait and the marked notes of callbacks that have
fired. -/
structure Ledger where
  suppliers : Suppliers
  waiting : List Callback
  notes : List String

namespace Ledger

def of (marked : String → Bool) (whole : Instance × EngineState) : Ledger where
  suppliers := whole.1.bindings.suppliers
  waiting := whole.1.callbacks
  notes := whole.2.notes marked

/-- The callbacks that wait fire, each of them with its note, and those that
they register wait. -/
def fire (marked : String → Bool) (ledger : Ledger) : Ledger :=
  { ledger with
    waiting := ledger.waiting.flatMap Callback.registers
    notes :=
      ledger.notes ++ (ledger.waiting.map Callback.report).filter marked }

/-- A render that has ended in success has fired the callbacks. -/
def finish (marked : String → Bool) (result : Except EngineError String)
    (ledger : Ledger) : Ledger :=
  match result with
  | .ok _ => ledger.fire marked
  | .error _ => ledger

theorem suppliers_finish
    (marked : String → Bool) (result : Except EngineError String)
    (ledger : Ledger) :
    (ledger.finish marked result).suppliers = ledger.suppliers := by
  cases result <;> rfl

end Ledger

/-- Firing callbacks notes their reports, one after the other. -/
theorem EngineState.notes_fire
    (marked : String → Bool) (callbacks : List Callback) (state : EngineState) :
    (callbacks.foldl (fun state callback => state.log (.note callback.report))
      state).notes marked =
      state.notes marked ++ (callbacks.map Callback.report).filter marked := by
  induction callbacks generalizing state with
  | nil => simp
  | cons callback rest ih =>
      rw [List.foldl_cons, ih, notes_log, List.map_cons, List.filter_cons,
        List.append_assoc]
      cases read : marked callback.report <;> simp [Event.note?, read]

/-- Firing an instance is firing its ledger. -/
theorem Instance.ledger_fire
    (marked : String → Bool) (whole : Instance × EngineState) :
    Ledger.of marked (whole.1.fire whole.2) =
      (Ledger.of marked whole).fire marked := by
  simp [Ledger.of, Ledger.fire, Instance.fire, EngineState.notes_fire]

namespace Engine

variable {engine : Engine} {marked : String → Bool}

/-- A scene that has kept the notes leaves the ledger as it was. -/
theorem ledger_withScene
    {scene : Scene} {whole : Instance × EngineState}
    (kept : scene.notes marked = (sceneOf whole).notes marked) :
    Ledger.of marked (withScene scene whole) = Ledger.of marked whole := by
  rw [Ledger.of, Ledger.of]
  congr 1

variable (quiet : engine.QuietThroughout marked)

include quiet

/-- A render of an instance fires its callbacks when it succeeds, and changes
nothing of the ledger before. -/
theorem renderInstance_commits
    (depth : Nat) (whole : Instance × EngineState)
    (silences : engine.Silences marked (Ledger.of marked whole).suppliers) :
    StartCommits (fun ledger => engine.Silences marked ledger.suppliers)
      (Ledger.of marked)
      (Ledger.fire marked) whole
        (engine.renderInstance (engine.services depth) whole) := by
  have evaluates : Evaluator.Quiet marked
      ⟨engine, engine.services depth, whole.1.bindings.suppliers⟩ :=
    ⟨quiet depth, fun name => silences name depth⟩
  have rendered := evaluates.renderTemplate whole.1.template (sceneOf whole)
  rw [renderInstance]
  revert rendered
  generalize Evaluator.renderTemplate _ whole.1.template (sceneOf whole) =
    rendered
  rintro ⟨kept, keeps⟩
  have part : (rendered.1.within sceneOf withScene).Keeps (Ledger.of marked) :=
    keeps.within fun scene whole kept => ledger_withScene kept
  have started : StartKeeps (Ledger.of marked) whole
      (rendered.1.within sceneOf withScene, withScene rendered.2 whole) :=
    ⟨ledger_withScene kept, part⟩
  exact started.andThen_commits (Instance.ledger_fire marked) id

/-- A render of an engine commits: it fires the callbacks when it ends in
success. -/
theorem render_commits :
    engine.render.Commits (fun ledger =>
      engine.Silences marked ledger.suppliers) (Ledger.of marked)
      (Ledger.fire marked) :=
  Completion.deferred_commits fun whole silences =>
    renderInstance_commits quiet (nestingLimit whole.2) whole silences

/-- A blocking render fires the callbacks when it returns a text, and only
then. -/
theorem ledger_renderBlocking
    {target : Instance} {state : EngineState}
    (silences :
      engine.Silences marked (Ledger.of marked (target, state)).suppliers) :
    Ledger.of marked (engine.renderBlocking target state).2 =
      (Ledger.of marked (target, state)).finish marked
        (engine.renderBlocking target state).1 := by
  have driven := (render_commits quiet).drive rfl silences
  rw [renderBlocking]
  revert driven
  generalize engine.render.drive (target, state) = driven
  rcases driven with ⟨_ | (error | text), whole⟩ <;> exact id

end Engine

end Phrasebook
