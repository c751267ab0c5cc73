import Mathlib.Data.List.Perm.Basic
import Phrasebook.Engine.Render
import Phrasebook.Proofs.Completion.Keeping
import Phrasebook.Proofs.Rerender.Render

/-!
# Renders of one instance in flight

Several renders of an instance may be in flight at once.  One that has not been
polled yet starts at its first poll, on the data that are there then; one that
has been polled holds places in the lines of some bindings.  All of them tend to
texts that are recalled, and no two hold the same place.

A `Regime` says what is followed and what may be assumed of the template and the
suppliers of the instance.
-/

namespace Phrasebook

open Completion (StartKeeps)
open Watch

/-- The data of an instance. -/
def renderData (whole : Instance × EngineState) : RenderData :=
  whole.1.bindings.data

/-- What no render changes of an instance: its template and its suppliers. -/
def fixtureOf (whole : Instance × EngineState) : Template × Suppliers :=
  (whole.1.template, whole.1.bindings.suppliers)

namespace Completion

variable {σ τ κ ρ : Type}

/-- A completion on a part keeps whatever does not depend on that part. -/
theorem within_keeps
    {part : κ → σ} {update : σ → κ → κ} {view : κ → τ}
    (apart : ∀ state whole, view (update state whole) = view whole)
    (completion : Completion σ ρ) :
    (completion.within part update).Keeps view := by
  induction completion using Completion.ind with
  | ready result => trivial
  | pending advance release ih =>
      rw [Completion.within]
      refine ⟨fun whole => ?_, fun whole => apart _ whole⟩
      dsimp only
      cases polled : advance (part whole) with
      | blocked => trivial
      | advanced next after => exact ⟨apart _ whole, ih _ next after polled⟩

theorem keeps_deferred
    {view : σ → τ} {start : σ → Completion σ ρ × σ}
    (starts : ∀ state, StartKeeps view state (start state)) :
    (Completion.deferred start).Keeps view :=
  ⟨fun state => ⟨(starts state).poll.kept, (starts state).poll.keeps⟩,
    fun _ => rfl⟩

end Completion

namespace Engine

/-- A render of an instance changes neither its template nor its suppliers. -/
theorem startKeeps_renderInstance
    (engine : Engine) (services : Services) (whole : Instance × EngineState) :
    StartKeeps fixtureOf whole (engine.renderInstance services whole) := by
  rw [renderInstance]
  generalize Evaluator.renderTemplate _ whole.1.template (sceneOf whole) =
    rendered
  have apart : ∀ scene whole, fixtureOf (withScene scene whole) =
      fixtureOf whole := fun _ _ => rfl
  have started : StartKeeps fixtureOf whole
      (rendered.1.within sceneOf withScene, withScene rendered.2 whole) :=
    ⟨rfl, Completion.within_keeps apart rendered.1⟩
  refine started.andThen fun text whole => ?_
  exact
    (Completion.startKeeps_ready (Except.ok text) (whole.1.fire whole.2)).after
    rfl

theorem render_keeps (engine : Engine) : engine.render.Keeps fixtureOf :=
  Completion.keeps_deferred fun whole =>
    engine.startKeeps_renderInstance _ whole

end Engine

namespace Watch

section Drives

variable {σ ρ : Type} {watch : Watch} {view : σ → RenderData}
  {fact : ρ → RenderData → Prop}
  {completion : Completion σ ρ} {held : Set Place} {state : σ}

/-- A drive that ends holds nothing any more; one that is blocked leaves its
places in line. -/
theorem Tends.drive
    (sound : watch.Sound (view state)) (issued : watch.Issued held (view state))
    (tends : watch.Tends view fact completion held (view state)) :
    ∃ held',
      watch.Step held held' (view state) (view (completion.drive state).2) ∧
      ∀ result, (completion.drive state).1 = some result →
        held' = ∅ ∧ fact result (view (completion.drive state).2) := by
  induction completion using Completion.ind generalizing held state with
  | ready result =>
      rw [Completion.drive_ready]
      refine ⟨held, .refl sound issued, ?_⟩
      rintro _ ⟨⟩
      exact tends
  | pending advance release ih =>
      rw [Completion.drive_pending]
      have reached := (tends state (.refl sound)).1
      cases polled : advance state with
      | blocked =>
          rw [Completion.drivePoll_blocked]
          exact ⟨held, .refl sound issued, nofun⟩
      | advanced next after =>
          rw [polled] at reached
          rcases reached with ⟨held', step, tends'⟩
          rw [Completion.drivePoll_advanced]
          rcases ih state next after polled (step.sound sound) step.issued
            tends' with ⟨held'', later, ends⟩
          exact ⟨held'', step.trans sound later, ends⟩

/-- Driving what has been started gives all places up, and the fact holds in the
end. -/
theorem Starts.drive
    {before : RenderData} {started : Completion σ ρ × σ}
    (sound : watch.Sound before)
    (starts : watch.Starts view fact held before started) :
    ∃ held', watch.Step held held' before (view (Completion.driven started).2) ∧
      ∀ result, (Completion.driven started).1 = some result →
        held' = ∅ ∧ fact result (view (Completion.driven started).2) := by
  rcases starts with ⟨held', step, tends⟩
  rcases tends.drive (step.sound sound) step.issued with ⟨held'', later, ends⟩
  exact ⟨held'', step.trans sound later, ends⟩

end Drives

end Watch

/-- What is followed through a session, what its texts are compared with, and
what is known of the template and the suppliers of the instance at every
time. -/
structure Regime (engine : Engine) where
  watch : Watch
  again : Program Scene String
  good : Template × Suppliers → Prop
  starts : ∀ whole : Instance × EngineState, good (fixtureOf whole) →
    watch.Sound (renderData whole) →
    watch.Starts renderData (OnSuccess (watch.Recalled again)) ∅
      (renderData whole)
      (engine.renderInstance (engine.servicesIn whole.2) whole)

namespace Engine

variable {engine : Engine} {watch : Watch} {among : Set Services}
  {suppliers : Suppliers}

/-- The render of an instance tends to what the render of its template tends
to. -/
theorem starts_renderInstance
    {again : Program Scene String} {services : Services}
    {whole : Instance × EngineState} (sound : watch.Sound (renderData whole))
    (steady : watch.Steady
      (Evaluator.renderTemplate ⟨engine, services, whole.1.bindings.suppliers⟩
        whole.1.template) again) :
    watch.Starts renderData (OnSuccess (watch.Recalled again)) ∅
      (renderData whole)
      (engine.renderInstance services whole) := by
  rw [renderInstance]
  have rendered := steady (sceneOf whole) sound
  revert rendered
  generalize Evaluator.renderTemplate _ whole.1.template (sceneOf whole) =
    rendered
  rintro ⟨held, step, tends⟩
  have started : watch.Starts renderData (OnSuccess (watch.Recalled again)) ∅
      (renderData whole)
      (rendered.1.within sceneOf withScene, withScene rendered.2 whole) :=
    ⟨held, step, tends.within (fun _ => rfl) fun _ _ => rfl⟩
  refine started.andThen ?_ sound
  intro text whole sound recalled
  show watch.Starts renderData (OnSuccess (watch.Recalled again)) ∅
    (renderData (whole.1.fire whole.2)) _
  exact starts_ok sound recalled

end Engine

namespace Regime

variable {engine : Engine} (regime : Regime engine) {held : Set Place}
  {data data' : RenderData}
  {render : Evaluation (Instance × EngineState) String}

/-- A render that has not started, or that tends to a text that is recalled. -/
def UnderWay (render : Evaluation (Instance × EngineState) String)
    (held : Set Place) (data : RenderData) :
    Prop :=
  render.Keeps fixtureOf ∧
    (render = engine.render ∧ held = ∅ ∨
      regime.watch.Tends renderData
        (OnSuccess (regime.watch.Recalled regime.again)) render held data)

variable {regime}

theorem underWay_render
    (data : RenderData) : regime.UnderWay engine.render ∅ data :=
  ⟨engine.render_keeps, .inl ⟨rfl, rfl⟩⟩

theorem UnderWay.later
    (underWay : regime.UnderWay render held data)
    (rely : regime.watch.Rely held data data') :
    regime.UnderWay render held data' :=
  ⟨underWay.1, underWay.2.imp_right fun tends =>
    tends.later (Lasts.onSuccess (lasts_recalled regime.again)) rely⟩

/-- A poll of a render that is under way leaves one that is, or ends it. -/
theorem UnderWay.poll
    {whole : Instance × EngineState} (good : regime.good (fixtureOf whole))
    (sound : regime.watch.Sound (renderData whole))
    (issued : regime.watch.Issued held (renderData whole))
    (underWay : regime.UnderWay render held (renderData whole)) :
    regime.watch.Starts renderData
      (OnSuccess (regime.watch.Recalled regime.again)) held (renderData whole)
      (render.poll whole) := by
  rcases underWay.2 with ⟨rfl, rfl⟩ | tends
  · exact (regime.starts whole good sound).poll sound
  · exact tends.poll sound issued

/-- Dropping a render that is under way gives up its places. -/
theorem UnderWay.abandon
    {whole : Instance × EngineState}
    (sound : regime.watch.Sound (renderData whole))
    (underWay : regime.UnderWay render held (renderData whole)) :
    regime.watch.Step held ∅ (renderData whole)
      (renderData (render.abandon whole)) := by
  rcases underWay.2 with ⟨rfl, rfl⟩ | tends
  · exact .refl sound issued_empty
  · exact tends.abandon sound

variable (regime) in
/-- Renders under way that hold places of their own. -/
inductive AllUnderWay (data : RenderData) :
    List (Evaluation (Instance × EngineState) String) → Set Place → Prop
  | nil : AllUnderWay data [] ∅
  | cons {render : Evaluation (Instance × EngineState) String}
      {held held' : Set Place}
      {renders : List (Evaluation (Instance × EngineState) String)}
      (one : regime.UnderWay render held data)
      (rest : AllUnderWay data renders held')
      (apart : regime.watch.Apart held held') :
      AllUnderWay data (render :: renders) (held ∪ held')

variable {renders renders' : List (Evaluation (Instance × EngineState) String)}

theorem AllUnderWay.later
    (allUnderWay : regime.AllUnderWay data renders held)
    (rely : regime.watch.Rely held data data') :
    regime.AllUnderWay data' renders held := by
  induction allUnderWay with
  | nil => exact .nil
  | cons one _ apart ih =>
      exact .cons (one.later (rely.mono Set.subset_union_left))
        (ih (rely.mono Set.subset_union_right)) apart

/-- In which order the renders are listed makes no difference. -/
theorem AllUnderWay.perm
    (allUnderWay : regime.AllUnderWay data renders held)
    (same : renders.Perm renders') :
    regime.AllUnderWay data renders' held := by
  induction same generalizing held with
  | nil => exact allUnderWay
  | cons render _ ih =>
      cases allUnderWay with
      | cons one rest apart => exact .cons one (ih rest) apart
  | swap first second rest =>
      cases allUnderWay with
      | cons one others apart =>
          cases others with
          | @cons _ held₁ held₂ _ one' rest apart' =>
              rcases apart_union_right.mp apart with ⟨here, there⟩
              rw [← Set.union_assoc, Set.union_comm _ held₁, Set.union_assoc]
              exact .cons one' (.cons one rest there)
                (apart_union_right.mpr ⟨here.symm, apart'⟩)
  | trans _ _ ih ih' => exact ih' (ih allUnderWay)

end Regime

end Phrasebook
