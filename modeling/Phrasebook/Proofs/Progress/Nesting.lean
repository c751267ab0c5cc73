import Phrasebook.Proofs.Message.Catalog
import Phrasebook.Proofs.Progress.Render

/-!
# Nested renders come to an end

A nested render keeps an instance of its own, so nobody else takes part in the
lines of its bindings, and what the render around it does to the state of the
engine in between cannot block it.  So when all that an engine asks for comes to
an end, given nested renders that do, then its nested renders come to an end at
every depth.  Bundles answer with nested renders alone: they add nothing that
could get stuck, and renders in an engine with bundles end.
-/

namespace Phrasebook

namespace Completion

variable {σ κ ρ ω ε α β : Type}

/-- A completion with a private part is never blocked, whatever happens to the
rest of the state. -/
def Flows (inner : κ) (completion : Completion (κ × σ) ρ) : Prop :=
  (completion.enclosed inner).Passes fun _ _ => True

variable {inner : κ}

theorem flows_ready (result : ρ) :
    (Completion.ready result : Completion (κ × σ) ρ).Flows inner := by
  rw [Flows, enclosed]
  trivial

theorem flows_pending
    {advance : κ × σ → Poll (κ × σ) ρ} {release : κ × σ → κ × σ} :
    (Completion.pending advance release).Flows inner ↔
      ∀ state, ∃ next after, advance (inner, state) = .advanced next after ∧
        next.Flows after.1 := by
  rw [Flows, enclosed, Passes]
  refine forall_congr' fun state => ?_
  cases polled : advance (inner, state) with
  | blocked =>
      rw [enclosedPoll]
      constructor
      · exact fun blocked => blocked.elim
      · rintro ⟨next, after, advanced, -⟩
        cases advanced
  | advanced next after =>
      rcases after with ⟨inner', state'⟩
      rw [enclosedPoll]
      constructor
      · exact fun passes => ⟨next, (inner', state'), rfl, passes.2⟩
      · rintro ⟨_, _, advanced, flows⟩
        cases advanced
        exact ⟨trivial, flows⟩

/-- What a computation has started is never blocked. -/
def StartFlows (started : Completion (κ × σ) ρ × (κ × σ)) : Prop :=
  started.1.Flows started.2.1

theorem Flows.poll
    {completion : Completion (κ × σ) ρ} (flows : completion.Flows inner)
    (state : σ) :
    StartFlows (completion.poll (inner, state)) := by
  cases completion with
  | ready result => exact flows
  | pending advance release =>
      rcases flows_pending.mp flows state with ⟨next, after, advanced, flows'⟩
      rwa [StartFlows, Completion.poll, advanced]

theorem flows_deferred
    {start : κ × σ → Completion (κ × σ) ρ × (κ × σ)}
    (starts : ∀ state, StartFlows (start (inner, state))) :
    (deferred start).Flows inner := by
  rw [deferred, flows_pending]
  exact fun state => ⟨_, _, rfl, (starts state).poll _⟩

theorem Flows.resume
    {completion : Completion (κ × σ) (Except ε α)}
    (flows : completion.Flows inner)
    {next : α → κ × σ → Completion (κ × σ) (Except ε β) × (κ × σ)}
    (continues : ∀ value whole, StartFlows (next value whole)) (state : σ) :
    StartFlows (Completion.resume next completion (inner, state)) := by
  induction completion using Completion.ind generalizing inner state with
  | ready result =>
      cases result with
      | error error => exact flows_ready _
      | ok value => exact (continues value (inner, state)).poll _
  | pending advance release ih =>
      rw [StartFlows, Completion.resume, flows_pending]
      intro state
      rcases flows_pending.mp flows state with
        ⟨reached, after, advanced, flows'⟩
      rw [advanced, resumePoll]
      exact ⟨_, _, rfl, ih _ reached after advanced flows' after.2⟩

/-- A chain flows when both of its computations do. -/
theorem StartFlows.andThen
    {started : Completion (κ × σ) (Except ε α) × (κ × σ)}
    (flows : StartFlows started)
    {next : α → κ × σ → Completion (κ × σ) (Except ε β) × (κ × σ)}
    (continues : ∀ value whole, StartFlows (next value whole)) :
    StartFlows (started.1.andThen next started.2) := by
  rcases started with ⟨completion, inner, state⟩
  match completion with
  | .ready (.ok value) => exact continues value (inner, state)
  | .ready (.error error) => exact flows_ready _
  | .pending advance release => exact Flows.resume flows continues state

/-- Mapping a result passes through the same states. -/
theorem Passes.mapResult
    {passed : σ → σ → Prop} {completion : Completion σ ρ}
    (passes : completion.Passes passed)
    (f : ρ → ω) : (completion.mapResult f).Passes passed := by
  induction completion using Completion.ind with
  | ready result => trivial
  | pending advance release ih =>
      intro state
      have reached := passes state
      dsimp only
      cases polled : advance state with
      | blocked =>
          rw [polled] at reached
          exact reached
      | advanced next after =>
          rw [polled] at reached
          exact ⟨reached.1, ih state next after polled reached.2⟩

/-- A completion with a private part ends when it is driven. -/
theorem Flows.drive
    {completion : Completion (κ × σ) ρ} (flows : completion.Flows inner)
    (state : σ) :
    ∃ result whole, completion.drive (inner, state) = (some result, whole) := by
  induction completion using Completion.ind generalizing inner state with
  | ready result => exact ⟨result, (inner, state), drive_ready result _⟩
  | pending advance release ih =>
      rcases flows_pending.mp flows state with ⟨next, after, advanced, flows'⟩
      rw [drive_pending, advanced, drivePoll_advanced]
      exact ih _ next after advanced flows' after.2

end Completion

open Completion (StartFlows)

namespace Resolved

variable {passed : Scene → Scene → Prop}

theorem handlePollEnds_advanced
    {handle : Completion Scene (Resolved Scene)} {scene after : Scene}
    (step : passed scene after) (ends : HandleEnds passed handle) :
    HandlePollEnds passed scene (.advanced handle after) := by
  cases handle with
  | ready answer => exact ⟨step, ends.2⟩
  | pending advance release => exact ⟨step, ends⟩

/-- The answer that a nested render stands for comes to an end when the render
does. -/
theorem ends_ofRender
    {render : Evaluation EngineState String}
    (passes : render.Passes fun _ _ => True) :
    (Resolved.ofRender render).Ends Scene.SameMemos := by
  rw [Resolved.ofRender, Ends]
  induction render using Completion.ind with
  | ready result =>
      rw [Completion.within, Completion.mapResult]
      refine ⟨fun _ => rfl, ?_⟩
      cases result <;> trivial
  | pending advance release ih =>
      rw [Completion.within, Completion.mapResult]
      intro scene
      have reached := passes scene.engine
      dsimp only
      cases polled : advance scene.engine with
      | blocked =>
          rw [polled] at reached
          exact reached.elim
      | advanced next after =>
          rw [polled] at reached
          rw [Completion.withinPoll, Completion.mapPoll]
          exact handlePollEnds_advanced rfl
            (ih scene.engine next after polled reached.2)

end Resolved

namespace Clock

variable {clock : Clock} {ε α : Type} {scene : Scene}
  {completion : Completion Scene (Except ε α)}

/-- What the state of the engine is has no part in how far a render can go. -/
theorem Reached.of_data
    {after : Scene} (reached : clock.Reached (completion, scene))
    (data : after.data = scene.data) :
    clock.Reached (completion, after) := by
  rcases reached with doomed | ⟨held, obeys, inOrder, grants, alone⟩
  · exact .inl doomed
  refine .inr ⟨held, obeys, ?_⟩
  simp only [Scene.InOrder, Scene.Grants, Alone] at inOrder grants alone ⊢
  rw [data]
  exact ⟨inOrder, grants, alone⟩

/-- The render of an instance that nobody else takes part in is never
blocked. -/
theorem Reached.within
    (reached : clock.Reached (completion, scene)) {target : Instance}
    (data : target.bindings.data = scene.data) :
    (completion.within Engine.sceneOf Engine.withScene).Flows target := by
  induction completion using Completion.ind generalizing scene target with
  | ready result =>
      rw [Completion.within]
      exact Completion.flows_ready result
  | pending advance release ih =>
      rw [Completion.within, Completion.flows_pending]
      intro state
      have here : clock.Reached (.pending advance release,
          ⟨target.bindings.data, state⟩) :=
        reached.of_data data
      rcases here.advance with ⟨next, after, advanced, later, -⟩
      rw [Engine.sceneOf, advanced, Completion.withinPoll]
      exact ⟨_, _, rfl, ih _ next after advanced later rfl⟩

theorem Reached.startFlows
    {started : Completion Scene (Except ε α) × Scene}
    (reached : clock.Reached started) (whole : Instance × EngineState) :
    StartFlows
      (started.1.within Engine.sceneOf Engine.withScene,
        Engine.withScene started.2 whole) :=
  reached.within rfl

end Clock

/-- Services whose nested renders come to an end. -/
def Services.Finite (services : Services) : Prop :=
  ∀ template values state,
    (services.nested template values state).1.Passes fun _ _ => True

/-- A resolver that comes to an end wherever nested renders do. -/
def Resolver.Finite (resolver : Resolver) : Prop :=
  ∀ services : Services, services.Finite →
    resolver.Ends Scene.SameMemos Scene.SameMemos services

/-- A supplier that comes to an end wherever nested renders do. -/
def Supplier.Finite (supplier : Supplier) : Prop :=
  ∀ services : Services, services.Finite →
    Supplier.Ends Scene.SameMemos Scene.SameMemos services supplier

/-- The built-in resolvers are finite: they answer at once. -/
theorem Resolver.finite_builtIn
    {resolver : Resolver} (builtIn : resolver ∈ BuiltIn.all) :
    resolver.Finite := by
  simp only [BuiltIn.all, List.mem_cons, List.not_mem_nil, or_false] at builtIn
  rcases builtIn with rfl | rfl | rfl | rfl
  all_goals
    intro services finite base part arguments topLevel scene
    refine ⟨rfl, fun answer given => ?_⟩
    rcases Option.map_eq_some_iff.mp given with ⟨found, -, rfl⟩
    trivial

/-- Bundles come to an end wherever nested renders do. -/
theorem Bundle.finite
    (bundle : Bundle) : bundle.namespaceResolver.resolver.Finite := by
  intro services finite base part arguments topLevel scene
  change Scene.SameMemos scene (bundle.resolve _ scene).2 ∧
    ∀ answer, (bundle.resolve _ scene).1 = some answer →
      answer.Ends Scene.SameMemos
  have ends {given : Resolved Scene} (said : given.Ends Scene.SameMemos) :
      ∀ answer, some given = some answer → answer.Ends Scene.SameMemos := by
    rintro _ ⟨⟩
    exact said
  rw [resolve]
  dsimp only
  cases bundle.byMethod? part.name with
  | none => exact ⟨rfl, fun _ given => by cases given⟩
  | some message =>
      dsimp only
      split_ifs
      · exact ⟨rfl, ends trivial⟩
      · rw [callMessage]
        cases message.body (sceneLocale scene) with
        | constant text => exact ⟨rfl, ends trivial⟩
        | template id =>
            dsimp only
            cases scene.engine.registry.get id with
            | error error => exact ⟨rfl, ends trivial⟩
            | ok template =>
                exact ⟨rfl, ends
                  (Resolved.ends_ofRender (finite template _ scene.engine))⟩

/-- An instance nobody has started to render, all of whose suppliers come to an
end. -/
structure Instance.Finite (target : Instance) : Prop where
  idle : target.bindings.data.Idle
  suppliers : ∀ name, Supplier.Finite (target.bindings.suppliers name)

theorem Bindings.memos_setAll
    (values : List (String × Json)) (bindings : Bindings) :
    (bindings.setAll values).data.memos = bindings.data.memos := by
  rw [Bindings.setAll]
  induction values generalizing bindings with
  | nil => rfl
  | cons _ rest ih => exact ih _

/-- Explicit values have no part in how an instance ends. -/
theorem Instance.Finite.setAll
    {target : Instance} (ends : target.Finite) (values : List (String × Json)) :
    (target.updateBindings (Bindings.setAll values)).Finite where
  idle := ends.idle.of_memos (Bindings.memos_setAll values target.bindings)
  suppliers := by
    rw [Instance.updateBindings, Bindings.suppliers_setAll]
    exact ends.suppliers

namespace Engine

/-- An engine whose resolvers and new instances come to an end. -/
structure Finite (engine : Engine) : Prop where
  resolvers : ∀ resolver ∈ engine.resolvers, resolver.Finite
  namespaces : ∀ qualifier, ∀ resolver ∈ engine.served qualifier,
    resolver.Finite
  instances : ∀ template state, (engine.instantiate template state).1.Finite

section Rendering

variable {engine : Engine} (finite : engine.Finite)

include finite

theorem Finite.evaluator
    {services : Services} (served : services.Finite) {target : Instance}
    (ends : target.Finite) :
    Evaluator.Finite ⟨engine, services, target.bindings.suppliers⟩ where
  resolvers resolver member := finite.resolvers resolver member services served
  namespaces := by
    intro qualifier chain known resolver member
    refine finite.namespaces qualifier resolver ?_ services served
    rwa [Engine.served, known]
  suppliers name := ends.suppliers name services served

/-- The render of an instance is never blocked, whatever the renders around it
do in between. -/
theorem Finite.renderInstance
    {services : Services} (served : services.Finite) {target : Instance}
    (ends : target.Finite) (state : EngineState) :
    StartFlows (engine.renderInstance services (target, state)) := by
  have reached := (finite.evaluator served ends).reached target.template
    (show (sceneOf (target, state)).data.Idle from ends.idle)
  rw [Engine.renderInstance]
  exact (reached.startFlows (target, state)).andThen fun text whole =>
    Completion.flows_ready _

/-- Nested renders come to an end at every depth. -/
theorem Finite.services (depth : Nat) : (engine.services depth).Finite := by
  induction depth with
  | zero => exact fun _ _ _ => trivial
  | succ depth ih =>
      intro template values state
      have made := (finite.instances template state).setAll values
      rw [Engine.services]
      dsimp only
      rw [renderNested]
      exact Completion.Passes.mapResult
        (Completion.flows_deferred fun state =>
          finite.renderInstance ih made state) Prod.fst

/-- Driving the render of an instance ends. -/
theorem Finite.render_ends
    {target : Instance} (ends : target.Finite) (state : EngineState) :
    ∃ result whole, engine.render.drive (target, state) = (some result, whole) ∧
      engine.renderBlocking target state =
        (result.mapError EngineError.afterWaiting, whole) := by
  have flows : engine.render.Flows target :=
    Completion.flows_deferred fun state =>
      finite.renderInstance (finite.services (nestingLimit state)) ends state
  rcases flows.drive state with ⟨result, whole, driven⟩
  refine ⟨result, whole, driven, ?_⟩
  rw [renderBlocking, driven]
  rfl

end Rendering

/-- Engines of built-in resolvers come to an end. -/
theorem finite_build
    {resolvers : List Resolver}
    (builtIn : ∀ resolver ∈ resolvers, resolver ∈ Resolver.BuiltIn.all)
    (mappers : List Mapper) (config : Config) :
    (build resolvers [] mappers [] config).Finite where
  resolvers := by
    intro resolver member
    exact Resolver.finite_builtIn (builtIn resolver (mem_ofResolvers.mp member))
  namespaces := by
    intro qualifier resolver member
    rcases mem_served_build.mp member with ⟨one, none, -⟩
    cases none
  instances template state := ⟨fun _ => rfl, fun _ _ _ _ _ _ => ⟨rfl, trivial⟩⟩

end Engine

/-- Bundles add nothing to an engine that could get stuck. -/
theorem Catalog.finite_engine
    {definitions : List BundleDefinition} {templates : List (String × String)}
    {engine : Engine}
    {state state' : EngineState} {catalog : Catalog} (finite : engine.Finite)
    (built : build definitions templates engine state = (.ok catalog, state')) :
    catalog.engine.Finite where
  resolvers := by
    rw [engine_eq built]
    exact finite.resolvers
  namespaces := by
    intro qualifier resolver member
    rcases (mem_served built).mp member with earlier | ⟨bundle, -, -, rfl⟩
    · exact finite.namespaces qualifier resolver earlier
    · exact bundle.finite
  instances := by
    rw [engine_eq built]
    exact finite.instances

end Phrasebook
