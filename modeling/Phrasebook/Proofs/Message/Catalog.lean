import Phrasebook.Proofs.Bundle.Registration
import Phrasebook.Proofs.Nesting.Depth

/-!
# Messages of a catalog

Building a catalog leaves a bundle under its name, its messages under their
methods and keys, and a registered template under the id of each body.  A
resolver answers in a namespace exactly when it was registered for that
namespace before, or is that of the bundle with this name; and the resolver of a
bundle renders, asked for a part, only the bodies of the message with that
method.
-/

namespace Phrasebook

namespace Engine

/-- The resolvers that answer in a namespace. -/
def served (engine : Engine) (qualifier : String) : List Resolver :=
  (engine.namespaces.get? qualifier).getD []

variable {qualifier : String} {resolver : Resolver}

theorem mem_ofResolvers {resolvers : List Resolver} :
    resolver ∈ Chain.ofResolvers resolvers ↔ resolver ∈ resolvers :=
  List.mem_mergeSort

/-- One more resolver under a qualifier is one more there and none elsewhere. -/
theorem mem_insert_resolver
    (groups : Dictionary (List Resolver)) (one : NamespaceResolver)
    {chain : List Resolver}
    (members :
      ∀ {resolver},
        resolver ∈ chain ↔
          resolver ∈ (groups.get? one.qualifier).getD [] ++ [one.resolver]) :
    resolver ∈ ((groups.insert one.qualifier chain).get? qualifier).getD [] ↔
      resolver ∈ (groups.get? qualifier).getD [] ∨
        one.qualifier = qualifier ∧ one.resolver = resolver := by
  by_cases here : qualifier = one.qualifier
  · subst here
    rw [Dictionary.get?_insert_self, Option.getD_some, members, List.mem_append,
      List.mem_singleton]
    simp only [true_and, eq_comm]
  · rw [Dictionary.get?_insert_of_ne here]
    exact (or_iff_left fun both => here both.1.symm).symm

theorem mem_grouped
    (groups : Dictionary (List Resolver)) (ones : List NamespaceResolver) :
    resolver ∈
        ((ones.foldl (fun groups (one : NamespaceResolver) =>
          groups.insert one.qualifier
            ((groups.get? one.qualifier).getD [] ++ [one.resolver]))
            groups).get?
            qualifier).getD [] ↔
      resolver ∈ (groups.get? qualifier).getD [] ∨
        ∃ one ∈ ones, one.qualifier = qualifier ∧ one.resolver = resolver := by
  induction ones generalizing groups with
  | nil => simp
  | cons one rest ih =>
      rw [List.foldl_cons, ih, mem_insert_resolver groups one Iff.rfl,
        List.exists_mem_cons_iff, or_assoc]

/-- The resolvers that serve a qualifier are those that were given for it. -/
theorem mem_served_build
    {resolvers : List Resolver} {others : List NamespaceResolver}
    {mappers : List Mapper}
    {initializers : List Initializer} {config : Config} :
    resolver ∈
      (build resolvers others mappers initializers config).served qualifier ↔
      ∃ one ∈ others, one.qualifier = qualifier ∧ one.resolver = resolver := by
  have chains :
      (build resolvers others mappers initializers config).namespaces.get?
        qualifier =
        ((grouped others).get? qualifier).map Chain.ofResolvers :=
    Dictionary.get?_map _ _ _
  have members : resolver ∈
      (((grouped others).get? qualifier).map Chain.ofResolvers).getD [] ↔
      resolver ∈ ((grouped others).get? qualifier).getD [] := by
    cases (grouped others).get? qualifier with
    | none => rfl
    | some group => exact mem_ofResolvers
  rw [served, chains, members, grouped, mem_grouped [] others]
  exact or_iff_right List.not_mem_nil

/-- Further namespaces serve their qualifiers besides those of before. -/
theorem mem_served_addNamespaces
    (engine : Engine) (ones : List NamespaceResolver) :
    resolver ∈ (ones.foldl addNamespace engine).served qualifier ↔
      resolver ∈ engine.served qualifier ∨
        ∃ one ∈ ones, one.qualifier = qualifier ∧ one.resolver = resolver := by
  induction ones generalizing engine with
  | nil => simp
  | cons one rest ih =>
      have first : resolver ∈ (engine.addNamespace one).served qualifier ↔
          resolver ∈ engine.served qualifier ∨ one.qualifier = qualifier ∧
              one.resolver = resolver :=
        mem_insert_resolver engine.namespaces one mem_ofResolvers
      rw [List.foldl_cons, ih, first, List.exists_mem_cons_iff, or_assoc]

theorem get?_addNamespace_self
    (one : NamespaceResolver) (engine : Engine)
    (apart : engine.served one.qualifier = []) :
    (engine.addNamespace one).namespaces.get? one.qualifier =
      some [one.resolver] := by
  rw [served] at apart
  simp [addNamespace, apart, Chain.ofResolvers]

theorem get?_addNamespace_of_ne
    {one : NamespaceResolver} (engine : Engine)
    (different : one.qualifier ≠ qualifier) :
    (engine.addNamespace one).namespaces.get? qualifier =
      engine.namespaces.get? qualifier :=
  Dictionary.get?_insert_of_ne different.symm _ _

theorem get?_addNamespaces_of_ne
    (ones : List NamespaceResolver) (engine : Engine)
    (different : ∀ one ∈ ones, one.qualifier ≠ qualifier) :
    (ones.foldl addNamespace engine).namespaces.get? qualifier =
      engine.namespaces.get? qualifier := by
  induction ones generalizing engine with
  | nil => rfl
  | cons one rest ih =>
      rcases List.forall_mem_cons.mp different with ⟨first, others⟩
      rw [List.foldl_cons, ih _ others, get?_addNamespace_of_ne engine first]

/-- A namespace that had no resolvers has the only one that was registered for
it. -/
theorem get?_addNamespaces_of_mem
    {ones : List NamespaceResolver}
    (distinct : (ones.map NamespaceResolver.qualifier).Nodup)
    {one : NamespaceResolver} (member : one ∈ ones) (engine : Engine)
    (apart : engine.served one.qualifier = []) :
    (ones.foldl addNamespace engine).namespaces.get? one.qualifier =
      some [one.resolver] := by
  induction ones generalizing engine with
  | nil => cases member
  | cons first rest ih =>
      rcases List.nodup_cons.mp distinct with ⟨fresh, others⟩
      rw [List.foldl_cons]
      rcases List.mem_cons.mp member with rfl | later
      · rw [get?_addNamespaces_of_ne, get?_addNamespace_self one engine apart]
        intro other inside same
        exact fresh (List.mem_map.mpr ⟨other, inside, same⟩)
      · apply ih others later
        have different : first.qualifier ≠ one.qualifier :=
          fun same => fresh (List.mem_map.mpr ⟨one, later, same.symm⟩)
        rw [served, get?_addNamespace_of_ne engine different]
        exact apart

/-- Further namespaces leave all else of an engine as it was. -/
theorem addNamespaces_eq (engine : Engine) (ones : List NamespaceResolver) :
    ones.foldl addNamespace engine =
      { engine with
        namespaces := (ones.foldl addNamespace engine).namespaces } := by
  induction ones generalizing engine with
  | nil => rfl
  | cons one rest ih => exact ih (engine.addNamespace one)

end Engine

namespace Bundle

/-- The ids of the bodies of the message with the method that is asked for. -/
def callees (bundle : Bundle) (part : Part) (id : String) : Prop :=
  ∃ message, bundle.byMethod? part.name = some message ∧ ∃ locale,
    message.body locale = .template id

variable {templates : Dictionary Template}

theorem sceneLocale_eq
    {scene scene' : Scene} (agree : scene.Agree templates scene') :
    sceneLocale scene = sceneLocale scene' := by
  rw [sceneLocale, sceneLocale, agree.data]

/-- Calls of a message are answered in step when the services render its bodies
in step. -/
theorem callMessage_inStep
    (message : Message) (part : Part) {rendered : Template → Prop}
    {services services' : Services}
    (bodies : ∀ locale id template,
      message.body locale = .template id → templates.get? id = some template →
        rendered template)
    (agree : services.Agree templates rendered services')
    (base : Json) (arguments : List Json) (topLevel : Bool)
    {scene scene' : Scene} (scenes : scene.Agree templates scene') :
    Resolved.InStep (Scene.Agree templates)
        (callMessage message ⟨base, part, arguments, topLevel,
          services⟩ scene).1
        (callMessage message ⟨base, part, arguments, topLevel,
          services'⟩ scene').1 ∧
      Scene.Agree templates
        (callMessage message ⟨base, part, arguments, topLevel,
          services⟩ scene).2
        (callMessage message ⟨base, part, arguments, topLevel,
          services'⟩ scene').2 := by
  rw [callMessage, callMessage, sceneLocale_eq scenes, scenes.engine.registry]
  cases selected : message.body (sceneLocale scene') with
  | constant text => exact ⟨.value _, scenes⟩
  | template id =>
      dsimp only
      rw [Registry.get, ← scenes.engine.registry, scenes.engine.registered]
      cases found : templates.get? id with
      | none => exact ⟨.failed _, scenes⟩
      | some template =>
          have nested :=
            agree.nested template (bodies _ id template selected found)
              (message.data (sceneLocale scene') arguments) scene.engine
                scene'.engine scenes.engine
          exact ⟨Resolved.inStep_ofRender nested.completions, scenes.data,
            nested.states⟩

/-- The resolver of a bundle renders the bodies of the message that it is asked
for. -/
theorem rendersOnly (bundle : Bundle) (part : Part) :
    bundle.namespaceResolver.resolver.RendersOnly templates part fun template =>
      ∃ id, bundle.callees part id ∧ templates.get? id = some template := by
  intro services services' agree
  refine ⟨fun _ _ _ => rfl, fun base arguments topLevel scene scene' scenes =>
    ?_⟩
  show SaidInStep templates (bundle.resolve _ scene) (bundle.resolve _ scene')
  rw [resolve, resolve]
  dsimp only
  cases known : bundle.byMethod? part.name with
  | none => exact ⟨.none, scenes⟩
  | some message =>
      dsimp only
      split
      · exact ⟨.some (.failed _), scenes⟩
      · have called := callMessage_inStep message part
          (fun locale id template body found =>
            ⟨id, ⟨message, known, locale, body⟩, found⟩)
          agree base arguments topLevel scenes
        exact ⟨.some called.1, called.2⟩

end Bundle

namespace Catalog

open EngineState (mem_ids_registerAll)

/-- The ids of the templates that may be rendered in a namespace for a part: the
bodies of messages, or what resolvers from elsewhere render. -/
def callees
    (catalog : Catalog) (elsewhere : String → Part → String → Prop)
    (qualifier : String) (part : Part) (id : String) : Prop :=
  (∃ bundle ∈ catalog.bundles, bundle.name = qualifier ∧
    bundle.callees part id) ∨
    elsewhere qualifier part id

variable {definitions : List BundleDefinition}
  {sources : List (String × String)}
  {engine : Engine} {state state' : EngineState} {catalog : Catalog}

theorem mem_of_bundle?
    {qualifier : String} {bundle : Bundle}
    (found : catalog.bundle? qualifier = some bundle) :
    bundle ∈ catalog.bundles ∧ bundle.name = qualifier := by
  have tested := List.find?_some found
  exact ⟨List.mem_of_find?_eq_some found, beq_iff_eq.mp tested⟩

theorem ne_of_bundle?_eq_none
    {qualifier : String} (missing : catalog.bundle? qualifier = none) :
    ∀ bundle ∈ catalog.bundles, bundle.name ≠ qualifier := by
  intro bundle inside
  simpa using List.find?_eq_none.mp missing bundle inside

/-- A message is rendered in the instance that is made for it. -/
theorem renderMessage_of_get
    {id : String} {template : Template}
    (stands : state.registry.get id = .ok template)
    {message : Message} {locale : Option String} {arguments : List Json} :
    catalog.renderMessage message locale arguments id state =
      (((((catalog.engine.render.drive
          (catalog.engine.prepared template (message.data locale arguments)
            state)).1.getD
            (.error Engine.stuck)).mapError EngineError.afterWaiting).mapError
            .engine),
        (catalog.engine.render.drive
          (catalog.engine.prepared template (message.data locale arguments)
            state)).2.2) := by
  rw [renderMessage, stands]
  rfl

section Building

variable
  (built : build definitions sources engine state = (.ok catalog, state'))

include built

/-- The bundles give an engine their namespaces and nothing else. -/
theorem engine_eq :
    catalog.engine =
      { engine with namespaces := catalog.engine.namespaces } := by
  rcases build_ok built with ⟨assembly, -, rfl, -⟩
  exact Engine.addNamespaces_eq _ _

/-- A namespace is served by the engine and by the bundle of this name. -/
theorem mem_served {qualifier : String} {resolver : Resolver} :
    resolver ∈ catalog.engine.served qualifier ↔
      resolver ∈ engine.served qualifier ∨
        ∃ bundle ∈ catalog.bundles,
          bundle.name = qualifier ∧ bundle.namespaceResolver.resolver =
            resolver := by
  rcases build_ok built with ⟨assembly, -, rfl, -⟩
  rw [Engine.mem_served_addNamespaces]
  refine or_congr_right ?_
  constructor
  · rintro ⟨one, member, named, same⟩
    rcases List.mem_map.mp member with ⟨bundle, inside, rfl⟩
    exact ⟨bundle, inside, named, same⟩
  · rintro ⟨bundle, inside, named, same⟩
    exact ⟨_, List.mem_map_of_mem inside, named, same⟩

/-- A namespace of no bundle is served as it was before. -/
theorem namespaces_of_no_bundle
    {qualifier : String} (missing : catalog.bundle? qualifier = none) :
    catalog.engine.namespaces.get? qualifier =
      engine.namespaces.get? qualifier := by
  have elsewhere := ne_of_bundle?_eq_none missing
  rcases build_ok built with ⟨assembly, -, rfl, -⟩
  exact Engine.get?_addNamespaces_of_ne _ engine
    (List.forall_mem_map.mpr elsewhere)

section Lookup

variable
  (distinct : ∀ definition ∈ definitions,
    (definition.messages.map Prod.fst).Nodup)
  {bundle : Bundle} (member : bundle ∈ catalog.bundles)
  {message : Message} (among : message ∈ bundle.messages)

include distinct member

theorem isBundleName_of_mem : Assembly.isBundleName bundle.name = true := by
  rcases build_ok built with ⟨assembly, accepted, rfl, -⟩
  exact (Assembly.assembled_ofDefinitions distinct accepted).valid bundle member

theorem bundle?_of_mem : catalog.bundle? bundle.name = some bundle := by
  rcases build_ok built with ⟨assembly, accepted, rfl, -⟩
  have assembled := Assembly.assembled_ofDefinitions distinct accepted
  exact (Assembly.find?_by_iff assembled.names).mpr ⟨member, rfl⟩

/-- In the namespace of a bundle that had no resolvers before, its own resolver
is asked. -/
theorem namespaces_of_mem (apart : engine.served bundle.name = []) :
    catalog.engine.namespaces.get? bundle.name =
      some [bundle.namespaceResolver.resolver] := by
  rcases build_ok built with ⟨assembly, accepted, rfl, -⟩
  have names := (Assembly.assembled_ofDefinitions distinct accepted).names
  have distinct : ((assembly.bundles.map Bundle.namespaceResolver).map
      NamespaceResolver.qualifier).Nodup := by
    rw [List.map_map]
    exact names
  exact Engine.get?_addNamespaces_of_mem distinct (List.mem_map_of_mem member)
    engine apart

include among

theorem byKey?_of_mem : bundle.byKey? message.key = some message := by
  rcases build_ok built with ⟨assembly, accepted, rfl, -⟩
  have assembled := Assembly.assembled_ofDefinitions distinct accepted
  exact (Assembly.find?_by_iff (assembled.keys bundle member)).mpr ⟨among, rfl⟩

/-- A message of the catalog is found by its method. -/
theorem byMethod?_of_mem : bundle.byMethod? message.method = some message := by
  rcases build_ok built with ⟨assembly, accepted, rfl, -⟩
  have assembled := Assembly.assembled_ofDefinitions distinct accepted
  exact (Assembly.find?_by_iff (assembled.methods bundle member)).mpr
    ⟨among, rfl⟩

/-- The template of a body is registered. -/
theorem mem_ids_of_body
    {locale : Option String} {id : String}
    (body : message.body locale = .template id) :
    id ∈ state'.registry.ids := by
  rcases build_ok built with
    ⟨assembly, accepted, rfl, middle, event, registered, rfl⟩
  have assembled := Assembly.assembled_ofDefinitions distinct accepted
  rcases message.exists_ownBody?_body locale with ⟨spoken, own⟩
  rw [body] at own
  rcases assembled.bodies bundle member message among spoken _ own with
    ⟨source, -, -, brought⟩
  have listed : (id, source) ∈ assembly.sources ++ sources :=
    List.mem_append_left _ (brought _ (List.mem_singleton.mpr rfl))
  exact (mem_ids_registerAll registered).mpr (.inr (List.mem_map_of_mem listed))

end Lookup

end Building

section Calling

variable {resolvers : List Resolver} {others : List NamespaceResolver}
  {config : Config}
  (built :
    build definitions sources (.build resolvers others [] [] config) state =
      (.ok catalog, state'))

include built

/-- The engine of a catalog renders in a namespace the bodies of messages, and
what the resolvers from elsewhere render. -/
theorem callsOnly
    {templates : Dictionary Template}
    {elsewhere : String → Part → String → Prop}
    (builtIn : ∀ resolver ∈ resolvers, resolver ∈ Resolver.BuiltIn.all)
    (known : ∀ one ∈ others, ∀ part,
      one.resolver.RendersOnly templates part fun template =>
        ∃ id, elsewhere one.qualifier part id ∧ templates.get? id =
          some template) :
    catalog.engine.CallsOnly templates (catalog.callees elsewhere) := by
  have same := engine_eq built
  constructor
  case unmapped =>
    rw [same]
    exact List.mergeSort_nil
  case uninitialized =>
    rw [same]
    rfl
  case general =>
    intro resolver member part
    rw [same] at member
    exact Resolver.rendersOnly_builtIn
      (builtIn resolver (Engine.mem_ofResolvers.mp member)) part
  case named =>
    intro qualifier chain asked resolver member part
    have serves : resolver ∈ catalog.engine.served qualifier := by
      rw [Engine.served, asked]
      exact member
    rcases (mem_served built).mp serves with before | ⟨bundle, among, rfl, rfl⟩
    · rcases Engine.mem_served_build.mp before with ⟨one, among, rfl, rfl⟩
      refine (known one among part).mono ?_
      rintro template ⟨id, renders, found⟩
      exact ⟨id, .inr renders, found⟩
    · refine (bundle.rendersOnly part).mono ?_
      rintro template ⟨id, renders, found⟩
      exact ⟨id, .inl ⟨bundle, among, rfl, renders⟩, found⟩

/-- In the namespace of a bundle that no other resolver was registered for, its
own one is asked first. -/
theorem exists_chain
    (distinct : ∀ definition ∈ definitions,
      (definition.messages.map Prod.fst).Nodup)
    {bundle : Bundle} (member : bundle ∈ catalog.bundles)
    (apart : ∀ one ∈ others, one.qualifier ≠ bundle.name) :
    ∃ rest,
      catalog.engine.namespaces.get? bundle.name =
        some (bundle.namespaceResolver.resolver :: rest) := by
  have empty : (Engine.build resolvers others [] [] config).served bundle.name =
      [] := by
    apply List.eq_nil_iff_forall_not_mem.mpr
    intro resolver serves
    rcases Engine.mem_served_build.mp serves with ⟨one, inside, named, -⟩
    exact apart one inside named
  exact ⟨[], namespaces_of_mem built distinct member empty⟩

end Calling

end Catalog

end Phrasebook
