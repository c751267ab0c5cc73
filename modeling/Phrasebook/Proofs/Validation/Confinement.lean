import Phrasebook.Bundle.Validation
import Phrasebook.Proofs.Comparison.Message
import Phrasebook.Proofs.Registry

/-!
# Engines that render registered templates only

What is checked of the registered templates says something about renders only as
long as nothing else is rendered.  A resolver or supplier is *confined* to a
registry when it leaves the registered templates alone and renders no others:
with any two services that render the registered templates alike, it answers
alike.  Mappers and initializers are confined when they register nothing.

Two confined engines that differ in their namespaces only, and there answer
alike whatever the expressions of registered templates ask, render every
registered template in step, at every depth of nested renders.
-/

namespace Phrasebook

open Completion (InStep StartInStep ResultsAgree PartsAgree BothAgree)

namespace Comparison

/-- The comparison of evaluations of one scene while the registered templates
stay. -/
def steady (templates : Dictionary Template) : Comparison :=
  same Eq (fun state => state.registry.templates = templates)
    fun _ _ _ held => held

variable {templates : Dictionary Template}

theorem isPlain_steady (templates : Dictionary Template) :
    (steady templates).IsPlain :=
  isPlain_same

theorem templatesAlike_steady (template : Template) :
    (steady templates).TemplatesAlike template template :=
  templatesAlike_of_ids rfl template

@[simp]
theorem expression_rename_steady (expression : Expression) :
    expression.rename (steady templates).ids = expression :=
  expression.rename_id

@[simp]
theorem part_rename_steady
    (part : Part) : part.rename (steady templates).ids = part :=
  part.rename_id

end Comparison

/-- Two services that render the registered templates alike. -/
abbrev Services.RenderAlike (templates : Dictionary Template) :
    Services → Services → Prop :=
  Comparison.ServicesAlike (Comparison.steady templates).states Eq
    (Comparison.Both fun template _ => template.Registered templates)

/-- A bundle renders registered templates only. -/
theorem Bundle.answers_registered
    {templates : Dictionary Template} {services services' : Services}
    {bundle : Bundle} {message : Message} {part : Part}
    (named : bundle.byMethod? part.name = some message) {arguments : List Json}
    (counted : arguments.length = message.parameters.length)
    (alike : Services.RenderAlike templates services services')
    {unrestricted : Bool} {expression : Expression} {base : Json}
    {topLevel : Bool} {scene scene' : Scene}
    (scenes : (Comparison.steady templates).Scenes scene scene') :
    Option.Rel
      ((Comparison.steady templates).AnswersAlike unrestricted expression)
        (bundle.resolve ⟨base, part, arguments, topLevel, services⟩ scene).1
        (bundle.resolve ⟨base, part, arguments, topLevel, services'⟩ scene').1 ∧
      (Comparison.steady templates).Scenes
        (bundle.resolve ⟨base, part, arguments, topLevel, services⟩ scene).2
        (bundle.resolve ⟨base, part, arguments, topLevel,
          services'⟩ scene').2 := by
  refine Comparison.answers_bundle (fun _ _ => congrArg _) ⟨base, part,
    arguments, topLevel, services⟩
    ⟨base, part, arguments, topLevel, services'⟩ named named rfl counted alike
      ?_ scenes
  rintro locale id template state rfl - stands
  exact Registry.registered_of_get stands

/-- A resolver that registers nothing and renders registered templates only. -/
def Resolver.Confined
    (templates : Dictionary Template) (resolver : Resolver) : Prop :=
  ∀ services services', Services.RenderAlike templates services services' →
    ∀ unrestricted expression base part arguments topLevel,
      (Comparison.steady templates).RespondsAlike unrestricted expression
        ⟨base, part, arguments, topLevel, services⟩ ⟨base, part, arguments,
          topLevel, services'⟩
        resolver resolver

/-- Built-in resolvers render nothing. -/
theorem Resolver.confined_builtIn
    {templates : Dictionary Template} {resolver : Resolver}
    (builtIn : resolver ∈ BuiltIn.all) :
    resolver.Confined templates := by
  intro services services' _ unrestricted expression base part arguments
    topLevel
  have responds :
      (Comparison.steady templates).RespondsAlike unrestricted expression
        ⟨base, part, arguments, topLevel, services⟩
        ⟨base, part.rename (Comparison.steady templates).ids, arguments,
          topLevel, services'⟩
        resolver resolver :=
    Comparison.respondsAlike_builtIn builtIn arguments base topLevel services
      services'
  rwa [Comparison.part_rename_steady] at responds

/-- A supplier that registers nothing and renders registered templates only. -/
def Supplier.Confined
    (templates : Dictionary Template) (supplier : Supplier) : Prop :=
  ∀ services services', Services.RenderAlike templates services services' →
    ∀ unrestricted expression key call scene scene',
      (Comparison.steady templates).Scenes scene scene' →
      (Comparison.steady templates).AnswersAlike unrestricted expression
          (supplier services key call scene).1
            (supplier services' key call scene').1 ∧
        (Comparison.steady templates).Scenes
          (supplier services key call scene).2
            (supplier services' key call scene').2

theorem Supplier.confined_nothing {templates : Dictionary Template} :
    Supplier.Confined templates .nothing := by
  intro services services' _ unrestricted expression key call scene
    scene' scenes
  have plain := Comparison.isPlain_steady templates
  exact ⟨.ready (.ok (plain.renamed_iff.mpr rfl)), scenes⟩

/-- A mapper that registers nothing. -/
def Mapper.Confined
    (templates : Dictionary Template) (mapper : Mapper) : Prop :=
  ∀ value expression state, state.registry.templates = templates →
    (mapper.map value expression state).2.registry.templates = templates

/-- A confined mapper does not tell the two sides apart. -/
theorem Mapper.Confined.mapsAlike
    {templates : Dictionary Template} {mapper : Mapper}
    (confined : mapper.Confined templates) :
    (Comparison.steady templates).MapsAlike mapper := by
  rintro value expression state _ ⟨rfl, steady⟩
  rw [Comparison.expression_rename_steady]
  exact ⟨rfl, rfl, confined value expression state steady⟩

/-- An instance of a registered template with confined suppliers. -/
structure Instance.Confined
    (templates : Dictionary Template) (target : Instance) : Prop where
  registered : target.template.Registered templates
  suppliers : ∀ name,
    Supplier.Confined templates (target.bindings.suppliers name)

/-- An initializer that registers no template and brings in confined suppliers
only. -/
def Initializer.Confined
    (templates : Dictionary Template) (initializer : Initializer) : Prop :=
  ∀ target state, target.Confined templates →
    state.registry.templates = templates →
    (initializer target state).1.Confined templates ∧
      (initializer target state).2.registry.templates = templates

namespace Engine

/-- An engine all of whose parts are confined. -/
structure Confined (templates : Dictionary Template) (engine : Engine) :
    Prop where
  resolvers : ∀ resolver ∈ engine.resolvers, resolver.Confined templates
  namespaces : ∀ qualifier chain, engine.namespaces.get? qualifier =
    some chain →
    ∀ resolver ∈ chain, resolver.Confined templates
  mappers : ∀ mapper ∈ engine.mappers, mapper.Confined templates
  initializers : ∀ initializer ∈ engine.initializers,
    Initializer.Confined templates initializer

variable {templates : Dictionary Template} {engine : Engine}

/-- An engine of built-in resolvers. -/
theorem confined_builtIn
    {resolvers : List Resolver}
    (builtIn : ∀ resolver ∈ resolvers, resolver ∈ Resolver.BuiltIn.all)
    (config : Config) :
    (build resolvers [] [] [] config).Confined templates where
  resolvers resolver member :=
    Resolver.confined_builtIn (builtIn resolver (List.mem_mergeSort.mp member))
  namespaces := nofun
  mappers mapper member := by
    have listed : mapper ∈ ([] : List Mapper) := List.mem_mergeSort.mp member
    cases listed
  initializers := nofun

/-- A new instance of a registered template, from a confined engine. -/
theorem Confined.instantiate
    (confined : engine.Confined templates) {template : Template}
    (registered : template.Registered templates) {state : EngineState}
    (steady : state.registry.templates = templates) :
    (engine.instantiate template state).1.Confined templates ∧
      (engine.instantiate template state).2.registry.templates = templates := by
  have start : ({ template } : Instance).Confined templates :=
    ⟨registered, fun _ => Supplier.confined_nothing⟩
  have initializers := confined.initializers
  rw [Engine.instantiate]
  generalize ({ template } : Instance) = target at start
  revert initializers
  induction engine.initializers generalizing target state with
  | nil => exact fun _ => ⟨start, steady⟩
  | cons initializer rest ih =>
      intro initializers
      rcases List.forall_mem_cons.mp initializers with ⟨first, others⟩
      have begun := first target state start steady
      exact ih begun.2 _ begun.1 others

/-- Two sets of namespaces answer alike whatever the first parts of the
expressions of registered templates ask. -/
def HeadsAlike
    (templates : Dictionary Template)
    (namespaces namespaces' : Dictionary Chain) : Prop :=
  ∀ template : Template, template.Registered templates →
    ∀ expression ∈ template.allExpressions,
    ∀ qualifier part rest, expression.qualifier = some qualifier →
      expression.parts = part :: rest →
      ∀ services services', Services.RenderAlike templates services services' →
        ∀ unrestricted arguments, arguments.length = part.arguments.length →
          Option.Rel
            ((Comparison.steady templates).ChainsAlike unrestricted expression
              ⟨.null, part, arguments, true, services⟩ ⟨.null, part, arguments,
                true, services'⟩)
            (namespaces.get? qualifier) (namespaces'.get? qualifier)

variable {namespaces namespaces' : Dictionary Chain}
  {services services' : Services}
  (confined : engine.Confined templates)
  (heads : HeadsAlike templates namespaces namespaces')

include confined

theorem Confined.chainsAlike
    (alike : Services.RenderAlike templates services services')
    (unrestricted : Bool) (expression : Expression) (part : Part)
    (arguments : List Json) (base : Json) (topLevel : Bool) :
    (Comparison.steady templates).ChainsAlike unrestricted expression
      ⟨base, part, arguments, topLevel, services⟩
      ⟨base, part.rename (Comparison.steady templates).ids, arguments, topLevel,
        services'⟩
      engine.resolvers engine.resolvers := by
  rw [Comparison.part_rename_steady]
  apply List.forall₂_same.mpr
  intro resolver member
  exact confined.resolvers resolver member _ _ alike unrestricted expression
    base part arguments topLevel

include heads

/-- The expressions of a registered template are resolved in step. -/
theorem Confined.resolves
    (alike : Services.RenderAlike templates services services')
    {suppliers : Suppliers}
    (supplied : ∀ name, Supplier.Confined templates (suppliers name))
    {template : Template} (registered : template.Registered templates)
    {expression : Expression} (member : expression ∈ template.allExpressions) :
    (Comparison.steady templates).Resolves
      ⟨{ engine with namespaces := namespaces }, services, suppliers⟩
      ⟨{ engine with namespaces := namespaces' }, services', suppliers⟩
      [] expression where
  first part rest split := by
    cases named : expression.qualifier with
    | none =>
        apply Comparison.resolvesPart_root named
        · rfl
        · intro _ scene scene' alike
          rw [(Comparison.scenes_same_iff.mp alike).1]
        · intro _ scene scene'
          apply Comparison.cells_alike (Comparison.isPlain_steady templates)
          · rfl
          · exact fun name => supplied name _ _ alike _ expression
        · exact fun arguments _ =>
            confined.chainsAlike alike _ expression part arguments .null true
    | some qualifier =>
        apply Comparison.resolvesPart_named named
        · rfl
        intro arguments counted
        rw [Comparison.part_rename_steady]
        exact heads template registered expression member qualifier part rest
          named split _ _ alike _
          arguments counted
  later part _ base := by
    apply Comparison.resolvesPart_later
    · rfl
    · exact fun arguments _ =>
        confined.chainsAlike alike _ expression part arguments base false

/-- A registered template is rendered in step. -/
theorem Confined.renderTemplate
    (alike : Services.RenderAlike templates services services')
    {suppliers : Suppliers}
    (supplied : ∀ name, Supplier.Confined templates (suppliers name))
    {template : Template} (registered : template.Registered templates)
    {scene scene' : Scene}
    (scenes : (Comparison.steady templates).Scenes scene scene') :
    (Comparison.steady templates).StartsAlike Eq
      (Evaluator.renderTemplate ⟨{ engine with namespaces := namespaces },
        services, suppliers⟩
        template scene)
      (Evaluator.renderTemplate ⟨{ engine with namespaces := namespaces' },
        services', suppliers⟩
        template scene') := by
  apply Comparison.renderTemplate_alike _
    (Comparison.templatesAlike_steady template) _ scenes
  · exact ⟨rfl, rfl, fun mapper member =>
      (confined.mappers mapper member).mapsAlike⟩
  · intro expression among inner within _
    apply confined.resolves heads alike supplied registered
    exact List.mem_flatMap.mpr ⟨expression, among, within⟩

/-- The same instance of a registered template, in the same state, with the
registered templates. -/
abbrev SameWhole (templates : Dictionary Template) :
    Instance × EngineState → Instance × EngineState → Prop :=
  BothAgree (fun target target' => target = target' ∧ target.Confined templates)
    (Comparison.steady templates).states

omit confined heads in
theorem partsAgree_sameWhole :
    PartsAgree sceneOf withScene (SameWhole templates)
      (Comparison.steady templates).Scenes where
  parts := by
    rintro ⟨target, state⟩ ⟨_, _⟩ ⟨⟨rfl, -⟩, rfl, steady⟩
    exact ⟨rfl, rfl, steady⟩
  updates := by
    rintro ⟨data, state⟩ ⟨_, _⟩ ⟨target, _⟩ ⟨_, _⟩ ⟨rfl, rfl, steady⟩
      ⟨⟨rfl, confined⟩, -⟩
    exact ⟨⟨rfl, confined.registered, confined.suppliers⟩, rfl, steady⟩

/-- An instance of a registered template is rendered in step. -/
theorem Confined.renderInstance
    (alike : Services.RenderAlike templates services services')
    {whole whole' : Instance × EngineState}
    (related : SameWhole templates whole whole') :
    StartInStep (SameWhole templates) (ResultsAgree Eq Eq)
      (Engine.renderInstance { engine with namespaces := namespaces } services
        whole)
      (Engine.renderInstance { engine with namespaces := namespaces' } services'
        whole') := by
  have scenes := partsAgree_sameWhole.parts _ _ related
  apply Comparison.renderInstance_alike partsAgree_sameWhole _ related
  · rcases whole with ⟨target, state⟩
    rcases whole' with ⟨_, _⟩
    rcases related with ⟨⟨rfl, own⟩, rfl, -⟩
    exact confined.renderTemplate heads alike own.suppliers
      own.registered scenes
  · rintro ⟨target, state⟩ ⟨_, _⟩ ⟨⟨rfl, own⟩, rfl, steady⟩
    refine ⟨⟨rfl, own.registered, own.suppliers⟩, rfl, ?_⟩
    exact
      (congrArg Registry.templates (Instance.registry_fire target state)).trans
      steady

/-- At every depth, the services of the engine render registered templates in
step. -/
theorem Confined.services_renderAlike (depth : Nat) :
    Services.RenderAlike templates
      (Engine.services { engine with namespaces := namespaces } depth)
      (Engine.services { engine with namespaces := namespaces' } depth) := by
  induction depth with
  | zero => exact ⟨rfl, fun _ _ _ states => ⟨.ready (.error rfl), states⟩⟩
  | succ depth ih =>
      rw [Engine.services, Engine.services]
      refine ⟨rfl, ?_⟩
      rintro template values _ _ ⟨⟨rfl, rfl⟩, registered⟩ state _ ⟨rfl, steady⟩
      have started := confined.instantiate registered steady
      refine Comparison.renderNested_alike
        (fun _ _ related => confined.renderInstance heads ih related)
        ⟨⟨rfl, started.1.registered, ?_⟩, rfl, started.2⟩
      show ∀ name,
        Supplier.Confined templates ((Bindings.setAll _ _).suppliers name)
      rw [Bindings.suppliers_setAll]
      exact started.1.suppliers

/-- The renders of an instance of a registered template are in step. -/
theorem Confined.render :
    InStep (SameWhole templates) (ResultsAgree Eq Eq)
      (Engine.render { engine with namespaces := namespaces })
      (Engine.render { engine with namespaces := namespaces' }) := by
  apply Completion.inStep_deferred
  rintro ⟨target, state⟩ ⟨_, _⟩ related
  have same := related
  rcases same with ⟨⟨rfl, -⟩, rfl, -⟩
  exact confined.renderInstance heads
    (confined.services_renderAlike heads _) related

end Engine

end Phrasebook
