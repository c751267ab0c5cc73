import Phrasebook.Proofs.Comparison.Renaming
import Phrasebook.Proofs.Locale.Assembly
import Phrasebook.Proofs.Message.Catalog

/-!
# Catalogs that speak one locale

When the definitions for all locales make a catalog, those that speak one locale
do so too.  Where template ids are used once, the template of a default body
there is the one of the body for the locale here, under another id.
-/

namespace Phrasebook

/-- The ids of the templates that definitions bring. -/
def templateIds (definitions : List BundleDefinition) : List String :=
  match Assembly.ofDefinitions definitions with
  | .ok assembly => assembly.sources.map Prod.fst
  | .error _ => []

/-- A template and the one of the same source under another id. -/
def Template.Retold (template template' : Template) : Prop :=
  template'.nodes =
    template.nodes.map (TemplateNode.rename fun _ => template'.id)

theorem Template.Retold.expressions
    {template template' : Template} (retold : template.Retold template') :
    template'.expressions =
      template.expressions.map (Expression.rename fun _ => template'.id) := by
  rw [Template.expressions, retold, List.filterMap_map, Template.expressions,
    List.map_filterMap]
  congr 1
  funext node
  cases node <;> rfl

/-- The same text, or registered templates of the same source. -/
inductive Body.SameTemplate (templates templates' : Dictionary Template) :
    Body → Body → Prop
  | constant (text : String) :
      SameTemplate templates templates' (.constant text) (.constant text)
  | template {id id' : String} {template template' : Template}
      (stands : templates.get? id = some template)
      (stands' : templates'.get? id' = some template')
      (retold : template.Retold template') :
      SameTemplate templates templates' (.template id) (.template id')

/-- A source that is a template under one id is the retold template under
another one. -/
theorem TemplateNode.parse_retold
    {id source : String} {nodes : List TemplateNode}
    (parsed : parse id source = .ok nodes) (id' : String) :
    parse id' source = .ok (nodes.map (rename fun _ => id')) := by
  have renamed (ids : String → String) : parse (ids id) source =
      .ok (nodes.map (rename ids)) :=
    parse_rename parsed
  exact renamed fun _ => id'

/-- Where ids are used once, texts that are the same are registered as templates
of the same source. -/
theorem Body.SameText.sameTemplate
    {sources sources' : List (String × String)}
    {before after before' after' : EngineState}
    (registered : before.registerAll sources = (.ok (), after))
    (ids : (sources.map Prod.fst).Nodup)
    (registered' : before'.registerAll sources' = (.ok (), after'))
    (ids' : (sources'.map Prod.fst).Nodup) {body body' : Body}
    (same : body.SameText sources sources' body') :
    body.SameTemplate after.registry.templates after'.registry.templates
      body' := by
  cases same with
  | constant text => exact .constant text
  | @template id id' source brought brought' =>
      rcases EngineState.exists_of_mem_sources registered ids brought with
        ⟨template, stands, -, parsed⟩
      rcases EngineState.exists_of_mem_sources registered' ids' brought'
        with ⟨template', stands', rfl, parsed'⟩
      apply SameTemplate.template stands stands'
      exact Except.ok.inj
        (parsed'.symm.trans (TemplateNode.parse_retold parsed template'.id))

/-- A bundle of one catalog beside the bundle of that name in another one. -/
inductive Catalog.Serves
    (locale : String) (bodies : Body → Body → Prop) (catalog catalog' : Catalog)
    (qualifier : String) :
    Chain → Chain → Prop
  | intro {bundle bundle' : Bundle}
      (found : catalog.bundle? qualifier = some bundle)
      (found' : catalog'.bundle? qualifier = some bundle')
      (speaks : bundle.Speaks locale bodies bundle') :
      Serves locale bodies catalog catalog' qualifier
        [bundle.namespaceResolver.resolver] [bundle'.namespaceResolver.resolver]

/-- A catalog beside the one that speaks a locale, both of built-in resolvers
and bundles. -/
structure Catalog.Speaks
    (locale : String) (templates templates' : Dictionary Template)
    (catalog catalog' : Catalog) :
    Prop where
  config : catalog.engine.config = catalog'.engine.config
  resolvers : catalog.engine.resolvers = catalog'.engine.resolvers
  builtIn : ∀ resolver ∈ catalog.engine.resolvers,
    resolver ∈ Resolver.BuiltIn.all
  unmapped : catalog.engine.mappers = [] ∧ catalog'.engine.mappers = []
  uninitialized : catalog.engine.initializers = [] ∧
    catalog'.engine.initializers = []
  bundles :
    List.Forall₂ (Bundle.Speaks locale (Body.SameTemplate templates templates'))
    catalog.bundles catalog'.bundles
  namespaces : ∀ qualifier,
    Option.Rel
      (catalog.Serves locale (Body.SameTemplate templates templates') catalog'
        qualifier)
      (catalog.engine.namespaces.get? qualifier)
      (catalog'.engine.namespaces.get? qualifier)

namespace Catalog

theorem rel_bundle?
    {locale : String} {bodies : Body → Body → Prop} {catalog catalog' : Catalog}
    (bundles : List.Forall₂ (Bundle.Speaks locale bodies) catalog.bundles
      catalog'.bundles) (name : String) :
    Option.Rel (Bundle.Speaks locale bodies) (catalog.bundle? name)
      (catalog'.bundle? name) :=
  rel_find? bundles fun _ _ speaks => by rw [speaks.name]

variable {definitions : List BundleDefinition} {resolvers : List Resolver}
  {config : Config}
  {before after : EngineState} {catalog : Catalog} {locale : String}
  (distinct : ∀ definition ∈ definitions,
    (definition.messages.map Prod.fst).Nodup)
  (builtIn : ∀ resolver ∈ resolvers, resolver ∈ Resolver.BuiltIn.all)
  (built : build definitions [] (.build resolvers [] [] [] config) before =
    (.ok catalog, after))
  (ids : (templateIds definitions).Nodup)
  (ids' : (templateIds (speaking locale definitions)).Nodup)

theorem build_of_registered
    {assembly : Assembly}
    (accepted : Assembly.ofDefinitions definitions = .ok assembly)
    (registered : before.registerAll assembly.sources = (.ok (), after))
    (engine : Engine) :
    build definitions [] engine before =
      (.ok
        ⟨(assembly.bundles.map Bundle.namespaceResolver).foldl
          Engine.addNamespace engine,
          assembly.bundles⟩,
        after.log
          (.builtBundles assembly.bundles.length assembly.sources.length)) := by
  rw [build, accepted]
  dsimp only
  rw [List.append_nil, registered]

include distinct built ids ids' in
/-- The definitions that speak a locale are accepted and built when the
localized ones are. -/
theorem exists_built_speaking :
    ∃ catalog' after',
      build (speaking locale definitions) [] (.build resolvers [] [] [] config)
        before =
        (.ok catalog', after') ∧
      List.Forall₂
        (Bundle.Speaks locale
          (Body.SameTemplate after.registry.templates
            after'.registry.templates))
        catalog.bundles catalog'.bundles := by
  rcases build_ok built with
    ⟨assembly, accepted, rfl, middle, event, registered, rfl⟩
  rcases Assembly.speaks_ofDefinitions distinct accepted locale with
    ⟨assembly', accepted', speaks⟩
  rw [templateIds, accepted] at ids
  rw [templateIds, accepted'] at ids'
  rw [List.append_nil] at registered
  have parsed : ∀ entry ∈ assembly'.sources,
      ∃ nodes, TemplateNode.parse entry.1 entry.2 = .ok nodes := by
    intro entry member
    rcases Assembly.exists_source_of_speaks distinct accepted' speaks ids'
      member with ⟨id, brought⟩
    rcases EngineState.exists_registerAll_iff.mp ⟨middle, registered⟩ _
      brought with ⟨nodes, parsed⟩
    exact ⟨_, TemplateNode.parse_retold parsed entry.1⟩
  have accepts : ∃ middle', before.registerAll assembly'.sources =
      (.ok (), middle') :=
    EngineState.exists_registerAll_iff.mpr parsed
  rcases accepts with ⟨middle', registered'⟩
  refine ⟨_, _, build_of_registered accepted' registered' _,
    speaks.imp fun bundle bundle' beside => ?_⟩
  exact beside.imp fun _ _ same =>
    same.sameTemplate registered ids registered' ids'

include distinct built in
/-- A bundle of the catalog is reached through its namespace. -/
theorem namespaces_of_bundle?
    {qualifier : String} {bundle : Bundle}
    (found : catalog.bundle? qualifier = some bundle) :
    catalog.engine.namespaces.get? qualifier =
      some [bundle.namespaceResolver.resolver] := by
  rcases mem_of_bundle? found with ⟨inside, rfl⟩
  exact namespaces_of_mem built distinct inside rfl

include distinct built in
/-- The namespaces of two catalogs whose bundles stand side by side. -/
theorem serves_of_bundles
    {definitions' : List BundleDefinition} {catalog' : Catalog}
    {after' : EngineState}
    (distinct' : ∀ definition ∈ definitions',
      (definition.messages.map Prod.fst).Nodup)
    (built' : build definitions' [] (.build resolvers [] [] [] config) before =
      (.ok catalog', after'))
    {bodies : Body → Body → Prop}
    (bundles : List.Forall₂ (Bundle.Speaks locale bodies) catalog.bundles
      catalog'.bundles)
    (qualifier : String) :
    Option.Rel (catalog.Serves locale bodies catalog' qualifier)
      (catalog.engine.namespaces.get? qualifier)
      (catalog'.engine.namespaces.get? qualifier) := by
  have beside := rel_bundle? bundles qualifier
  revert beside
  cases found : catalog.bundle? qualifier <;>
    cases found' : catalog'.bundle? qualifier
  · intro _
    rw [namespaces_of_no_bundle built found,
      namespaces_of_no_bundle built' found']
    exact .none
  · nofun
  · nofun
  · rintro (speaks | _)
    rw [namespaces_of_bundle? distinct built found,
      namespaces_of_bundle? distinct' built' found']
    exact .some (.intro found found' speaks)

include distinct builtIn built ids ids' in
/-- The catalog that speaks a locale is built, beside the full one. -/
theorem exists_speaks :
    ∃ catalog' after',
      build (speaking locale definitions) [] (.build resolvers [] [] [] config)
        before =
        (.ok catalog', after') ∧
      catalog.Speaks locale after.registry.templates after'.registry.templates
        catalog' := by
  rcases exists_built_speaking distinct built ids ids' with
    ⟨catalog', after', built', bundles⟩
  refine ⟨catalog', after', built', ?_⟩
  have engine := engine_eq built
  have engine' := engine_eq built'
  constructor
  case config => rw [engine, engine']
  case resolvers => rw [engine, engine']
  case builtIn =>
    rw [engine]
    exact fun resolver member =>
      builtIn resolver (Engine.mem_ofResolvers.mp member)
  case unmapped =>
    rw [engine, engine']
    exact ⟨List.mergeSort_nil, List.mergeSort_nil⟩
  case uninitialized =>
    rw [engine, engine']
    exact ⟨rfl, rfl⟩
  case bundles => exact bundles
  case namespaces =>
    exact serves_of_bundles distinct built (fun _ => distinct_speaking distinct)
      built' bundles

end Catalog

end Phrasebook
