import Phrasebook.Proofs.Evaluation.Program
import Phrasebook.Proofs.Validation.Namespace

/-!
# Checked names

The first part of an expression without namespace is looked up in the data of
the render when it is a property.  A method is asked of the general resolvers at
once, whatever the data are.  The check of a catalog compares the names of these
parts with the parameters of the message, properties and methods alike.

Where nothing is complained about, each property that stands first in an
expression of a message body has a value among the arguments of every call of
the message, and neither a computed binding nor a resolver is ever asked for it.
A method that stands first and has the name of a parameter is not complained
about either, but no built-in resolver answers it: it is not found.
-/

namespace Phrasebook

open Completion (InStep StartInStep ResultsAgree PartsAgree BothAgree)

/-- The data have an explicit value under each of some names. -/
def RenderData.Knows (names : List String) (data : RenderData) : Prop :=
  ∀ name ∈ names, ∃ value, data.get? name = some value

/-- A resolver that takes nothing but properties that stand first in their
expressions. -/
def Resolver.TakesLookups (resolver : Resolver) : Prop :=
  ∀ request, resolver.applies request = true → request.topLevel = true ∧
    request.part.isMethod = false

theorem Resolver.TakesLookups.refuses
    {resolver : Resolver} (takes : resolver.TakesLookups) {request : Request}
    (other : request.topLevel = false ∨ request.part.isMethod = true) :
    resolver.applies request = false := by
  rw [Bool.eq_false_iff]
  intro applied
  rcases takes request applied with ⟨first, property⟩
  rcases other with later | method
  · cases later.symm.trans first
  · cases method.symm.trans property

/-- An initializer that registers nothing and leaves an instance the template it
is made for. -/
def Initializer.KeepsTemplates
    (templates : Dictionary Template) (initializer : Initializer) : Prop :=
  ∀ target state, state.registry.templates = templates →
    (initializer target state).1.template = target.template ∧
      (initializer target state).2.registry.templates = templates

/-- Gives an instance other computed bindings. -/
def Instance.supplied
    (computed : Dictionary Cell) (suppliers : Suppliers) (target : Instance) :
    Instance :=
  target.updateBindings fun bindings =>
    ⟨{ bindings.data with computed }, suppliers⟩

/-- An engine with resolvers that are asked before its own ones, and with other
computed bindings in all its instances. -/
def Engine.watchingLookups
    (watchers : List Resolver) (computed : Dictionary Cell)
    (suppliers : Suppliers) (engine : Engine) :
    Engine :=
  { engine with
    resolvers := watchers ++ engine.resolvers
    initializers :=
      engine.initializers ++
        [fun target state => (target.supplied computed suppliers, state)] }

def Catalog.watchingLookups
    (watchers : List Resolver) (computed : Dictionary Cell)
    (suppliers : Suppliers)
    (catalog : Catalog) : Catalog :=
  { catalog with engine :=
      catalog.engine.watchingLookups watchers computed suppliers }

/-- Two instances for one call: the same template with the same explicit values,
some names among them.  The computed bindings may differ. -/
structure Instance.SameCall
    (template : Template) (names : List String) (target target' : Instance) :
    Prop where
  template : target.template = template ∧ target'.template = template
  data : target.bindings.data.explicit = target'.bindings.data.explicit
  known : target.bindings.data.Knows names
  callbacks : target.callbacks = target'.callbacks

section Data

theorem RenderData.Knows.set
    {names : List String} {data : RenderData} (knows : data.Knows names)
    (key : String) (value : Json) :
    (data.set key value).Knows names := by
  intro name member
  by_cases same : name = key
  · subst same
    exact ⟨value, Dictionary.get?_insert_self name value data.explicit⟩
  · rcases knows name member with ⟨other, held⟩
    exact ⟨other,
      (Dictionary.get?_insert_of_ne same value data.explicit).trans held⟩

theorem Bindings.knows_setAll_of_knows
    {names : List String} (values : List (String × Json)) {bindings : Bindings}
    (knows : bindings.data.Knows names) :
    (bindings.setAll values).data.Knows names := by
  induction values generalizing bindings with
  | nil => exact knows
  | cons value rest ih =>
      apply ih
      exact knows.set value.1 value.2

theorem Bindings.knows_setAll
    (values : List (String × Json)) (bindings : Bindings) :
    (bindings.setAll values).data.Knows (values.map Prod.fst) := by
  induction values generalizing bindings with
  | nil => exact List.forall_mem_nil _
  | cons value rest ih =>
      have first : (bindings.set value.1 value.2).data.Knows [value.1] := by
        intro name member
        rcases List.mem_singleton.mp member with rfl
        exact ⟨value.2,
          Dictionary.get?_insert_self value.1 value.2 bindings.data.explicit⟩
      intro name member
      rcases List.mem_cons.mp member with rfl | later
      · exact knows_setAll_of_knows rest first _ List.mem_cons_self
      · exact ih (bindings.set value.1 value.2) name later

theorem Bindings.explicit_setAll
    (values : List (String × Json)) {bindings bindings' : Bindings}
    (same : bindings.data.explicit = bindings'.data.explicit) :
    (bindings.setAll values).data.explicit =
      (bindings'.setAll values).data.explicit := by
  induction values generalizing bindings bindings' with
  | nil => exact same
  | cons value rest ih =>
      apply ih
      exact congrArg (Dictionary.insert value.1 value.2) same

/-- A call of a message with one argument for each parameter has values for all
of them. -/
theorem Message.knows_data
    {message : Message} {arguments : List Json}
    (counted : arguments.length = message.parameters.length)
    (locale : Option String) (bindings : Bindings) :
    (bindings.setAll (message.data locale arguments)).data.Knows
      message.parameters := by
  intro name member
  apply Bindings.knows_setAll
  rw [Message.data, List.map_append, List.map_fst_zip counted.ge]
  exact List.mem_append_left _ member

/-- The name of a first part without namespace is looked up, unless the
expression is a literal. -/
theorem Template.mem_lookedUp
    {template : Template} {expression : Expression}
    (member : expression ∈ template.allExpressions)
    (unnamed : expression.qualifier = none)
    (literal : expression.literalValue? = none)
    {part : Part} {rest : List Part} (split : expression.parts = part :: rest) :
    part.name ∈ template.lookedUp := by
  apply List.mem_filterMap.mpr
  exact ⟨expression,
    member, by simp [Expression.topLevelName?, literal, unnamed, split]⟩

theorem Message.body_mem_bodies (message : Message) (locale : Option String) :
    message.body locale ∈ message.bodies := by
  rw [body, bodies]
  cases found : locale.bind message.localized.get? with
  | none => exact List.mem_cons_self
  | some body =>
      rcases Option.bind_eq_some_iff.mp found with ⟨spoken, -, has⟩
      apply List.mem_cons_of_mem
      exact List.mem_map.mpr ⟨(spoken, body), Dictionary.mem_of_get? has, rfl⟩

end Data

namespace Evaluator

variable {evaluator : Evaluator} {expression : Expression} {part : Part}
  {arguments : List Json}
  {scene : Scene}

/-- Resolvers that do not apply are passed over. -/
theorem ask_append
    {request : Request} {passed : Chain}
    (refuse : ∀ resolver ∈ passed, resolver.applies request = false)
    (chain : Chain) (scene : Scene) :
    evaluator.ask expression request (passed ++ chain) scene =
      evaluator.ask expression request chain scene := by
  induction passed with
  | nil => rfl
  | cons resolver rest ih =>
      rcases List.forall_mem_cons.mp refuse with ⟨first, others⟩
      rw [List.cons_append, ask, if_neg (by simp [first]), ih others]

/-- A property that stands first is what the data have for it. -/
theorem resolvePart_property
    (unnamed : expression.qualifier = none) (property : part.isMethod = false)
    {value : Json} (held : scene.data.get? part.name = some value) :
    evaluator.resolvePart [] expression part arguments none scene =
      (.ready (.ok (.value value)), scene) := by
  rw [resolvePart, resolveFirst, unnamed]
  dsimp only
  rw [lookupScopes]
  simp [property, held]

/-- For a method that stands first, the general resolvers are asked. -/
theorem resolvePart_method
    (unnamed : expression.qualifier = none) (method : part.isMethod = true) :
    evaluator.resolvePart [] expression part arguments none scene =
      evaluator.ask expression (evaluator.request part arguments .null true)
        evaluator.engine.resolvers scene := by
  rw [resolvePart, resolveFirst, unnamed]
  dsimp only
  rw [lookupScopes]
  simp [method]

/-- Built-in resolvers do not find a method that stands first. -/
theorem resolvePart_method_builtIn
    (builtIn : ∀ resolver ∈ evaluator.engine.resolvers,
      resolver ∈ Resolver.BuiltIn.all)
    (unnamed : expression.qualifier = none) (method : part.isMethod = true) :
    evaluator.resolvePart [] expression part arguments none scene =
      (.ready (.ok .notFound), scene) := by
  have refuse : ∀ resolver ∈ evaluator.engine.resolvers,
      resolver.applies (evaluator.request part arguments .null true) = false :=
    fun resolver among => Resolver.applies_builtIn (builtIn resolver among) rfl
  rw [resolvePart_method unnamed method,
    ← List.append_nil evaluator.engine.resolvers, ask_append refuse, ask]

end Evaluator

namespace Catalog

/-- A template that stands for a body of a message, with the values of a call of
the message. -/
inductive IsCall (catalog : Catalog) (templates : Dictionary Template) :
    Template → List (String × Json) → Prop
  | intro {bundle : Bundle} (member : bundle ∈ catalog.bundles)
      {message : Message} (among : message ∈ bundle.messages)
      {locale : Option String} {id : String}
      (body : message.body locale = .template id) {template : Template}
      (stands : templates.get? id = some template) {arguments : List Json}
      (counted : arguments.length = message.parameters.length) :
      IsCall catalog templates template (message.data locale arguments)

/-- A catalog of built-in resolvers whose templates have been checked without a
complaint. -/
structure Checked (templates : Dictionary Template) (catalog : Catalog) :
    Prop where
  general : ∀ resolver ∈ catalog.engine.resolvers,
    resolver ∈ Resolver.BuiltIn.all
  namespaces : ∀ qualifier chain, catalog.engine.namespaces.get? qualifier =
    some chain →
    ∃ bundle, catalog.bundle? qualifier = some bundle ∧
      chain = [bundle.namespaceResolver.resolver]
  mappers : ∀ mapper ∈ catalog.engine.mappers, mapper.Confined templates
  initializers : ∀ initializer ∈ catalog.engine.initializers,
    Initializer.KeepsTemplates templates initializer
  uses : ∀ template : Template, template.Registered templates →
    ∀ expression ∈ template.allExpressions,
      catalog.namespaceComplaint? expression = none
  lookups : ∀ bundle ∈ catalog.bundles, ∀ message ∈ bundle.messages,
    ∀ locale id template,
    message.body locale = .template id → templates.get? id = some template →
      ∀ name ∈ template.lookedUp, name ∈ message.parameters

end Catalog

namespace Comparison

/-- The comparison of evaluations with the same explicit values, which know some
names, while the registered templates stay. -/
def knowing (names : List String) (templates : Dictionary Template) :
    Comparison :=
  same (fun data data' => data.explicit = data'.explicit ∧ data.Knows names)
    (fun state => state.registry.templates = templates)
    fun _ _ _ held => held

@[simp]
theorem part_rename_knowing
    {names : List String} {templates : Dictionary Template} (part : Part) :
    part.rename (knowing names templates).ids = part :=
  part.rename_id

/-- Evaluators are asked alike when what comes before the chain of the second
one does not apply. -/
theorem ask_behind
    {names : List String} {templates : Dictionary Template}
    {evaluator evaluator' : Evaluator}
    (config : evaluator.engine.config = evaluator'.engine.config)
    {chain passed : Chain}
    (builtIn : ∀ resolver ∈ chain, resolver ∈ Resolver.BuiltIn.all)
    {expression : Expression} {part : Part} {arguments : List Json}
    {base : Json} {topLevel : Bool}
    (refuse : ∀ resolver ∈ passed,
      resolver.applies (evaluator'.request part arguments base topLevel) =
        false)
    {scene scene' : Scene}
    (alike : (knowing names templates).Scenes scene scene') :
    (knowing names templates).StartsAlike (knowing names templates).Renamed
      (evaluator.ask expression (evaluator.request part arguments base topLevel)
        chain scene)
      (evaluator'.ask (expression.rename (knowing names templates).ids)
        (evaluator'.request (part.rename (knowing names templates).ids)
          arguments base topLevel)
        (passed ++ chain) scene') := by
  have chains : (knowing names templates).ChainsAlike
      evaluator.engine.config.unrestrictedAsyncValues
      expression (evaluator.request part arguments base topLevel)
      (evaluator'.request (part.rename (knowing names templates).ids) arguments
        base topLevel)
      chain chain :=
    chainsAlike_builtIn builtIn arguments base topLevel _ _
  rw [part_rename_knowing] at chains ⊢
  rw [Evaluator.ask_append refuse]
  exact ask_alike config chains alike

end Comparison

/-- Services that render the bodies of messages alike, with the values of
calls. -/
abbrev Catalog.CallsAlike
    (catalog : Catalog) (templates : Dictionary Template) :
    Services → Services → Prop :=
  Comparison.ServicesAlike (Comparison.steady templates).states Eq
    (Comparison.Both (catalog.IsCall templates))

namespace Catalog.Checked

open Comparison (knowing)

variable {catalog : Catalog} {templates : Dictionary Template}
  (checked : catalog.Checked templates)
  {watchers : List Resolver}
  (quiet : ∀ watcher ∈ watchers, watcher.TakesLookups)
  {services services' : Services}
  (alike : catalog.CallsAlike templates services services')
  {names : List String} {template : Template}
  (registered : template.Registered templates)
  (looksUp : ∀ name ∈ template.lookedUp, name ∈ names)

include checked quiet in
/-- A first part without namespace is a known value of the data, or a method
that no watcher takes. -/
theorem resolvesPart_unqualified
    (bound bound' suppliers : Suppliers) (computed : Dictionary Cell)
    {expression : Expression} (unqualified : expression.qualifier = none)
    {part : Part} (known : part.name ∈ names) :
    (knowing names templates).ResolvesPart
      ⟨catalog.engine, services, bound⟩
      ⟨catalog.engine.watchingLookups watchers computed suppliers, services',
        bound'⟩ [] expression part none := by
  intro arguments _ scene scene' scenes
  cases method : part.isMethod with
  | true =>
      rw [Evaluator.resolvePart_method unqualified method,
        Evaluator.resolvePart_method
        (expression.qualifier_rename.trans unqualified)
        (part.isMethod_rename.trans method)]
      apply Comparison.ask_behind _ checked.general _ scenes
      · rfl
      · exact fun watcher among => (quiet watcher among).refuses (.inr method)
  | false =>
      rcases scenes.data with ⟨explicit, knows⟩
      rcases knows part.name known with ⟨value, held⟩
      have held' : scene'.data.get? part.name = some value := by
        rw [RenderData.get?, ← explicit]
        exact held
      rw [Evaluator.resolvePart_property unqualified method held,
        Evaluator.resolvePart_property
        (expression.qualifier_rename.trans unqualified)
        (part.isMethod_rename.trans method)
        (by rw [Part.name_rename, held'])]
      exact ⟨.ready (.ok rfl), scenes⟩

include checked alike registered in
/-- A first part in a namespace calls a message of the bundle that stands for
it, with as many arguments as the message has parameters. -/
theorem resolvesPart_qualified
    (bound bound' suppliers : Suppliers) (computed : Dictionary Cell)
    {expression : Expression} (member : expression ∈ template.allExpressions)
    {qualifier : String} (qualified : expression.qualifier = some qualifier)
    {part : Part} {rest : List Part} (split : expression.parts = part :: rest) :
    (knowing names templates).ResolvesPart
      ⟨catalog.engine, services, bound⟩
      ⟨catalog.engine.watchingLookups watchers computed suppliers, services',
        bound'⟩ [] expression part none := by
  apply Comparison.resolvesPart_named qualified
  · rfl
  intro arguments counted
  rw [Comparison.part_rename_knowing]
  show Option.Rel _ (catalog.engine.namespaces.get? qualifier)
    (catalog.engine.namespaces.get? qualifier)
  cases asked : catalog.engine.namespaces.get? qualifier with
  | none => exact .none
  | some chain =>
      rcases checked.namespaces qualifier chain asked with ⟨bundle, found, rfl⟩
      rcases mem_of_bundle? found with ⟨inside, rfl⟩
      rcases exists_message_of_no_complaint
        (checked.uses template registered expression member)
        qualified found split with ⟨message, called, parameters⟩
      refine .some (.cons ⟨rfl, fun scene scene' scenes => ?_⟩ .nil)
      have rendersAlike :
          Comparison.ServicesAlike (knowing names templates).states Eq
          (Comparison.Both (catalog.IsCall templates)) services services' :=
            alike
      refine Comparison.answers_bundle (fun _ _ => And.left) ⟨.null, part,
        arguments, true, services⟩
        ⟨.null, part, arguments, true, services'⟩ called called rfl
          (counted.trans parameters)
        rendersAlike ?_ scenes
      rintro locale id body state rfl selected stands
      exact .intro inside (List.mem_of_find?_eq_some called) selected
        (Registry.get_eq_ok.mp stands) (counted.trans parameters)

include checked quiet alike registered looksUp in
/-- The expressions of a template that looks up known names only are resolved
alike, whatever watches the lookups. -/
theorem resolves
    (bound bound' suppliers : Suppliers) (computed : Dictionary Cell)
    {expression : Expression} (member : expression ∈ template.allExpressions) :
    (knowing names templates).ResolvesUnlessLiteral
      ⟨catalog.engine, services, bound⟩
      ⟨catalog.engine.watchingLookups watchers computed suppliers, services',
        bound'⟩ [] expression := by
  intro literal
  constructor
  · intro part rest split
    cases named : expression.qualifier with
    | none =>
        exact checked.resolvesPart_unqualified quiet bound bound' suppliers
          computed named
          (looksUp part.name (Template.mem_lookedUp member named literal split))
    | some qualifier =>
        exact checked.resolvesPart_qualified alike registered bound bound'
          suppliers computed member named split
  · intro part _ base arguments _ scene scene' scenes
    apply Comparison.ask_behind _ checked.general _ scenes
    · rfl
    · exact fun watcher among => (quiet watcher among).refuses (.inl rfl)

include checked quiet alike registered looksUp in
theorem renderTemplate
    (bound bound' suppliers : Suppliers) (computed : Dictionary Cell)
    {scene scene' : Scene}
    (scenes : (knowing names templates).Scenes scene scene') :
    (knowing names templates).StartsAlike Eq
      (Evaluator.renderTemplate ⟨catalog.engine, services,
        bound⟩ template scene)
      (Evaluator.renderTemplate
        ⟨catalog.engine.watchingLookups watchers computed suppliers,
          services', bound'⟩
        template scene') := by
  apply Comparison.renderTemplate_alike _
    (Comparison.templatesAlike_of_ids rfl template) _ scenes
  · exact ⟨rfl, rfl, fun mapper member =>
      (checked.mappers mapper member).mapsAlike⟩
  · intro expression among inner within
    apply checked.resolves quiet alike registered looksUp
    exact List.mem_flatMap.mpr ⟨expression, among, within⟩

/-- Instances for one call in one state with the registered templates. -/
abbrev SameCalls (templates : Dictionary Template) (template : Template)
    (names : List String) :
    Instance × EngineState → Instance × EngineState → Prop :=
  BothAgree (Instance.SameCall template names)
    (Comparison.steady templates).states

theorem partsAgree_sameCalls (template : Template) :
    PartsAgree Engine.sceneOf Engine.withScene
      (SameCalls templates template names)
      (knowing names templates).Scenes where
  parts := by
    rintro ⟨target, state⟩ ⟨target', _⟩ ⟨call, rfl, steady⟩
    exact ⟨⟨call.data, call.known⟩, rfl, steady⟩
  updates := by
    rintro ⟨data, state⟩ ⟨data', _⟩ ⟨target, _⟩ ⟨target', _⟩ ⟨⟨same, known⟩,
      rfl, steady⟩ ⟨call, -⟩
    exact ⟨⟨call.template, same, known, call.callbacks⟩, rfl, steady⟩

include checked quiet alike registered looksUp in
theorem renderInstance
    (computed : Dictionary Cell) (suppliers : Suppliers)
    {whole whole' : Instance × EngineState}
    (related : SameCalls templates template names whole whole') :
    StartInStep (SameCalls templates template names) (ResultsAgree Eq Eq)
      (catalog.engine.renderInstance services whole)
      ((catalog.engine.watchingLookups watchers computed
        suppliers).renderInstance services' whole') := by
  have scenes := (partsAgree_sameCalls template).parts _ _ related
  apply Comparison.renderInstance_alike (partsAgree_sameCalls template)
    _ related
  · rw [related.1.template.1, related.1.template.2]
    exact checked.renderTemplate quiet alike registered looksUp _ _ suppliers
      computed scenes
  · rintro ⟨target, state⟩ ⟨target', _⟩ ⟨call, rfl, steady⟩
    have fired : (target.fire state).2 = (target'.fire state).2 := by
      rw [Instance.fire, Instance.fire, call.callbacks]
    refine ⟨⟨call.template, call.data, call.known, ?_⟩, fired, ?_⟩
    · exact congrArg (List.flatMap Callback.registers) call.callbacks
    · exact
        (congrArg Registry.templates
          (Instance.registry_fire target state)).trans steady

include checked in
/-- The instances that are made for a call. -/
theorem sameCalls_prepared
    (watchers : List Resolver) {message : Message} {arguments : List Json}
    (counted : arguments.length = message.parameters.length)
    (template : Template) (locale : Option String) (computed : Dictionary Cell)
    (suppliers : Suppliers)
    {state : EngineState} (steady : state.registry.templates = templates) :
    SameCalls templates template message.parameters
      (catalog.engine.prepared template (message.data locale arguments) state)
      ((catalog.engine.watchingLookups watchers computed suppliers).prepared
        template
        (message.data locale arguments) state) := by
  have kept : (catalog.engine.instantiate template state).1.template =
      template ∧
      (catalog.engine.instantiate template state).2.registry.templates =
          templates := by
    have initializers := checked.initializers
    have start : ({ template } : Instance).template = template := rfl
    rw [Engine.instantiate]
    generalize ({ template } : Instance) = target at start
    revert initializers
    induction catalog.engine.initializers generalizing target state with
    | nil => exact fun _ => ⟨start, steady⟩
    | cons initializer rest ih =>
        intro initializers
        rcases List.forall_mem_cons.mp initializers with ⟨first, others⟩
        have begun := first target state steady
        exact ih begun.2 _ (begun.1.trans start) others
  have watched :
      (catalog.engine.watchingLookups watchers computed suppliers).instantiate
        template state =
      ((catalog.engine.instantiate template state).1.supplied computed
        suppliers,
        (catalog.engine.instantiate template state).2) := by
    simp [Engine.instantiate, Engine.watchingLookups]
  rw [Engine.prepared, Engine.prepared, watched]
  exact
    ⟨⟨⟨kept.1, kept.1⟩, Bindings.explicit_setAll _ rfl,
      message.knows_data counted locale _, rfl⟩,
    rfl, kept.2⟩

include checked quiet in
/-- At every depth, the bodies of messages are rendered alike, whatever watches
the lookups. -/
theorem services_callsAlike
    (computed : Dictionary Cell) (suppliers : Suppliers) (depth : Nat) :
    catalog.CallsAlike templates (catalog.engine.services depth)
      ((catalog.engine.watchingLookups watchers computed suppliers).services
        depth) := by
  induction depth with
  | zero => exact ⟨rfl, fun _ _ _ states => ⟨.ready (.error rfl), states⟩⟩
  | succ depth ih =>
      rw [Engine.services, Engine.services]
      refine ⟨rfl, ?_⟩
      rintro _ _ template _ ⟨⟨rfl, rfl⟩, call⟩ state _ ⟨rfl, steady⟩
      cases call with
      | @intro bundle member message among locale id body _ stands arguments
          counted =>
          have started :=
            checked.sameCalls_prepared watchers counted template locale computed
              suppliers steady
          have registered :=
            Registry.registered_of_get
              (Registry.get_eq_ok.mpr (steady ▸ stands))
          rw [steady] at registered
          have looksUp :=
            checked.lookups bundle member message among locale id template
              body stands
          exact Comparison.renderNested_alike
            (fun _ _ related =>
              checked.renderInstance quiet ih registered looksUp computed
                suppliers related) started

include checked quiet registered looksUp in
/-- The renders of the instances that are made for one call are in step. -/
theorem render (computed : Dictionary Cell) (suppliers : Suppliers) :
    InStep (SameCalls templates template names) (ResultsAgree Eq Eq)
      catalog.engine.render
        (catalog.engine.watchingLookups watchers computed
          suppliers).render := by
  apply Completion.inStep_deferred
  rintro ⟨target, state⟩ ⟨target', _⟩ related
  have states := related.2.1
  dsimp only at states
  subst states
  exact checked.renderInstance quiet
    (checked.services_callsAlike quiet computed suppliers _) registered looksUp
    computed suppliers related

include checked quiet in
theorem renderMessage_eq
    (computed : Dictionary Cell) (suppliers : Suppliers) {state : EngineState}
    (steady : state.registry.templates = templates) {bundle : Bundle}
    (member : bundle ∈ catalog.bundles) {message : Message}
    (among : message ∈ bundle.messages) {arguments : List Json}
    (counted : arguments.length = message.parameters.length)
    {locale : Option String} {id : String}
    (body : message.body locale = .template id) :
    (catalog.watchingLookups watchers computed suppliers).renderMessage message
      locale arguments id state =
      catalog.renderMessage message locale arguments id state := by
  cases stands : state.registry.get id with
  | error error => rw [renderMessage, renderMessage, stands]
  | ok template =>
      have registered := Registry.registered_of_get stands
      rw [steady] at registered
      have looksUp :=
        checked.lookups bundle member message among locale id template body
          (steady ▸ Registry.get_eq_ok.mp stands)
      have ended :=
        (checked.render quiet registered looksUp computed suppliers).drive
          (checked.sameCalls_prepared watchers counted template locale computed
            suppliers steady)
      rcases ended with ⟨results, -, states, -⟩
      rw [Comparison.rel_resultsAgree_eq] at results
      rw [renderMessage_of_get stands, renderMessage_of_get stands,
        watchingLookups, ← results, ← states]

include checked quiet in
/-- The call of a message is the same, whatever watches the lookups. -/
theorem message_eq
    (computed : Dictionary Cell) (suppliers : Suppliers) {state : EngineState}
    (steady : state.registry.templates = templates) (name : String)
    (locale : Option String) (key : String) (arguments : List Json) :
    (catalog.watchingLookups watchers computed suppliers).message name locale
      key arguments state =
      catalog.message name locale key arguments state := by
  have same : (catalog.watchingLookups watchers computed suppliers).bundle?
      name = catalog.bundle? name := rfl
  rw [Catalog.message, Catalog.message, same]
  cases named : catalog.bundle? name with
  | none => rfl
  | some bundle =>
      dsimp only
      cases keyed : bundle.byKey? key with
      | none => rfl
      | some message =>
          dsimp only
          split_ifs with different
          · rfl
          cases body : message.body locale with
          | constant text => rfl
          | template id =>
              exact checked.renderMessage_eq quiet computed suppliers steady
                (mem_of_bundle? named).1
                (List.mem_of_find?_eq_some keyed)
                (not_not.mp different).symm body

end Catalog.Checked

namespace Catalog

variable {definitions : List BundleDefinition}
  {sources : List (String × String)} {engine : Engine}
  {before after : EngineState} {catalog : Catalog}

/-- Without a diagnostic, the templates of a message look up nothing but its
parameters. -/
theorem lookedUp_of_silent
    {state : EngineState} (silent : (catalog.validate state).1 = [])
    {bundle : Bundle} (member : bundle ∈ catalog.bundles) {message : Message}
    (among : message ∈ bundle.messages) {locale : Option String} {id : String}
    {template : Template} (body : message.body locale = .template id)
    (stands : state.registry.templates.get? id = some template) :
    ∀ name ∈ template.lookedUp, name ∈ message.parameters := by
  intro name looked
  rcases List.mem_filterMap.mp looked with ⟨expression, inside, named⟩
  have own : (id, template) ∈ message.templates state.registry := by
    apply List.mem_filterMap.mpr
    exact ⟨message.body locale,
      message.body_mem_bodies locale, by simp [body, stands]⟩
  have listed : (bundle.name, message, id, template) ∈
      catalog.messageTemplates state.registry := by
    apply List.mem_flatMap.mpr
    refine ⟨bundle, member, List.mem_flatMap.mpr ⟨message, among, ?_⟩⟩
    exact List.mem_map.mpr ⟨(id, template), own, rfl⟩
  have none :=
    List.flatMap_eq_nil_iff.mp (List.append_eq_nil_iff.mp silent).1 _ listed
  have said := List.filterMap_eq_nil_iff.mp none expression inside
  simpa [named] using said

theorem checked_of_silent
    (distinct : ∀ definition ∈ definitions,
      (definition.messages.map Prod.fst).Nodup)
    (built : build definitions sources engine before = (.ok catalog, after))
    (builtIn : ∀ resolver ∈ engine.resolvers, resolver ∈ Resolver.BuiltIn.all)
    (unnamed : engine.namespaces = []) {state : EngineState}
    (mappers : ∀ mapper ∈ engine.mappers,
      mapper.Confined state.registry.templates)
    (initializers : ∀ initializer ∈ engine.initializers,
      Initializer.KeepsTemplates state.registry.templates initializer)
    (silent : (catalog.validate state).1 = []) :
    catalog.Checked state.registry.templates := by
  have same := engine_eq built
  constructor
  case general =>
    rw [same]
    exact builtIn
  case mappers =>
    rw [same]
    exact mappers
  case initializers =>
    rw [same]
    exact initializers
  case namespaces =>
    intro qualifier chain asked
    cases found : catalog.bundle? qualifier with
    | none =>
        rw [namespaces_of_no_bundle built found, unnamed] at asked
        cases asked
    | some bundle =>
        rcases mem_of_bundle? found with ⟨inside, rfl⟩
        have served : engine.served bundle.name = [] := by
          rw [Engine.served, unnamed]
          rfl
        rw [namespaces_of_mem built distinct inside served] at asked
        exact ⟨bundle, rfl, (Option.some.inj asked).symm⟩
  case uses =>
    intro template registered expression member
    apply namespaceComplaint?_eq_none _ registered member
    rw [silent]
    exact List.forall_mem_nil _
  case lookups =>
    intro bundle member message among locale id template body stands
    exact lookedUp_of_silent silent member among body stands

/-- What the first part of an expression without namespace resolves to, when the
template looks up known names only: a property to its value in the data, a
method to nothing. -/
theorem Checked.resolvePart_first
    {templates : Dictionary Template} (checked : catalog.Checked templates)
    {names : List String} {template : Template}
    (looksUp : ∀ name ∈ template.lookedUp, name ∈ names)
    {expression : Expression} (member : expression ∈ template.allExpressions)
    (unnamed : expression.qualifier = none)
    (literal : expression.literalValue? = none)
    {part : Part} {rest : List Part} (split : expression.parts = part :: rest)
    {evaluator : Evaluator} (runs : evaluator.engine = catalog.engine)
    (values : List Json) {scene : Scene} (knows : scene.data.Knows names) :
    (part.isMethod = false → ∃ value,
      evaluator.resolvePart [] expression part values none scene =
        (.ready (.ok (.value value)), scene)) ∧
    (part.isMethod = true →
      evaluator.resolvePart [] expression part values none scene =
        (.ready (.ok .notFound), scene)) := by
  constructor
  · intro property
    have looked := Template.mem_lookedUp member unnamed literal split
    rcases knows part.name (looksUp part.name looked) with ⟨value, held⟩
    exact ⟨value, Evaluator.resolvePart_property unnamed property held⟩
  · intro method
    exact Evaluator.resolvePart_method_builtIn (runs ▸ checked.general)
      unnamed method

/--
Names that have been checked without a complaint are found, when they stand for
properties.  A call of a message has a value for each parameter.  In all data
that have them, the first part of each expression without namespace in a body of
the message, argument expressions included, is found when it is a property; it
is not found when it is a method.  During a whole call of a message no property
that stands first in an expression is ever asked of anything but the data of its
render: whatever resolvers are asked for such properties, and whatever computed
bindings there are, the call ends in the same way.
-/
theorem parameters_checked
    (distinct : ∀ definition ∈ definitions,
      (definition.messages.map Prod.fst).Nodup)
    (built : build definitions sources engine before = (.ok catalog, after))
    (builtIn : ∀ resolver ∈ engine.resolvers, resolver ∈ Resolver.BuiltIn.all)
    (unnamed : engine.namespaces = []) {state : EngineState}
    (mappers : ∀ mapper ∈ engine.mappers,
      mapper.Confined state.registry.templates)
    (initializers : ∀ initializer ∈ engine.initializers,
      Initializer.KeepsTemplates state.registry.templates initializer)
    (silent : (catalog.validate state).1 = []) :
    (∀ bundle ∈ catalog.bundles, ∀ message ∈ bundle.messages, ∀ locale,
      (∀ arguments : List Json, arguments.length = message.parameters.length →
        ∀ bindings : Bindings,
          (bindings.setAll (message.data locale arguments)).data.Knows
            message.parameters) ∧
      ∀ id template, message.body locale = .template id →
        state.registry.get id = .ok template →
        ∀ expression ∈ template.allExpressions,
          expression.qualifier = none → expression.literalValue? = none →
            ∀ part rest, expression.parts = part :: rest →
              ∀ evaluator : Evaluator, evaluator.engine = catalog.engine →
                ∀ values scene, scene.data.Knows message.parameters →
                  (part.isMethod = false → ∃ value,
                    evaluator.resolvePart [] expression part values none scene =
                      (.ready (.ok (.value value)), scene)) ∧
                  (part.isMethod = true →
                    evaluator.resolvePart [] expression part values none scene =
                      (.ready (.ok .notFound), scene))) ∧
    ∀ watchers, (∀ watcher ∈ watchers, watcher.TakesLookups) →
      ∀ computed suppliers,
      ∀ later :
    EngineState, later.registry.templates = state.registry.templates →
        ∀ name locale key arguments,
          (catalog.watchingLookups watchers computed suppliers).message name
            locale key arguments later =
            catalog.message name locale key arguments later := by
  have checked :=
    checked_of_silent distinct built builtIn unnamed mappers initializers silent
  constructor
  · intro bundle member message among locale
    refine ⟨fun arguments counted => message.knows_data counted locale, ?_⟩
    intro id template body stands expression inside rootless literal part rest
      split evaluator runs values
      scene knows
    have looksUp :=
      checked.lookups bundle member message among locale id template body
        (Registry.get_eq_ok.mp stands)
    exact checked.resolvePart_first looksUp inside rootless literal split runs
      values knows
  · intro watchers quiet computed suppliers later steady name locale key
      arguments
    exact checked.message_eq quiet computed suppliers steady name locale key
      arguments

/-- The parameter that is an argument of a call is found. -/
theorem welcome_finds_name :
    (∀ evaluator : Evaluator, evaluator.engine = welcomeCatalog.engine →
      ∀ values scene, scene.data.Knows ["name"] → ∃ value,
        evaluator.resolvePart []
          (.path none [.property "name"] ⟨"shop_welcome", 1⟩) (.property "name")
          values none scene = (.ready (.ok (.value value)), scene)) ∧
    ∀ watchers, (∀ watcher ∈ watchers, watcher.TakesLookups) →
      ∀ computed suppliers name locale key arguments,
      (welcomeCatalog.watchingLookups watchers computed suppliers).message name
        locale key arguments welcomeState =
        welcomeCatalog.message name locale key arguments welcomeState := by
  have found := parameters_checked (by decide) build_welcome
    (fun _ member =>
      absurd (Engine.mem_ofResolvers.mp member) List.not_mem_nil) rfl
    (Engine.confined_builtIn (List.forall_mem_nil _) {}).mappers
      (List.forall_mem_nil _)
    (show (welcomeCatalog.validate welcomeState).1 = [] by decide)
  constructor
  · intro evaluator runs values scene knows
    have called :=
      (found.1 welcomeBundle List.mem_cons_self _
        (List.mem_cons_of_mem _ List.mem_cons_self)
      none).2 "shop_welcome" (welcomeTemplate "shop_welcome" "2") rfl rfl
    exact (called (.path none [.property "name"] ⟨"shop_welcome", 1⟩)
      (List.mem_cons_of_mem _ List.mem_cons_self) rfl rfl _ _ rfl evaluator runs
        values scene knows).1 rfl
  · exact fun watchers quiet computed suppliers =>
      found.2 watchers quiet computed suppliers welcomeState rfl

/-- Without a diagnostic, each first part of an expression without namespace is
found in every call of its message. -/
def FindsNames (definitions : List BundleDefinition) (engine : Engine)
    (state : EngineState) : Prop :=
  ∀ catalog after, build definitions [] engine state = (.ok catalog, after) →
    (catalog.validate after).1 = [] →
      ∀ bundle ∈ catalog.bundles, ∀ message ∈ bundle.messages, ∀ locale,
        ∀ arguments : List Json, arguments.length = message.parameters.length →
          ∀ id template, message.body locale = .template id →
            after.registry.get id = .ok template →
            ∀ expression ∈ template.allExpressions,
              expression.qualifier = none → expression.literalValue? = none →
                ∀ part rest, expression.parts = part :: rest →
                  ∀ values : List Json, values.length = part.arguments.length →
                    ∃ value,
                      (Completion.driven (Evaluator.resolvePart
                        ⟨catalog.engine, catalog.engine.servicesIn after, .none⟩
                        [] expression part values none
                        ⟨Engine.dataOf (message.data locale arguments),
                          after⟩)).1 =
                          some (.ok (.value value))

/-- A message whose parameter is called as a method. -/
def methodDefinitions : List BundleDefinition :=
  [{ bundle := "a", messages :=
    [("m", { template := "\x7bname()\x7d", parameters := ["name"] })] }]

/-- The call of the method is not complained about, and it is not found. -/
theorem methodDefinitions_miss :
    ¬ FindsNames methodDefinitions (.build Resolver.BuiltIn.all [] [] [] {})
      .empty := by
  intro finds
  have assembled :
      Assembly.ofDefinitions methodDefinitions =
        .ok ⟨[⟨"a", none, [], [⟨"m", "m", ["name"], .template "a_m", []⟩]⟩],
          [("a_m", "\x7bname()\x7d")]⟩ := by
    cbv
  have parsed :
      TemplateNode.parse "a_m" "\x7bname()\x7d" =
        .ok [.placeholder (.path none [.method "name" []] ⟨"a_m", 1⟩)] :=
    Grammar.parse_method guestName_isProperty.1 (by decide) "a_m"
  have built := finds _ _ (by
    rw [build, assembled]
    simp only [List.append_nil, EngineState.registerAll, EngineState.register,
      Registry.register, Registry.issue, Registry.parseAs, parsed]
    rfl) (by rfl)
  have first :=
    built _ List.mem_cons_self _ List.mem_cons_self none [.string "Ada"] rfl
      "a_m" _ rfl rfl _
    List.mem_cons_self rfl rfl _ _ rfl [] rfl
  rcases first with ⟨value, found⟩
  rw [Evaluator.resolvePart_method_builtIn (fun _ => Engine.mem_ofResolvers.mp)
    rfl rfl] at found
  rw [Completion.driven, Completion.drive_ready] at found
  cases found

end Catalog

end Phrasebook
