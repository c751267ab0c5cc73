import Phrasebook.Proofs.BuiltIn.Order
import Phrasebook.Proofs.Scoping.Weakening

/-!
# Renders and the place of the built-in resolvers

Chains that have the same resolvers for every request are asked alike, so
expressions are evaluated alike, and templates rendered alike in engines that
differ in such chains only; a render inside a resolver is one of the same
engine, one level deeper.  Chains in which the built-in resolvers were
registered at different places are of this kind.
-/

namespace Phrasebook

/-- Two chains have the same resolvers for every request, in the same order. -/
def Chain.Alike (chain chain' : Chain) : Prop :=
  ∀ request : Request,
    chain'.filter (fun resolver => resolver.applies request) =
    chain.filter fun resolver => resolver.applies request

theorem Chain.Alike.answers
    {chain chain' : Chain} (alike : chain.Alike chain') (request : Request)
    (scenes : List Scene) :
    chain'.answers request 0 scenes = chain.answers request 0 scenes := by
  rw [answers_eq_course, answers_eq_course, List.drop_zero, List.drop_zero,
    ← course_filter, alike, course_filter]

/-- The same engine with another chain. -/
def Engine.withChain (chain : Chain) (engine : Engine) : Engine :=
  { engine with resolvers := chain }

@[simp]
theorem Engine.resolvers_withChain (chain : Chain) (engine : Engine) :
    (engine.withChain chain).resolvers = chain :=
  rfl

@[simp]
theorem Engine.namespaces_withChain (chain : Chain) (engine : Engine) :
    (engine.withChain chain).namespaces = engine.namespaces :=
  rfl

namespace Evaluator

/-- Resolvers that do not apply are not asked. -/
theorem ask_filter (evaluator : Evaluator) (expression : Expression)
    (request : Request) (chain : Chain) :
    evaluator.ask expression request (chain.filter fun resolver =>
      resolver.applies request) =
      evaluator.ask expression request chain := by
  funext scene
  induction chain generalizing scene with
  | nil => rfl
  | cons resolver rest ih =>
      by_cases applies : resolver.applies request = true
      · simp [ask, applies, ih]
      · simp [ask, applies, ih]

/-- Of the engine only the settings matter for how a chain is asked. -/
theorem ask_settings
    (engine engine' : Engine) (settings : engine'.config = engine.config)
    (services : Services) (suppliers : Suppliers) (expression : Expression)
    (request : Request) (chain : Chain) :
    (mk engine' services suppliers).ask expression request chain =
      (mk engine services suppliers).ask expression request chain := by
  funext scene
  induction chain generalizing scene with
  | nil => rfl
  | cons resolver rest ih => simp only [ask, ih, settings]

section Alike

variable {engine : Engine} {chain : Chain}
  (alike : engine.resolvers.Alike chain) (services : Services)
  (suppliers : Suppliers)

include alike

/-- Asking the other chain is asking the chain of the engine. -/
theorem ask_alike (expression : Expression) (request : Request) :
    (mk (engine.withChain chain) services suppliers).ask expression
      request chain =
      (mk engine services suppliers).ask expression request
        engine.resolvers := by
  rw [← ask_filter, alike, ask_filter]
  exact ask_settings engine (engine.withChain chain) rfl services suppliers
    expression request
    engine.resolvers

/-- A lookup through the scopes does not tell the chains apart. -/
theorem lookupScopes_alike
    (expression : Expression) (part : Part) (arguments : List Json)
    (scopes : List (Dictionary Json)) :
    (mk (engine.withChain chain) services suppliers).lookupScopes expression
      part arguments scopes =
      (mk engine services suppliers).lookupScopes expression part arguments
        scopes := by
  have asked := ask_alike alike services suppliers expression
  induction scopes with
  | nil =>
      funext scene
      simp only [lookupScopes, request, Engine.resolvers_withChain, asked]
      rfl
  | cons bindings outer ih =>
      funext scene
      simp only [lookupScopes, request, Engine.resolvers_withChain, asked, ih]

theorem resolvePart_alike
    (scopes : List (Dictionary Json)) (expression : Expression) (part : Part)
    (arguments : List Json) (base : Option Json) :
    (mk (engine.withChain chain) services suppliers).resolvePart scopes
      expression part arguments base =
      (mk engine services suppliers).resolvePart scopes expression part
        arguments base := by
  funext scene
  cases base with
  | some base =>
      exact congrFun (ask_alike alike services suppliers expression _) scene
  | none =>
      have served :=
        ask_settings engine (engine.withChain chain) rfl services suppliers
          expression
      simp only [resolvePart, resolveFirst, lookupScopes_alike alike,
        Engine.namespaces_withChain, served]
      rfl

/-- Expressions are evaluated alike with either chain. -/
theorem evaluate_alike
    (scopes : List (Dictionary Json)) (expression : Expression) :
    (mk (engine.withChain chain) services suppliers).evaluate scopes
      expression =
      (mk engine services suppliers).evaluate scopes expression := by
  apply evaluate_congr
  intro inner _ _
  have resolved := resolvePart_alike alike services suppliers scopes inner
  exact ⟨fun part _ arguments => resolved part arguments none,
    fun part arguments base => resolved part arguments (some base)⟩

/-- Templates are rendered alike with either chain. -/
theorem renderTemplate_alike (template : Template) :
    (mk (engine.withChain chain) services suppliers).renderTemplate template =
      (mk engine services suppliers).renderTemplate template := by
  have started : (mk (engine.withChain chain) services suppliers).startNode =
      (mk engine services suppliers).startNode := by
    funext node scene
    cases node with
    | text text => rfl
    | placeholder expression => simp only [startNode, evaluate_alike alike]
  funext scene
  simp only [renderTemplate, startNodes_eq, started]
  rfl

end Alike

end Evaluator

namespace Engine

section Alike

variable {engine : Engine} {chain : Chain}
  (alike : engine.resolvers.Alike chain)

include alike

theorem renderInstance_alike (services : Services) :
    (engine.withChain chain).renderInstance services =
      engine.renderInstance services := by
  funext whole
  simp only [renderInstance, Evaluator.renderTemplate_alike alike]

/-- Nested renders do not tell the chains apart, however deep they nest. -/
theorem services_alike (depth : Nat) :
    (engine.withChain chain).services depth = engine.services depth := by
  induction depth with
  | zero => rfl
  | succ depth ih =>
      rw [services, services, ih]
      simp only [renderNested, renderInstance_alike alike]
      rfl

/-- An instance is rendered alike. -/
theorem render_alike : (engine.withChain chain).render = engine.render := by
  rw [render, render]
  congr 1
  funext whole
  rw [servicesIn, servicesIn, services_alike alike, renderInstance_alike alike]

end Alike

theorem addNamespaces_withChain
    (engine : Engine) (chain : Chain) (others : List NamespaceResolver) :
    others.foldl addNamespace (engine.withChain chain) =
      (others.foldl addNamespace engine).withChain chain := by
  induction others generalizing engine with
  | nil => rfl
  | cons one rest ih => exact ih (engine.addNamespace one)

end Engine

namespace Resolver.BuiltIn

variable {further registered registered' : List Resolver}

/-- The built-in resolvers in another order and at other places make a chain
that is alike. -/
theorem alike_of_among
    (apart : Apart further) (among : Among further registered)
    (among' : Among further registered') :
    (Chain.ofResolvers registered).Alike (.ofResolvers registered') := by
  intro request
  rcases exists_layout apart among with ⟨three, permuted, layout⟩
  rcases exists_layout apart among' with ⟨three', permuted', layout'⟩
  simp only [layout, layout', List.filter_append, filter_ofKinds permuted,
    filter_ofKinds permuted']

/-- The places and the order of the built-in resolvers do not matter.  Let them
be registered twice, each time in any order and anywhere among further
resolvers, none of which has a priority of theirs; they may be registered before
all others, or behind all others.

Then the two chains run through the same answers to any request, whichever
scenes it is made in: from the start, and again behind each answer.  At most one
of the resolvers of objects, arrays and texts applies to a request, none of the
built-in resolvers applies at top level, and the logic stands behind the three
in the chain, with nothing between.  And in engines that differ in nothing else,
namespaces that were added later included, expressions are evaluated and
instances rendered alike. -/
theorem place_irrelevant
    (apart : Apart further) (among : Among further registered)
    (among' : Among further registered') :
    (Among further (all ++ further) ∧ Among further (further ++ all)) ∧
    (∀ (request : Request) (scenes : List Scene),
      (Chain.ofResolvers registered').answers request 0 scenes =
        (Chain.ofResolvers registered).answers request 0 scenes) ∧
    (∀ request : Request,
      (ofKinds.Pairwise fun one other =>
        ¬ (one.applies request = true ∧ other.applies request = true)) ∧
      (request.topLevel = true → ∀ resolver ∈ all, resolver.applies request =
        false)) ∧
    (∃ three : List Resolver, three.Perm ofKinds ∧
      Chain.ofResolvers registered =
        Chain.ofResolvers (further.filter fun resolver =>
          1 < resolver.priority) ++ three ++
          logic :: Chain.ofResolvers (further.filter fun resolver =>
            resolver.priority < 0)) ∧
    ∀ (namespaces others : List NamespaceResolver) (mappers : List Mapper)
      (initializers : List Initializer)
      (config : Config),
      let engine :=
        others.foldl Engine.addNamespace
          (.build registered namespaces mappers initializers config)
      let engine' :=
        others.foldl Engine.addNamespace
          (.build registered' namespaces mappers initializers config)
      (∀ (services : Services) (suppliers : Suppliers)
        (scopes : List (Dictionary Json))
        (expression : Expression),
        (Evaluator.mk engine' services suppliers).evaluate scopes expression =
          (Evaluator.mk engine services suppliers).evaluate scopes expression) ∧
      engine'.render = engine.render := by
  have alike := alike_of_among apart among among'
  refine ⟨⟨among_first further, among_last further⟩, alike.answers,
    fun request =>
      ⟨ofKinds_exclusive request, fun first resolver builtIn =>
        applies_builtIn builtIn first⟩,
    exists_layout apart among,
      fun namespaces others mappers initializers config => ?_⟩
  intro engine engine'
  have chain : engine.resolvers = Chain.ofResolvers registered :=
    Engine.resolvers_addNamespaces others _
  have only : engine' = engine.withChain (.ofResolvers registered') :=
    Engine.addNamespaces_withChain
      (.build registered namespaces mappers initializers config) _ others
  rw [← chain] at alike
  rw [only]
  exact ⟨
    fun services suppliers =>
      Evaluator.evaluate_alike alike services suppliers,
    Engine.render_alike alike⟩

/-- A resolver that is asked before the built-in ones and answers the name of
the part. -/
def echo : Resolver :=
  .ofValue 2 (fun _ => true) fun request => some (.string request.part.name)

/-- A resolver that is asked after the built-in ones and knows nothing but
null. -/
def shrug : Resolver :=
  .ofValue (-1) (fun _ => true) fun _ => some .null

/-- The built-in resolvers registered in another order among these two. -/
def scattered : List Resolver :=
  [logic, shrug, texts, echo, arrays, objects]

/-- A request for the number of items of an array. -/
def sizeRequest : Request where
  base := .array [.bool true]
  part := .property "size"
  arguments := []
  topLevel := false
  services := ⟨{}, fun _ _ state => (.ready (.ok ""), state)⟩

theorem scattered_place_irrelevant :
    Apart [shrug, echo] ∧ Among [shrug, echo] scattered ∧
      ∀ registered : List Resolver, Among [shrug, echo] registered →
        (Chain.ofResolvers registered).answers sizeRequest 0 [default, default,
          default, default] =
          [(some (.value (.string "size")), default),
            (some (.value (.ofNat 1)), default),
            (some (.value .null), default), (none, default)] := by
  have apart : Apart [shrug, echo] := by
    simp [Apart, shrug, echo, ofValue]
  have among : Among [shrug, echo] scattered := by
    refine ⟨all.reverse, List.reverse_perm all, ?_⟩
    exact .left (.right (.left (.right (.left (.left .nil)))))
  refine ⟨apart, among, fun registered among' => ?_⟩
  rw [(place_irrelevant apart among among').2.1]
  have chain : Chain.ofResolvers scattered =
      [echo, texts, arrays, objects, logic, shrug] := by
    simp [Chain.ofResolvers, scattered, List.mergeSort, logic, shrug, texts,
      echo, arrays, objects, ofValue]
  rw [chain]
  rfl

end Resolver.BuiltIn

end Phrasebook
