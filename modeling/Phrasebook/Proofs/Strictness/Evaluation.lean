import Phrasebook.Engine.Render

/-!
# Evaluation without services

The services are all that resolvers and suppliers learn of the engine: its
settings, and the renders of other templates.  Where none of them uses the
services, an evaluation does not depend on them, and on the settings only in
whether foreign handles are allowed.
-/

namespace Phrasebook

/-- A resolver that neither reads the settings of the engine nor renders other
templates. -/
structure Resolver.IgnoresServices (resolver : Resolver) : Prop where
  applies : ∀ request services,
    resolver.applies { request with services } = resolver.applies request
  resolve : ∀ request services,
    resolver.resolve { request with services } = resolver.resolve request

/-- A supplier that neither reads the settings of the engine nor renders other
templates. -/
def Supplier.IgnoresServices (supplier : Supplier) : Prop :=
  ∀ services services' : Services, supplier services = supplier services'

/-- Suppliers all of which ignore the services. -/
def SuppliersIgnoreServices (suppliers : Suppliers) : Prop :=
  ∀ name, Supplier.IgnoresServices (suppliers name)

/-- An engine all of whose resolvers ignore the services. -/
structure Engine.IgnoresServices (engine : Engine) : Prop where
  resolvers : ∀ resolver ∈ engine.resolvers, resolver.IgnoresServices
  namespaces : ∀ qualifier chain, engine.namespaces.get? qualifier =
    some chain →
    ∀ resolver ∈ chain, resolver.IgnoresServices

namespace Evaluator

/-- Two evaluators with the same resolvers and suppliers, all of which ignore
the services, and with the same rule for foreign handles. -/
structure SameSources (evaluator evaluator' : Evaluator) : Prop where
  resolvers : evaluator'.engine.resolvers = evaluator.engine.resolvers
  namespaces : evaluator'.engine.namespaces = evaluator.engine.namespaces
  suppliers : evaluator'.suppliers = evaluator.suppliers
  unrestricted :
    evaluator'.engine.config.unrestrictedAsyncValues =
      evaluator.engine.config.unrestrictedAsyncValues
  ignores : evaluator.engine.IgnoresServices
  ignoring : SuppliersIgnoreServices evaluator.suppliers

namespace SameSources

variable {evaluator evaluator' : Evaluator}
  (same : evaluator.SameSources evaluator')

include same

/-- A chain that ignores the services answers alike with both. -/
theorem ask_eq
    (expression : Expression) (part : Part) (arguments : List Json)
    (base : Json) (topLevel : Bool) {chain : Chain}
    (ignores : ∀ resolver ∈ chain, resolver.IgnoresServices) (scene : Scene) :
    evaluator'.ask expression (evaluator'.request part arguments base topLevel)
      chain scene =
      evaluator.ask expression (evaluator.request part arguments base topLevel)
        chain scene := by
  induction chain generalizing scene with
  | nil => rfl
  | cons resolver rest ih =>
      rcases List.forall_mem_cons.mp ignores with ⟨first, others⟩
      have applies :
          resolver.applies (evaluator'.request part arguments base topLevel) =
          resolver.applies (evaluator.request part arguments base topLevel) :=
        first.applies (evaluator.request part arguments base topLevel)
          evaluator'.services
      have resolve :
          resolver.resolve (evaluator'.request part arguments base topLevel) =
          resolver.resolve (evaluator.request part arguments base topLevel) :=
        first.resolve (evaluator.request part arguments base topLevel)
          evaluator'.services
      simp only [ask, applies, resolve, ih others, same.unrestricted]

theorem runSupplier_eq
    (expression : Expression) (cell : Cell) (ticket : Nat) (scene : Scene) :
    evaluator'.runSupplier expression cell ticket scene =
      evaluator.runSupplier expression cell ticket scene := by
  have ignores :=
    same.ignoring cell.supplier evaluator'.services evaluator.services
  simp only [runSupplier, same.suppliers, ignores, same.unrestricted]

theorem lookupComputed_eq
    (expression : Expression) (cell : Cell) (scene : Scene) :
    evaluator'.lookupComputed expression cell scene =
      evaluator.lookupComputed expression cell scene := by
  simp only [lookupComputed, waiting, same.runSupplier_eq expression cell]

theorem lookupScopes_eq
    (expression : Expression) (part : Part) (arguments : List Json)
    (scopes : List (Dictionary Json)) (scene : Scene) :
    evaluator'.lookupScopes expression part arguments scopes scene =
      evaluator.lookupScopes expression part arguments scopes scene := by
  have asked (base : Json) (topLevel : Bool) :=
    same.ask_eq expression part arguments base topLevel same.ignores.resolvers
  induction scopes generalizing scene with
  | nil =>
      rw [lookupScopes, lookupScopes, same.resolvers, asked]
      cases part.isMethod with
      | true => rfl
      | false =>
          simp only [Bool.false_eq_true, if_false]
          cases scene.data.get? part.name with
          | some value => rfl
          | none =>
              cases scene.data.cell? part.name with
              | none => rfl
              | some cell => exact same.lookupComputed_eq expression cell scene
  | cons bindings outer ih =>
      simp only [lookupScopes, same.resolvers, asked, ih]

theorem resolvePart_eq
    (scopes : List (Dictionary Json)) (expression : Expression) (part : Part)
    (arguments : List Json) (base : Option Json) (scene : Scene) :
    evaluator'.resolvePart scopes expression part arguments base scene =
      evaluator.resolvePart scopes expression part arguments base scene := by
  have asked := same.ask_eq expression part arguments
  cases base with
  | some base =>
      simp only [resolvePart, same.resolvers, asked _ _ same.ignores.resolvers]
  | none =>
      rw [resolvePart, resolvePart, resolveFirst, resolveFirst]
      cases expression.qualifier with
      | none =>
          exact same.lookupScopes_eq expression part arguments scopes scene
      | some qualifier =>
          dsimp only
          rw [same.namespaces]
          cases served : evaluator.engine.namespaces.get? qualifier with
          | none => rfl
          | some chain =>
              exact asked _ _
                (same.ignores.namespaces qualifier chain served) scene

omit same

mutual

/-- Expressions are evaluated alike by evaluators with the same sources. -/
theorem evaluate_eq
    (same : evaluator.SameSources evaluator') (scopes : List (Dictionary Json))
    (expression : Expression) (scene : Scene) :
    evaluator'.evaluate scopes expression scene =
      evaluator.evaluate scopes expression scene := by
  match expression with
  | .mk qualifier parts constant origin =>
      rw [evaluate, evaluate]
      split
      · rfl
      · exact evaluateParts_eq same scopes _ none parts scene

theorem evaluateParts_eq
    (same : evaluator.SameSources evaluator') (scopes : List (Dictionary Json))
    (expression : Expression)
    (base : Option Json) (parts : List Part) (scene : Scene) :
    evaluator'.evaluateParts scopes expression base parts scene =
      evaluator.evaluateParts scopes expression base parts scene := by
  match parts with
  | [] => rw [evaluateParts, evaluateParts]
  | part :: rest =>
      have later (base : Option Json) :=
        funext (evaluateParts_eq same scopes expression base rest)
      simp only [evaluateParts, startArguments_eq same scopes part scene,
        same.resolvePart_eq, later]

theorem startArguments_eq
    (same : evaluator.SameSources evaluator') (scopes : List (Dictionary Json))
    (part : Part) (scene : Scene) :
    evaluator'.startArguments scopes part scene =
      evaluator.startArguments scopes part scene := by
  match part with
  | .property _ => rw [startArguments, startArguments]
  | .method _ arguments =>
      rw [startArguments, startArguments]
      exact startAll_eq same scopes arguments scene

theorem startAll_eq
    (same : evaluator.SameSources evaluator') (scopes : List (Dictionary Json))
    (expressions : List Expression) (scene : Scene) :
    evaluator'.startAll scopes expressions scene =
      evaluator.startAll scopes expressions scene := by
  match expressions with
  | [] => rw [startAll, startAll]
  | expression :: rest =>
      have others := startAll_eq same scopes rest
      simp only [startAll, evaluate_eq same scopes expression scene, others]

end

end SameSources

/-- Starts the nodes of a template and joins their results. -/
def resolveNodes (evaluator : Evaluator) (template : Template) (scene : Scene) :
    Evaluation Scene (List ResultNode) × Scene :=
  let (started, scene) :=
    evaluator.startNodes template.nodes
      (scene.log (.renderingTemplate template.id))
  Completion.all started scene

/-- A template is rendered by resolving its nodes and then writing the
results. -/
theorem renderTemplate_eq_resolveNodes
    (evaluator : Evaluator) (template : Template) (scene : Scene) :
    evaluator.renderTemplate template scene =
      (evaluator.resolveNodes template scene).1.andThen evaluator.write
        (evaluator.resolveNodes template scene).2 :=
  rfl

variable {evaluator evaluator' : Evaluator}
  (same : evaluator.SameSources evaluator')

include same

/-- The nodes of a template are started alike by evaluators with the same
sources. -/
theorem SameSources.startNodes_eq (nodes : List TemplateNode) (scene : Scene) :
    evaluator'.startNodes nodes scene = evaluator.startNodes nodes scene := by
  have first (node : TemplateNode) (scene : Scene) :
      evaluator'.startNode node scene = evaluator.startNode node scene := by
    cases node with
    | text text => rfl
    | placeholder expression => simp only [startNode, same.evaluate_eq]
  induction nodes generalizing scene with
  | nil => rfl
  | cons node rest ih => simp only [startNodes, first, ih]

/-- The nodes of a template are resolved alike. -/
theorem SameSources.resolveNodes_eq (template : Template) (scene : Scene) :
    evaluator'.resolveNodes template scene =
      evaluator.resolveNodes template scene := by
  simp only [resolveNodes, same.startNodes_eq]

end Evaluator

end Phrasebook
