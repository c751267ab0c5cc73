import Phrasebook.Proofs.Turns.Chain
import Phrasebook.Proofs.Turns.Evaluation

/-!
# Turns and parts in order

The evaluation of an expression, traced, is the evaluation itself; and its trace
is in order however its polls fall, whatever else happens to the scene between
them, and wherever it is given up.  The chains that are asked have the
registered resolvers by descending priority.
-/

namespace Phrasebook

open Trace

namespace Trace

variable {σ α : Type} {outlines : Address → Option Outline} {mine : Set Address}
  {before : Trace}
  {fact : Except EngineError α → Trace → Prop}

/-- A program that is polled goes on working. -/
theorem Begins.polled
    {program : Program (σ × Trace) α} {whole : σ × Trace}
    (begins : Begins outlines mine fact before (program whole))
    (changes : List (σ → σ)) :
    Begins outlines mine fact before
      (program.polled (changes.map Program.changing) whole) := by
  rw [Program.polled]
  revert begins
  generalize program whole = started
  intro begins
  induction changes generalizing started with
  | nil => exact begins
  | cons change rest ih =>
      rw [List.map_cons, List.foldl_cons]
      refine ih _ ?_
      have works : Works outlines mine fact started.1
          (Program.changing change started.2).2 := begins.works
      exact Begins.preceded begins.step (works.poll begins.step.coherent)

end Trace

/-- The resolvers that were registered for a part of an expression: those of its
namespace for the first part of a namespaced one, and otherwise the general
ones. -/
def registeredFor (resolvers : List Resolver) (ones : List NamespaceResolver)
    (expression : Expression) (part : Nat) :
    List Resolver :=
  match part, expression.qualifier with
  | 0, some qualifier => registeredUnder qualifier ones
  | _, _ => resolvers

namespace Evaluator

/-- The chain that is asked for a part has the resolvers registered for it in
order. -/
theorem orders_outline
    (resolvers : List Resolver) (namespaces others : List NamespaceResolver)
    (mappers : List Mapper) (initializers : List Initializer) (config : Config)
    (services : Services) (suppliers : Suppliers) (expression : Expression)
    (part : Nat) :
    let engine :=
      others.foldl Engine.addNamespace
        (.build resolvers namespaces mappers initializers config)
    let evaluator : Evaluator := ⟨engine, services, suppliers⟩
    Chain.Orders
      (registeredFor resolvers (namespaces ++ others) expression part)
      ((evaluator.outline expression).chain part) := by
  intro engine evaluator
  have general : Chain.Orders resolvers engine.resolvers := by
    rw [Engine.resolvers_addNamespaces]
    exact Chain.ofResolvers_orders resolvers
  cases part with
  | succ part => exact general
  | zero =>
      cases qualified : expression.qualifier with
      | none =>
          rw [chain_unqualified qualified]
          simpa only [registeredFor, qualified] using general
      | some qualifier =>
          rw [chain_qualified qualified]
          simp only [registeredFor, qualified]
          exact Engine.orders_addNamespaces resolvers namespaces others mappers
            initializers config qualifier

/-- Evaluating an expression takes turns and parts in order.  Let an engine be
built of registered resolvers and perhaps be given more of them for namespaces,
let an expression be started at a scene, in any scopes and with any suppliers,
and let it be polled any number of times while others change the scene.

Then tracing makes no difference to the result, to the scene and to what giving
it up does.  Every chain that is asked has the resolvers registered for it by
descending priority, equal priorities in the order of registration, whatever the
order in which different priorities were registered.  And the trace is in order:
no argument is started twice, and all of a part have been started before it is
looked up; a resolver is asked at most once at each level, after all before it
in the chain declined or settled to not-found, and not after an answer; and
nothing is done for a part, nor inside its arguments, before all parts before it
settled to something found. -/
theorem turns_in_order
    (resolvers : List Resolver) (namespaces others : List NamespaceResolver)
    (mappers : List Mapper) (initializers : List Initializer) (config : Config)
    (services : Services) (suppliers : Suppliers)
    (scopes : List (Dictionary Json)) (expression : Expression) (scene : Scene)
    (changes : List (Scene → Scene)) :
    let engine :=
      others.foldl Engine.addNamespace
        (.build resolvers namespaces mappers initializers config)
    let evaluator : Evaluator := ⟨engine, services, suppliers⟩
    let plain :=
      Program.polled (evaluator.evaluate scopes expression) changes scene
    let traced :=
      Program.polled (Traced.evaluate evaluator scopes [] expression)
        (changes.map Program.changing) (scene, [])
    (traced.1.result? = plain.1.result? ∧ traced.2.1 = plain.2 ∧
      ∀ later, traced.1.abandon (later, traced.2.2) =
        (plain.1.abandon later, traced.2.2)) ∧
    ((∀ inner part,
        Chain.Orders (registeredFor resolvers (namespaces ++ others) inner part)
        ((evaluator.outline inner).chain part)) ∧
      ∀ registered : List Resolver,
        (∀ priority : Int,
          registered.filter (fun resolver => resolver.priority = priority) =
          resolvers.filter fun resolver => resolver.priority = priority) →
            Chain.ofResolvers registered = engine.resolvers) ∧
    Orderly (evaluator.outlines expression) traced.2.2 := by
  intro engine evaluator plain traced
  have begins : Begins (evaluator.outlines expression) (inside []) Anyway
      [] traced := by
    refine Begins.polled ?_ changes
    refine Traced.evaluate_begins scopes [] expression rfl (scene,
      []) coherent_nil ?_ fun _ _ => rfl
    intro parent part argument same
    simp at same
  have echoes : Program.Echoes (Traced.evaluate evaluator scopes [] expression)
      (evaluator.evaluate scopes expression) :=
    Traced.evaluate_echoes [] expression
  have echo := echoes.polled changes (scene, [])
  refine ⟨⟨Program.result?_of_echo echo.completions, echo.states, fun later =>
    ?_⟩, ⟨fun inner part => ?_, ?_⟩,
    begins.step.coherent.orderly⟩
  · have kept : (traced.1.abandon (later, traced.2.2)).2 = traced.2.2 :=
      Works.abandon begins.works begins.step.coherent
    exact Prod.ext (Program.abandon_of_echo echo.completions _) kept
  · exact orders_outline resolvers namespaces others mappers initializers config
      services suppliers inner part
  · intro registered same
    rw [Engine.resolvers_addNamespaces]
    exact (Chain.ofResolvers_orders registered).unique
      (Chain.ofResolvers_orders resolvers) same

/-- A resolver that fails `boom` in its second poll and declines everything
else. -/
def alarming : Resolver where
  priority := 1
  resolve request scene :=
    (if request.part.name =
      "boom" then some (.pending (.after 1 id (.failed (.message "no index"))))
        else none,
      scene)

/-- A resolver that gives names back, after a poll. -/
def echoing : Resolver where
  priority := 0
  resolve request scene :=
    (some (.pending (.after 0 id (.value (.string request.part.name)))), scene)

/-- A path with a method whose argument fails. -/
def itemsAtBoom : Expression :=
  let boom : Expression := .mk none [.property "boom"] none ⟨"items", 1⟩
  .mk none [.property "items", .method "get" [boom], .property "size"] none
    ⟨"items", 1⟩

/-- The evaluator of an engine with these two resolvers. -/
def alarmed : Evaluator where
  engine := .build [echoing, alarming] [] [] [] {}
  services := ⟨{}, fun _ _ state => (.ready (.ok ""), state)⟩
  suppliers := .none

/-- The resolver that was registered last is asked first.  When the argument
fails, the method fails without being looked up, and nothing is done for the
last part. -/
theorem itemsAtBoom_in_order :
    let traced := Program.polled (Traced.evaluate alarmed [] [] itemsAtBoom)
      ((List.replicate 4 id).map Program.changing) (default, [])
    traced.2.2.map (fun event => (event.1, event.2.rank)) =
        [([], [0, 1, 0, 0]), ([], [0, 1, 0, 1, 0]), ([], [0, 1, 0, 1, 1]),
          ([], [0, 1, 0, 2, 0]),
          ([], [0, 1, 0, 2, 1]), ([], [0, 2]),
          ([], [1, 0, 0]), ([(1, 0)], [0, 1, 0, 0]),
            ([(1, 0)], [0, 1, 0, 1, 0]), ([(1, 0)], [0, 1, 0, 1, 1]),
          ([(1, 0)], [0, 2]), ([], [1, 2])] ∧
      Orderly (alarmed.outlines itemsAtBoom) traced.2.2 := by
  have ordered : Chain.ofResolvers [echoing, alarming] =
      [alarming, echoing] := by
    simp [Chain.ofResolvers, List.mergeSort, echoing, alarming]
  have inOrder :=
    turns_in_order [echoing, alarming] [] [] [] [] {} alarmed.services .none
      [] itemsAtBoom default
    (List.replicate 4 id)
  refine ⟨?_, inOrder.2.2⟩
  rw [alarmed, Engine.build, ordered]
  decide +kernel

end Evaluator

end Phrasebook
