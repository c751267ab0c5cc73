import Mathlib.Data.List.Forall2
import Phrasebook.Proofs.Completion.Conduct
import Phrasebook.Proofs.Scene
import Phrasebook.Proofs.Sequential.Interpreter

/-!
# Oracles and the evaluators that follow them

An oracle fixes what every resolver and every supplier has to say, as shapes
without handles that depend only on the request or on the supplier and the key.
An evaluator follows an oracle when each of its answers is some nest of handles
around the shape that the oracle gives, and neither giving the answer nor
polling its handles writes data.  How the nests are built, how many polls each
handle takes, and what is written into the journal meanwhile, is left open;
foreign handles may occur only where the settings allow them.

`Evaluator.directly` gives the shapes themselves as answers, without any handle.
-/

namespace Phrasebook

namespace Shape

/-- The answer that has a shape and no handle. -/
def answer {σ : Type} : Shape → Resolved σ
  | .ok settled => .ofSettled settled
  | .error cause => .failed cause

/-- The outcome of a shape is a success exactly when the shape is, and with the
same value. -/
theorem toOption_outcome (expression : Expression) (shape : Shape) :
    (shape.outcome expression).toOption = shape.toOption := by
  cases shape <;> rfl

theorem shape?_answer {σ : Type} (shape : Shape) :
    (shape.answer : Resolved σ).shape? = some shape := by
  rcases shape with cause | _ | _ | _ <;> rfl

end Shape

namespace Resolved

mutual

/-- An answer is a nest of handles around a shape. -/
def Wraps (unrestricted : Bool) (shape : Shape) : Resolved Scene → Prop
  | .value found => shape = .ok (.value found)
  | .notFound => shape = .ok .notFound
  | .node result => shape = .ok (.node result)
  | .failed cause => shape = .error cause
  | .completed inner => Wraps unrestricted shape inner
  | .pending handle => HandleWraps unrestricted shape handle
  | .foreign handle => unrestricted = true ∧
      HandleWraps unrestricted shape handle

/-- A handle is never blocked and ends in a nest around a shape. -/
def HandleWraps (unrestricted : Bool) (shape : Shape) :
    Completion Scene (Resolved Scene) → Prop
  | .ready answer => Wraps unrestricted shape answer
  | .pending advance _ => ∀ scene,
      HandlePollWraps unrestricted shape (advance scene)

/-- A poll of a handle was not blocked, and what is left of the handle ends in a
nest around a shape. -/
def HandlePollWraps (unrestricted : Bool) (shape : Shape) :
    Poll Scene (Resolved Scene) → Prop
  | .blocked => False
  | .advanced next _ => HandleWraps unrestricted shape next

end

theorem wraps_answer (unrestricted : Bool) (shape : Shape) :
    (shape.answer : Resolved Scene).Wraps unrestricted shape := by
  rcases shape with cause | _ | _ | _ <;> rfl

theorem keeps_answer {τ : Type} (view : Scene → τ) (shape : Shape) :
    (shape.answer : Resolved Scene).Keeps view := by
  rcases shape with cause | _ | _ | _ <;> trivial

theorem pollYields_reach
    {σ ρ : Type} {expected : ρ → Prop} {completion : Completion σ ρ}
    (yields : completion.Yields expected) (state : σ) :
    Completion.PollYields expected (completion.reach state) :=
  yields.poll state

mutual

/-- Taking the handles off a nest needs no more than polls, and yields the
outcome of its shape. -/
theorem Wraps.flatten
    (expression : Expression) {unrestricted : Bool} {shape : Shape}
    {answer : Resolved Scene} (wraps : answer.Wraps unrestricted shape) :
    (answer.flatten expression unrestricted).Yields
      (· = shape.outcome expression) := by
  match answer with
  | .value _ | .notFound | .node _ | .failed _ =>
      rcases wraps with rfl
      rfl
  | .completed inner =>
      have inside : inner.Wraps unrestricted shape := wraps
      exact inside.flatten expression
  | .pending handle => exact HandleWraps.awaiting expression wraps
  | .foreign handle =>
      rcases wraps with ⟨rfl, inside⟩
      exact HandleWraps.awaiting expression inside

theorem HandleWraps.awaiting
    (expression : Expression) {unrestricted : Bool} {shape : Shape}
    {handle : Completion Scene (Resolved Scene)}
    (wraps : HandleWraps unrestricted shape handle) :
    (Resolved.awaiting expression unrestricted handle).Yields
      (· = shape.outcome expression) := by
  match handle with
  | .ready answer =>
      have inside : answer.Wraps unrestricted shape := wraps
      exact pollYields_reach (inside.flatten expression)
  | .pending advance release =>
      exact fun scene => HandlePollWraps.awaitingPoll expression (wraps scene)

theorem HandlePollWraps.awaitingPoll
    (expression : Expression) {unrestricted : Bool} {shape : Shape}
    {poll : Poll Scene (Resolved Scene)}
    (wraps : HandlePollWraps unrestricted shape poll) :
    Completion.PollYields (· = shape.outcome expression)
      (Resolved.awaitingPoll expression unrestricted poll) := by
  match poll with
  | .blocked => exact wraps
  | .advanced (.ready answer) after =>
      have inside : answer.Wraps unrestricted shape := wraps
      exact pollYields_reach (inside.flatten expression) after
  | .advanced (.pending advance release) after =>
      exact HandleWraps.awaiting expression wraps

end

end Resolved

/-- What a resolver has to say: whether it applies to a request, and what it
answers then. -/
structure Responder where
  applies : Request → Bool
  respond : Request → Option Shape

/-- What all resolvers and suppliers have to say: the general resolvers and
those of each namespace, in the order in which they are asked, and each supplier
under each key that it may be registered with. -/
structure Oracle where
  general : List Responder
  named : Dictionary (List Responder)
  bound : String → String → Shape

/-- The resolver that gives the responses as they are. -/
def Responder.resolver (responder : Responder) : Resolver where
  applies := responder.applies
  resolve request scene := ((responder.respond request).map Shape.answer, scene)

/-- The supplier that gives the shape for a key as it is. -/
def Shape.supplier (shape : String → Shape) : Supplier :=
  fun _ key _ scene => ((shape key).answer, scene)

/-- An answer is a nest around a shape, and its handles write no data. -/
def Resolved.Delivers
    (unrestricted : Bool) (answer : Resolved Scene) (shape : Shape) : Prop :=
  answer.Wraps unrestricted shape ∧ answer.Keeps Scene.data

/-- A resolver gives the responses in nests of handles, and writes no data. -/
structure Resolver.Follows
    (unrestricted : Bool) (resolver : Resolver) (responder : Responder) :
    Prop where
  applies : ∀ request, resolver.applies request = responder.applies request
  answers :
    ∀ request scene,
      Option.Rel (Resolved.Delivers unrestricted)
        (resolver.resolve request scene).1
        (responder.respond request)
  data : ∀ request scene, (resolver.resolve request scene).2.data = scene.data

/-- A supplier gives the shape for a key in nests of handles, whatever the
number of the call, and writes no data. -/
structure Supplier.Follows
    (unrestricted : Bool) (services : Services) (supplier : Supplier)
    (shape : String → Shape) :
    Prop where
  answers :
    ∀ key call scene,
      (supplier services key call scene).1.Delivers unrestricted (shape key)
  data : ∀ key call scene, (supplier services key call scene).2.data =
    scene.data

/-- A mapper whose text depends only on the value and the expression. -/
def Mapper.Stateless (mapper : Mapper) : Prop :=
  ∀ value expression state state',
    (mapper.map value expression state).1 =
      (mapper.map value expression state').1

namespace Evaluator

/-- Whether foreign handles are polled. -/
def unrestricted (evaluator : Evaluator) : Bool :=
  evaluator.engine.config.unrestrictedAsyncValues

/-- All answers of an evaluator are nests of handles around the shapes of an
oracle, no answer writes data, and the texts of its mappers depend only on what
they are given. -/
structure Follows (evaluator : Evaluator) (oracle : Oracle) : Prop where
  resolvers :
    List.Forall₂ (Resolver.Follows evaluator.unrestricted)
      evaluator.engine.resolvers oracle.general
  namespaces :
    ∀ qualifier,
      Option.Rel (List.Forall₂ (Resolver.Follows evaluator.unrestricted))
        (evaluator.engine.namespaces.get? qualifier)
        (oracle.named.get? qualifier)
  suppliers :
    ∀ name,
      Supplier.Follows evaluator.unrestricted evaluator.services
        (evaluator.suppliers name)
        (oracle.bound name)
  mappers : ∀ mapper ∈ evaluator.engine.mappers, mapper.Stateless

/-- The evaluator in which every answer is replaced by the shape that the oracle
gives. -/
def directly (evaluator : Evaluator) (oracle : Oracle) : Evaluator where
  engine := {
    evaluator.engine with
    resolvers := oracle.general.map Responder.resolver
    namespaces := oracle.named.map fun entry =>
      (entry.1, entry.2.map Responder.resolver) }
  services := evaluator.services
  suppliers name := Shape.supplier (oracle.bound name)

theorem follows_resolver (unrestricted : Bool) (responder : Responder) :
    responder.resolver.Follows unrestricted responder where
  applies := fun _ => rfl
  answers := by
    intro request scene
    change Option.Rel _ ((responder.respond request).map Shape.answer) _
    cases responder.respond request with
    | none => exact .none
    | some shape =>
        exact .some ⟨Resolved.wraps_answer _ _, Resolved.keeps_answer _ _⟩
  data := fun _ _ => rfl

theorem follows_resolvers (unrestricted : Bool) (responders : List Responder) :
    List.Forall₂ (Resolver.Follows unrestricted)
      (responders.map Responder.resolver) responders := by
  induction responders with
  | nil => exact .nil
  | cons responder rest ih =>
      exact .cons (follows_resolver unrestricted responder) ih

theorem follows_supplier
    (unrestricted : Bool) (services : Services) (shape : String → Shape) :
    Supplier.Follows unrestricted services (Shape.supplier shape) shape where
  answers := fun _ _ _ => ⟨Resolved.wraps_answer _ _, Resolved.keeps_answer _ _⟩
  data := fun _ _ _ => rfl

variable (evaluator : Evaluator) (oracle : Oracle)

theorem namespaces_directly (qualifier : String) :
    (evaluator.directly oracle).engine.namespaces.get? qualifier =
      (oracle.named.get? qualifier).map (List.map Responder.resolver) :=
  Dictionary.get?_map _ _ _

variable {evaluator oracle}

/-- Giving the shapes themselves is one way to follow an oracle. -/
theorem Follows.directly (follows : evaluator.Follows oracle) :
    (evaluator.directly oracle).Follows oracle where
  resolvers := follows_resolvers _ oracle.general
  namespaces := by
    intro qualifier
    rw [namespaces_directly]
    cases oracle.named.get? qualifier with
    | none => exact .none
    | some responders => exact .some (follows_resolvers _ responders)
  suppliers := fun name => follows_supplier _ _ (oracle.bound name)
  mappers := follows.mappers

end Evaluator

end Phrasebook
