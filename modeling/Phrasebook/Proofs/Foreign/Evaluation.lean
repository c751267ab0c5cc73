import Phrasebook.Engine.Render
import Phrasebook.Proofs.ComputedBinding
import Phrasebook.Proofs.Foreign.Answer

/-!
# Evaluators that vouch for each other

One evaluator vouches for another one when its resolvers and suppliers do, one
by one, and both write results alike.  From one and the same scene, what the
first one starts for an expression or for a template then vouches for what the
second one starts: both ask the same resolvers and suppliers in the same scenes
until the first one is bound to fail.
-/

namespace Phrasebook

open Completion
  (Vouches PollVouches StartVouches StartAllVouch startVouches_ready)
open Resolved (SaidVouches)

/-- What one resolver has said vouches for what another one has said: both have
declined, or what the first one has answered vouches for what the second one has
answered. -/
inductive ResponseVouches (unrestricted unrestricted' : Bool) :
    Option (Resolved Scene) × Scene → Option (Resolved Scene) × Scene → Prop
  | declined (scene : Scene) :
      ResponseVouches unrestricted unrestricted' (none, scene) (none, scene)
  | answered {answer answer' : Resolved Scene} {scene scene' : Scene}
      (vouches : SaidVouches unrestricted unrestricted' (answer, scene)
        (answer', scene')) :
      ResponseVouches unrestricted unrestricted' (some answer, scene)
        (some answer', scene')

/-- One resolver with given services vouches for another one with services of
its own. -/
structure Resolver.VouchesFor
    (unrestricted unrestricted' : Bool) (services services' : Services)
    (resolver resolver' : Resolver) :
    Prop where
  applies : ∀ base part arguments topLevel,
    resolver.applies ⟨base, part, arguments, topLevel, services⟩ =
      resolver'.applies ⟨base, part, arguments, topLevel, services'⟩
  responds : ∀ base part arguments topLevel scene,
    ResponseVouches unrestricted unrestricted'
      (resolver.resolve ⟨base, part, arguments, topLevel, services⟩ scene)
      (resolver'.resolve ⟨base, part, arguments, topLevel, services'⟩ scene)

/-- One supplier with given services vouches for another one with services of
its own. -/
def Supplier.VouchesFor
    (unrestricted unrestricted' : Bool) (services services' : Services)
    (supplier supplier' : Supplier) :
    Prop :=
  ∀ key call scene,
    SaidVouches unrestricted unrestricted' (supplier services key call scene)
      (supplier' services' key call scene)

namespace Evaluator

/-- Chains of resolvers that vouch for each other, one by one. -/
abbrev ChainsVouch (evaluator evaluator' : Evaluator) : Chain → Chain → Prop :=
  List.Forall₂
    (Resolver.VouchesFor evaluator.engine.config.unrestrictedAsyncValues
      evaluator'.engine.config.unrestrictedAsyncValues evaluator.services
        evaluator'.services)

/-- One evaluator vouches for another one, part by part. -/
structure VouchesFor (evaluator evaluator' : Evaluator) : Prop where
  resolvers : ChainsVouch evaluator evaluator' evaluator.engine.resolvers
    evaluator'.engine.resolvers
  namespaces : ∀ qualifier,
    Option.Rel (ChainsVouch evaluator evaluator')
      (evaluator.engine.namespaces.get? qualifier)
      (evaluator'.engine.namespaces.get? qualifier)
  suppliers : ∀ name,
    Supplier.VouchesFor evaluator.engine.config.unrestrictedAsyncValues
      evaluator'.engine.config.unrestrictedAsyncValues evaluator.services
        evaluator'.services
      (evaluator.suppliers name) (evaluator'.suppliers name)
  writes : ∀ results scene, evaluator.write results scene =
    evaluator'.write results scene

variable {evaluator evaluator' : Evaluator} {expression : Expression}

/-- Asking chains that vouch for each other vouches. -/
theorem vouches_ask
    {chain chain' : Chain}
    (vouch : ChainsVouch evaluator evaluator' chain chain') (part : Part)
    (arguments : List Json) (base : Json) (topLevel : Bool) (scene : Scene) :
    StartVouches
      (evaluator.ask expression (evaluator.request part arguments base topLevel)
        chain scene)
      (evaluator'.ask expression
        (evaluator'.request part arguments base topLevel) chain' scene) := by
  induction vouch generalizing scene with
  | nil => exact startVouches_ready _ scene
  | @cons resolver resolver' rest rest' first _ ih =>
      have applies := first.applies base part arguments topLevel
      have said := first.responds base part arguments topLevel scene
      rw [ask, ask, request, request, applies]
      split_ifs
      · revert said
        generalize resolver.resolve _ scene = said,
          resolver'.resolve _ scene = said'
        rintro (_ | vouches)
        · exact ih _
        · refine (vouches expression).andThen fun settled scene => ?_
          split_ifs
          · exact ih scene
          · exact startVouches_ready _ scene
      · exact ih scene

section Lookups

variable {cell : Cell}
  (vouches :
    Supplier.VouchesFor evaluator.engine.config.unrestrictedAsyncValues
      evaluator'.engine.config.unrestrictedAsyncValues evaluator.services
        evaluator'.services
      (evaluator.suppliers cell.supplier) (evaluator'.suppliers cell.supplier))

include vouches

theorem vouches_runSupplier (ticket : Nat) (scene : Scene) :
    PollVouches
      (.advanced (evaluator.runSupplier expression cell ticket scene).1
        (evaluator.runSupplier expression cell ticket scene).2)
      (.advanced (evaluator'.runSupplier expression cell ticket scene).1
        (evaluator'.runSupplier expression cell ticket scene).2) := by
  have polled :=
    (vouches cell.key ((scene.noteCall cell).data.memo cell).calls
      (scene.noteCall cell)
    expression).reach
  rw [runSupplier_eq, runSupplier_eq]
  exact polled.ending _ _ _

/-- A lookup that waits vouches when the suppliers do. -/
theorem vouches_waiting (ticket : Nat) :
    Vouches (evaluator.waiting expression cell ticket)
      (evaluator'.waiting expression cell ticket) := by
  rw [waiting, waiting]
  refine .pending fun scene => ?_
  dsimp only
  cases (scene.data.memo cell).value with
  | some settled => exact .advanced (.ready rfl)
  | none =>
      dsimp only
      split_ifs
      · exact vouches_runSupplier vouches ticket scene
      · exact .blocked

/-- The lookup of a computed binding vouches when the suppliers do. -/
theorem vouches_lookupComputed (scene : Scene) :
    StartVouches (evaluator.lookupComputed expression cell scene)
      (evaluator'.lookupComputed expression cell scene) := by
  cases kept : (scene.data.memo cell).value with
  | some settled =>
      rw [lookupComputed_of_kept _ _ kept, lookupComputed_of_kept _ _ kept]
      exact startVouches_ready _ scene
  | none =>
      rw [lookupComputed_of_not_kept _ _ kept,
        lookupComputed_of_not_kept _ _ kept]
      split_ifs
      · exact (vouches_runSupplier vouches _ _).start
      · exact .inr ⟨rfl, vouches_waiting vouches _⟩

end Lookups

variable (vouches : evaluator.VouchesFor evaluator')

include vouches

/-- A lookup through the scopes vouches. -/
theorem VouchesFor.lookupScopes
    (part : Part) (arguments : List Json) (scopes : List (Dictionary Json))
    (scene : Scene) :
    StartVouches (evaluator.lookupScopes expression part arguments scopes scene)
      (evaluator'.lookupScopes expression part arguments scopes scene) := by
  induction scopes generalizing scene with
  | nil =>
      have asked : StartVouches
          (evaluator.ask expression
            (evaluator.request part arguments .null true)
            evaluator.engine.resolvers
            scene)
          (evaluator'.ask expression
            (evaluator'.request part arguments .null true)
            evaluator'.engine.resolvers scene) :=
        vouches_ask vouches.resolvers part arguments .null true scene
      rw [Evaluator.lookupScopes, Evaluator.lookupScopes]
      cases part.isMethod with
      | true => exact asked
      | false =>
          simp only [Bool.false_eq_true, if_false]
          cases scene.data.get? part.name with
          | some value => exact startVouches_ready _ scene
          | none =>
              cases scene.data.cell? part.name with
              | some cell =>
                  exact vouches_lookupComputed
                    (vouches.suppliers cell.supplier) scene
              | none => exact asked
  | cons bindings outer ih =>
      rw [Evaluator.lookupScopes, Evaluator.lookupScopes]
      dsimp only
      split
      · exact startVouches_ready _ scene
      · refine (vouches_ask vouches.resolvers part arguments
          (.object bindings) true scene).andThen
          fun settled scene => ?_
        split_ifs
        · exact ih scene
        · exact startVouches_ready _ scene

theorem VouchesFor.resolvePart
    (scopes : List (Dictionary Json)) (part : Part) (arguments : List Json)
    (base : Option Json) (scene : Scene) :
    StartVouches
      (evaluator.resolvePart scopes expression part arguments base scene)
      (evaluator'.resolvePart scopes expression part arguments base scene) := by
  cases base with
  | some base =>
      exact vouches_ask vouches.resolvers part arguments base false scene
  | none =>
      rw [Evaluator.resolvePart, Evaluator.resolvePart, Evaluator.resolveFirst,
        Evaluator.resolveFirst]
      cases expression.qualifier with
      | none => exact vouches.lookupScopes part arguments scopes scene
      | some qualifier =>
          have served := vouches.namespaces qualifier
          dsimp only
          revert served
          generalize evaluator.engine.namespaces.get? qualifier = found
          generalize evaluator'.engine.namespaces.get? qualifier = found'
          rintro (chains | _)
          · exact vouches_ask chains part arguments .null true scene
          · exact startVouches_ready _ scene

omit vouches

mutual

/-- What is started for an expression vouches for what the other evaluator
starts for it. -/
theorem VouchesFor.evaluate
    (vouches : evaluator.VouchesFor evaluator')
    (scopes : List (Dictionary Json))
    (expression : Expression) (scene : Scene) :
    StartVouches (evaluator.evaluate scopes expression scene)
      (evaluator'.evaluate scopes expression scene) := by
  match expression with
  | .mk qualifier parts constant origin =>
      rw [Evaluator.evaluate, Evaluator.evaluate]
      split
      · exact startVouches_ready _ scene
      · exact VouchesFor.evaluateParts vouches scopes _ none parts scene

/-- Evaluating parts vouches for the other evaluator. -/
theorem VouchesFor.evaluateParts
    (vouches : evaluator.VouchesFor evaluator')
    (scopes : List (Dictionary Json)) (expression : Expression)
    (base : Option Json) (parts : List Part) (scene : Scene) :
    StartVouches (evaluator.evaluateParts scopes expression base parts scene)
      (evaluator'.evaluateParts scopes expression base parts scene) := by
  match parts with
  | [] =>
      rw [Evaluator.evaluateParts, Evaluator.evaluateParts]
      exact startVouches_ready _ scene
  | part :: rest =>
      have arguments := VouchesFor.startArguments vouches scopes part scene
      rw [Evaluator.evaluateParts, Evaluator.evaluateParts]
      refine arguments.all.andThen fun values scene => ?_
      refine (vouches.resolvePart scopes part values base scene).andThen
        fun settled scene => ?_
      split_ifs
      · exact startVouches_ready _ scene
      · exact VouchesFor.evaluateParts vouches scopes expression _ rest scene

theorem VouchesFor.startArguments
    (vouches : evaluator.VouchesFor evaluator')
    (scopes : List (Dictionary Json)) (part : Part) (scene : Scene) :
    StartAllVouch (evaluator.startArguments scopes part scene)
      (evaluator'.startArguments scopes part scene) := by
  match part with
  | .property _ =>
      rw [Evaluator.startArguments, Evaluator.startArguments]
      exact .inr ⟨rfl, .nil⟩
  | .method _ arguments =>
      rw [Evaluator.startArguments, Evaluator.startArguments]
      exact VouchesFor.startAll vouches scopes arguments scene

theorem VouchesFor.startAll
    (vouches : evaluator.VouchesFor evaluator')
    (scopes : List (Dictionary Json))
    (expressions : List Expression) (scene : Scene) :
    StartAllVouch (evaluator.startAll scopes expressions scene)
      (evaluator'.startAll scopes expressions scene) := by
  match expressions with
  | [] =>
      rw [Evaluator.startAll, Evaluator.startAll]
      exact .inr ⟨rfl, .nil⟩
  | expression :: rest =>
      have first := VouchesFor.evaluate vouches scopes expression scene
      rw [Evaluator.startAll, Evaluator.startAll]
      exact (first.map Settled.toValue).cons fun scene =>
        VouchesFor.startAll vouches scopes rest scene

end

include vouches

/-- Starting a node vouches for the other evaluator. -/
theorem VouchesFor.startNode (node : TemplateNode) (scene : Scene) :
    StartVouches (evaluator.startNode node scene)
      (evaluator'.startNode node scene) := by
  cases node with
  | text text => exact startVouches_ready _ scene
  | placeholder expression =>
      rw [Evaluator.startNode, Evaluator.startNode]
      exact (vouches.evaluate [] expression _).andThen fun settled scene =>
        startVouches_ready _ _

theorem VouchesFor.startNodes (nodes : List TemplateNode) (scene : Scene) :
    StartAllVouch (evaluator.startNodes nodes scene)
      (evaluator'.startNodes nodes scene) := by
  induction nodes generalizing scene with
  | nil => exact .inr ⟨rfl, .nil⟩
  | cons node rest ih =>
      rw [Evaluator.startNodes, Evaluator.startNodes]
      exact (vouches.startNode node scene).cons ih

/-- What is started for a template vouches for what the other evaluator starts
for it. -/
theorem VouchesFor.renderTemplate (template : Template) (scene : Scene) :
    StartVouches (evaluator.renderTemplate template scene)
      (evaluator'.renderTemplate template scene) := by
  rw [Evaluator.renderTemplate, Evaluator.renderTemplate]
  refine (vouches.startNodes template.nodes _).all.andThen fun results scene =>
    ?_
  rw [vouches.writes]
  exact startVouches_ready _ _

end Evaluator

end Phrasebook
