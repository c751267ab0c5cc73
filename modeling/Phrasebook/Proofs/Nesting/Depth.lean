import Mathlib.Data.List.Chain
import Mathlib.Data.List.Nodup
import Mathlib.Data.List.Perm.Subperm
import Mathlib.Logic.Relation
import Phrasebook.Proofs.Nesting.Evaluation

/-!
# How deep renders nest

A template calls another one when some expression in it, or inside an argument,
is in a namespace whose resolvers may render the other one for its first part.
Where no template leads back to itself, a chain of calls meets every registered
template once at most.  A render then nests no deeper than there are templates,
and how much deeper it would be allowed to nest makes no difference.
-/

namespace Phrasebook

namespace Nesting

open Completion (StartInStep)

/-- A template may render another one.  For each namespace and part `callees`
has the ids of the templates that the resolvers of the namespace may render. -/
def Calls
    (templates : Dictionary Template) (callees : String → Part → String → Prop)
    (template callee : Template) : Prop :=
  ∃ expression ∈ template.expressions, ∃ inner ∈ expression.withArguments,
    ∃ qualifier part rest id,
      inner.qualifier = some qualifier ∧ inner.parts = part :: rest ∧
        callees qualifier part id ∧ templates.get? id = some callee

/-- No chain of calls leads from a template back to itself. -/
def Acyclic
    (templates : Dictionary Template)
    (callees : String → Part → String → Prop) : Prop :=
  ∀ template, ¬ Relation.TransGen (Calls templates callees) template template

/-- All chains of calls from a template are at most as long as a bound. -/
def Shallow
    (templates : Dictionary Template)
    (callees : String → Part → String → Prop) :
    Nat → Template → Prop
  | 0, template => ∀ callee, ¬ Calls templates callees template callee
  | bound + 1, template =>
    ∀ callee, Calls templates callees template callee →
      Shallow templates callees bound callee

variable {templates : Dictionary Template}
  {callees : String → Part → String → Prop}

theorem Calls.mem
    {template callee : Template}
    (calls : Calls templates callees template callee) :
    callee ∈ templates.map Prod.snd := by
  rcases calls with ⟨-, -, -, -, -, -, -, id, -, -, -, found⟩
  exact List.mem_map.mpr ⟨(id, callee), Dictionary.mem_of_get? found, rfl⟩

/-- From a template that is not shallow there is a chain of calls beyond the
bound. -/
theorem exists_chain_of_not_shallow
    {bound : Nat} {template : Template}
    (deep : ¬ Shallow templates callees bound template) :
    ∃ chain : List Template,
      chain.length = bound + 1 ∧
        (template :: chain).IsChain (Calls templates callees) := by
  induction bound generalizing template with
  | zero =>
      rw [Shallow] at deep
      rcases not_forall_not.mp deep with ⟨callee, calls⟩
      exact ⟨[callee], rfl, .cons_cons calls (.singleton callee)⟩
  | succ bound ih =>
      rw [Shallow] at deep
      rcases not_forall.mp deep with ⟨callee, onward⟩
      rcases Classical.not_imp.mp onward with ⟨calls, deeper⟩
      rcases ih deeper with ⟨chain, length_eq, isChain⟩
      exact ⟨callee :: chain, by rw [List.length_cons, length_eq],
        .cons_cons calls isChain⟩

/-- All templates of a chain but the first one are registered. -/
theorem mem_of_isChain
    {template : Template} {chain : List Template}
    (isChain : (template :: chain).IsChain (Calls templates callees)) :
    chain ⊆ templates.map Prod.snd := by
  induction chain generalizing template with
  | nil => exact List.nil_subset _
  | cons callee rest ih =>
      rcases List.isChain_cons_cons.mp isChain with ⟨calls, later⟩
      exact List.cons_subset.mpr ⟨calls.mem, ih later⟩

/-- Without cycles, a chain of calls is no longer than there are templates. -/
theorem Acyclic.shallow
    (acyclic : Acyclic templates callees) (template : Template) :
    Shallow templates callees templates.length template := by
  by_contra deep
  rcases exists_chain_of_not_shallow deep with ⟨chain, length_eq, isChain⟩
  have reaches : (template :: chain).Pairwise
      (Relation.TransGen (Calls templates callees)) :=
    (isChain.imp fun _ _ => Relation.TransGen.single).pairwise
  -- Two equal templates in the chain would make a cycle.
  have distinct : chain.Nodup := by
    refine (List.pairwise_cons.mp reaches).2.imp ?_
    rintro first _ path rfl
    exact acyclic first path
  have short :=
    (List.subperm_of_subset distinct (mem_of_isChain isChain)).length_le
  rw [length_eq, List.length_map] at short
  omega

/-- A shallow template does not lead back to itself. -/
theorem Shallow.not_cyclic
    {bound : Nat} {template : Template}
    (shallow : Shallow templates callees bound template) :
    ¬ Relation.TransGen (Calls templates callees) template template := by
  intro cycle
  rcases Relation.TransGen.head'_iff.mp cycle with ⟨callee, calls, back⟩
  cases bound with
  | zero => exact shallow callee calls
  | succ bound => exact (shallow callee calls).not_cyclic (.tail' back calls)

/-- Calls that always lead down in rank are acyclic. -/
theorem acyclic_of_rank
    (rank : Template → Nat)
    (falls :
      ∀ template ∈ templates.map Prod.snd, ∀ callee,
        Calls templates callees template callee → rank callee < rank template) :
    Acyclic templates callees := by
  have registered {first last : Template}
      (path : Relation.TransGen (Calls templates callees) first last) :
      last ∈ templates.map Prod.snd := by
    rcases Relation.TransGen.tail'_iff.mp path with ⟨_, -, calls⟩
    exact calls.mem
  intro template cycle
  have below {last : Template}
      (path : Relation.TransGen (Calls templates callees) template last) :
      rank last < rank template := by
    induction path with
    | single calls => exact falls template (registered cycle) _ calls
    | tail path calls ih => exact (falls _ (registered path) _ calls).trans ih
  exact (below cycle).false

end Nesting

open Nesting (Calls Acyclic Shallow)
open Completion (StartInStep)

/-- An engine without mappers and initializers, whose general resolvers render
nothing and whose namespaces render only the templates that `callees` tells. -/
structure Engine.CallsOnly
    (templates : Dictionary Template) (callees : String → Part → String → Prop)
    (engine : Engine) :
    Prop where
  unmapped : engine.mappers = []
  uninitialized : engine.initializers = []
  general :
    ∀ resolver ∈ engine.resolvers, ∀ part,
      resolver.RendersOnly templates part fun _ => False
  named :
    ∀ qualifier chain, engine.namespaces.get? qualifier = some chain →
      ∀ resolver ∈ chain, ∀ part,
      resolver.RendersOnly templates part fun template =>
        ∃ id, callees qualifier part id ∧ templates.get? id = some template

namespace Engine

variable {engine : Engine} {templates : Dictionary Template}
  {callees : String → Part → String → Prop} {services services' : Services}
  {template : Template}

theorem CallsOnly.generalInStep
    (callsOnly : engine.CallsOnly templates callees)
    {rendered : Template → Prop}
    (agree : services.Agree templates rendered services') :
    engine.GeneralInStep templates services services' := by
  intro resolver member part
  exact callsOnly.general resolver member part _ _
    (agree.mono fun _ impossible => impossible.elim)

/-- Services that render alike what a template calls make no difference to its
expressions. -/
theorem CallsOnly.headInStep
    (callsOnly : engine.CallsOnly templates callees)
    (agree :
      services.Agree templates (Calls templates callees template) services') :
    ∀ expression ∈ template.expressions,
      ∀ inner ∈ expression.withArguments,
        engine.HeadInStep templates services services' inner := by
  intro expression member inner within qualifier part rest chain named
    split asked resolver among
  refine callsOnly.named qualifier chain asked resolver among part _ _
    (agree.mono ?_)
  rintro callee ⟨id, called, found⟩
  exact ⟨expression, member, inner, within, qualifier, part, rest, id, named,
    split, called, found⟩

theorem config_services (engine : Engine) (depth : Nat) :
    (engine.services depth).config = engine.config := by
  cases depth <;> rfl

/-- What a shallow template calls is rendered alike at all depths from its bound
on. -/
theorem CallsOnly.services_agree
    (callsOnly : engine.CallsOnly templates callees)
    {bound : Nat} (shallow : Shallow templates callees bound template)
    {depth depth' : Nat} (deep : bound ≤ depth) (deep' : bound ≤ depth') :
    (engine.services depth).Agree templates (Calls templates callees template)
      (engine.services depth') := by
  have config : (engine.services depth).config =
      (engine.services depth').config := by
    rw [config_services, config_services]
  induction bound generalizing template depth depth' with
  | zero => exact ⟨config, fun callee calls => (shallow callee calls).elim⟩
  | succ bound ih =>
      refine ⟨config, fun callee calls data state state' agree => ?_⟩
      -- A callee is shallow for a smaller bound, and its services are one level
      -- less deep.
      rcases Nat.exists_eq_add_of_le' deep with ⟨extra, rfl⟩
      rcases Nat.exists_eq_add_of_le' deep' with ⟨extra', rfl⟩
      have inner := ih (shallow callee calls) (Nat.le_add_left bound extra)
        (Nat.le_add_left bound extra')
        (by rw [config_services, config_services])
      exact renderNested_inStep callsOnly.unmapped
        (callsOnly.generalInStep inner)
        (callsOnly.headInStep inner) callsOnly.uninitialized data agree

/-- Where calls are acyclic, a template is rendered alike at all depths that are
not below the number of templates. -/
theorem CallsOnly.renderTemplate_inStep
    (callsOnly : engine.CallsOnly templates callees)
    (acyclic : Acyclic templates callees)
    (template : Template) {depth depth' : Nat}
    (deep : templates.length ≤ depth) (deep' : templates.length ≤ depth')
    {scene scene' : Scene} (agree : scene.Agree templates scene') :
    StartInStep (Scene.Agree templates) SameResult
      (Evaluator.renderTemplate ⟨engine, engine.services depth,
        .none⟩ template scene)
      (Evaluator.renderTemplate ⟨engine, engine.services depth', .none⟩ template
        scene') := by
  have services :=
    callsOnly.services_agree (acyclic.shallow template) deep deep'
  exact Evaluator.renderTemplate_inStep callsOnly.unmapped
    (callsOnly.generalInStep services) template
    (callsOnly.headInStep services) agree

end Engine

end Phrasebook
