import Mathlib.Tactic.SplitIfs
import Phrasebook.Proofs.Completion.Drive
import Phrasebook.Proofs.Evaluation.Program

/-!
# Levels of a lookup

A first part without namespace is looked up at levels: the scopes around the
expression, from the innermost one outwards, and last the root.  A level has
names of its own, the bindings of a scope, or at the root the explicit values
and behind them the computed bindings; and behind these it has the resolvers,
which are asked with the object of the scope as base, or with null at the root.
Methods have no names.  Each level is looked at in the scene that the levels
before it have left: what resolvers set or register is found further out.

The first level that ends in anything but not-found decides.
-/

namespace Phrasebook

open Completion (driven driveOn driven_andThen driven_ready)

/-- Where a first part is looked up. -/
inductive Level where
  | scope (bindings : Dictionary Json)
  | root

/-- The levels of a stack of scopes. -/
def levels (scopes : List (Dictionary Json)) : List Level :=
  scopes.map Level.scope ++ [.root]

namespace Evaluator

section Levels

variable (evaluator : Evaluator) (expression : Expression) (part : Part)
  (arguments : List Json)

/-- What one level gives for a part, from one scene to another. -/
inductive Gives : Level → Scene → Except EngineError Settled → Scene → Prop
  | bound {bindings : Dictionary Json} {value : Json} {scene : Scene}
      (property : part.isMethod = false) (bound : bindings.get? part.name =
        some value) :
      Gives (.scope bindings) scene (.ok (.value value)) scene
  | asked {bindings : Dictionary Json} {scene after : Scene}
      {outcome : Except EngineError Settled}
      (unbound : part.isMethod = true ∨ bindings.get? part.name = none)
      (asked :
        driven
          (evaluator.ask expression
            (evaluator.request part arguments (.object bindings) true)
        evaluator.engine.resolvers scene) = (some outcome, after)) :
      Gives (.scope bindings) scene outcome after
  | explicit {value : Json} {scene : Scene}
      (property : part.isMethod = false) (explicit : scene.data.get? part.name =
        some value) :
      Gives .root scene (.ok (.value value)) scene
  | computed {cell : Cell} {scene after : Scene}
      {outcome : Except EngineError Settled} (property : part.isMethod = false)
      (inexplicit : scene.data.get? part.name = none)
      (registered : scene.data.cell? part.name = some cell)
      (computed : driven (evaluator.lookupComputed expression cell scene) =
        (some outcome, after)) :
      Gives .root scene outcome after
  | rootAsked {scene after : Scene} {outcome : Except EngineError Settled}
      (unknown : part.isMethod = true ∨
        scene.data.get? part.name = none ∧ scene.data.cell? part.name = none)
      (asked :
        driven
          (evaluator.ask expression
            (evaluator.request part arguments .null true)
        evaluator.engine.resolvers scene) = (some outcome, after)) :
      Gives .root scene outcome after

/-- Levels at which nothing is found, one after the other. -/
inductive Passes : List Level → Scene → Scene → Prop
  | nil {scene : Scene} : Passes [] scene scene
  | cons {level : Level} {others : List Level} {scene middle after : Scene}
      (nothing : Gives evaluator expression part arguments level scene
        (.ok .notFound) middle)
      (rest : Passes others middle after) :
      Passes (level :: others) scene after

end Levels

section Lookup

variable {evaluator : Evaluator} {expression : Expression} {part : Part}
  {arguments : List Json}
  {scene after : Scene} {outcome : Except EngineError Settled}

/-- The root gives what a lookup without scopes ends with. -/
theorem gives_root_iff :
    evaluator.Gives expression part arguments .root scene outcome after ↔
      driven (evaluator.lookupScopes expression part arguments [] scene) =
        (some outcome, after) := by
  constructor
  · intro gives
    cases gives with
    | explicit property explicit =>
        rw [lookupScopes_explicit property explicit, driven_ready]
    | computed property inexplicit registered computed =>
        rw [lookupScopes_bound property inexplicit registered]
        exact computed
    | rootAsked unknown asked =>
        cases method : part.isMethod with
        | true =>
            rw [lookupScopes_method method]
            exact asked
        | false =>
            rcases unknown.resolve_left
              (by rw [method]; exact Bool.false_ne_true) with
                ⟨inexplicit, unregistered⟩
            rw [lookupScopes_unbound method inexplicit unregistered]
            exact asked
  · intro looked
    cases method : part.isMethod with
    | true =>
        rw [lookupScopes_method method] at looked
        exact .rootAsked (.inl method) looked
    | false =>
        cases explicit : scene.data.get? part.name with
        | some value =>
            rw [lookupScopes_explicit method explicit, driven_ready] at looked
            cases looked
            exact .explicit method explicit
        | none =>
            cases registered : scene.data.cell? part.name with
            | some cell =>
                rw [lookupScopes_bound method explicit registered] at looked
                exact .computed method explicit registered looked
            | none =>
                rw [lookupScopes_unbound method explicit registered] at looked
                exact .rootAsked (.inr ⟨explicit, registered⟩) looked

/-- A scope without a binding of the name gives what the resolvers answer. -/
theorem gives_scope_iff_of_unbound
    {bindings : Dictionary Json}
    (unbound : part.isMethod = true ∨ bindings.get? part.name = none) :
    evaluator.Gives expression part arguments (.scope bindings) scene
      outcome after ↔
      driven
        (evaluator.ask expression
          (evaluator.request part arguments (.object bindings) true)
        evaluator.engine.resolvers scene) = (some outcome, after) := by
  constructor
  · intro gives
    cases gives with
    | asked _ asked => exact asked
    | bound property bound =>
        rcases unbound with method | free
        · rw [method] at property
          cases property
        · rw [free] at bound
          cases bound
  · exact .asked unbound

theorem gives_scope_iff_of_bound
    {bindings : Dictionary Json} {value : Json}
    (property : part.isMethod = false)
    (bound : bindings.get? part.name = some value) :
    evaluator.Gives expression part arguments (.scope bindings) scene
      outcome after ↔
      outcome = .ok (.value value) ∧ after = scene := by
  constructor
  · intro gives
    cases gives with
    | bound _ found =>
        rw [bound] at found
        cases found
        exact ⟨rfl, rfl⟩
    | asked unbound _ =>
        rcases unbound with method | free
        · rw [method] at property
          cases property
        · rw [bound] at free
          cases free
  · rintro ⟨rfl, rfl⟩
    exact .bound property bound

/-- A lookup in an enclosing scope ends with what the scope gives, unless that
is not-found, and then it goes on at the levels further out. -/
theorem driven_lookupScopes_cons
    {bindings : Dictionary Json} {outer : List (Dictionary Json)} :
    driven
      (evaluator.lookupScopes expression part arguments (bindings :: outer)
        scene) =
        (some outcome, after) ↔
      evaluator.Gives expression part arguments (.scope bindings) scene
        outcome after ∧
          outcome ≠ .ok .notFound ∨
        ∃ middle,
          evaluator.Gives expression part arguments (.scope bindings) scene
            (.ok .notFound) middle ∧
          driven
            (evaluator.lookupScopes expression part arguments outer middle) =
              (some outcome, after) := by
  cases own : if part.isMethod then none else bindings.get? part.name with
  | some value =>
      split_ifs at own with method
      have property : part.isMethod = false := Bool.eq_false_iff.mpr method
      rw [lookupScopes, if_neg method, own]
      simp only [driven_ready, gives_scope_iff_of_bound property own]
      constructor
      · intro same
        cases same
        exact .inl ⟨⟨rfl, rfl⟩, by rintro ⟨⟩⟩
      · rintro (⟨⟨rfl, rfl⟩, -⟩ | ⟨_, ⟨found, -⟩, -⟩)
        · rfl
        · cases found
  | none =>
      have unbound : part.isMethod = true ∨ bindings.get? part.name = none := by
        split_ifs at own with method
        · exact .inl method
        · exact .inr own
      rw [lookupScopes_cons own, Program.bind, driven_andThen]
      simp only [gives_scope_iff_of_unbound unbound]
      change driveOn _ (driven (evaluator.ask expression _ _ scene)) = _ ↔ _
      generalize driven
        (evaluator.ask expression
          (evaluator.request part arguments (.object bindings) true)
        evaluator.engine.resolvers scene) = asked
      rcases asked with ⟨_ | error | settled, middle⟩
      case none => simp [driveOn]
      case some.error =>
        rw [driveOn]
        constructor
        · intro same
          cases same
          exact .inl ⟨rfl, by rintro ⟨⟩⟩
        · rintro (⟨same, -⟩ | ⟨_, nothing, -⟩)
          · exact same
          · cases nothing
      case some.ok =>
        rw [driveOn]
        cases settled with
        | notFound =>
            simp only [Settled.isNotFound, if_true]
            constructor
            · exact fun later => .inr ⟨middle, rfl, later⟩
            · rintro (⟨same, found⟩ | ⟨_, same, later⟩)
              · cases same
                exact (found rfl).elim
              · cases same
                exact later
        | value | node =>
            simp only [Settled.isNotFound, Bool.false_eq_true, if_false,
              driven_ready]
            constructor
            · intro same
              cases same
              exact .inl ⟨rfl, by rintro ⟨⟩⟩
            · rintro (⟨same, -⟩ | ⟨_, nothing, -⟩)
              · exact same
              · cases nothing

/-- A lookup ends with what the first level gives that finds something or fails,
after levels at which nothing is found; not-found is what the root gives. -/
theorem driven_lookupScopes_iff {scopes : List (Dictionary Json)} :
    driven (evaluator.lookupScopes expression part arguments scopes scene) =
      (some outcome, after) ↔
      ∃ inner level outer middle, levels scopes = inner ++ level :: outer ∧
        evaluator.Passes expression part arguments inner scene middle ∧
        evaluator.Gives expression part arguments level middle outcome after ∧
        (outcome = .ok .notFound → outer = []) := by
  induction scopes generalizing scene with
  | nil =>
      rw [← gives_root_iff]
      constructor
      · intro gives
        exact ⟨[], .root, [], scene, rfl, .nil, gives, fun _ => rfl⟩
      · rintro ⟨inner, level, outer, middle, split, passes, gives, -⟩
        cases inner with
        | nil =>
            cases split
            cases passes
            exact gives
        | cons first inner => cases inner <;> cases split
  | cons bindings scopes ih =>
      have split : levels (bindings :: scopes) =
          .scope bindings :: levels scopes := rfl
      rw [driven_lookupScopes_cons, split]
      constructor
      · rintro (⟨gives, found⟩ | ⟨middle, nothing, later⟩)
        · exact ⟨[], _, _, scene, rfl, .nil, gives, fun same =>
            (found same).elim⟩
        · rcases ih.mp later with
            ⟨inner, level, outer, between, split, passes, gives, last⟩
          exact ⟨_ :: inner, level, outer, between, congrArg _ split,
            .cons nothing passes, gives, last⟩
      · rintro ⟨inner, level, outer, middle, split, passes, gives, last⟩
        cases passes with
        | nil =>
            cases split
            refine .inl ⟨gives, fun same => ?_⟩
            exact List.append_ne_nil_of_right_ne_nil _ (List.cons_ne_nil _ _)
              (last same)
        | cons nothing passes =>
            rcases List.cons.inj split with ⟨rfl, rest⟩
            exact .inr ⟨_, nothing,
              ih.mpr ⟨_, level, outer, middle, rest, passes, gives, last⟩⟩

end Lookup

end Evaluator

end Phrasebook
