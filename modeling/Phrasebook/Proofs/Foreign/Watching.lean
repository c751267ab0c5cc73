import Phrasebook.Proofs.Callback.Quiet
import Phrasebook.Proofs.Comparison.Message
import Phrasebook.Proofs.Foreign.Evaluation
import Phrasebook.Proofs.Progress.Answer

/-!
# Restricted renders under watch

Watching an evaluator replaces the foreign handles in the answers of its
resolvers and suppliers, and has an effect at the moment when one of them is
met.  When foreign handles are not allowed, what stands in them makes no
difference to a render, so they are never polled; and a render in which one of
them is met fails.
-/

namespace Phrasebook

open Completion (StartKeeps driven InStep StartVouches ResultsAgree)
open Resolved (SaidVouches)

/-- The same engine with all its resolvers changed. -/
def Engine.mapResolvers (change : Resolver → Resolver) (engine : Engine) :
    Engine :=
  { engine with
    resolvers := engine.resolvers.map change
    namespaces := engine.namespaces.map fun (qualifier, chain) =>
      (qualifier, chain.map change) }

/-- The chain of a namespace whose resolvers have been changed has the changed
ones. -/
theorem Engine.get?_mapResolvers
    (change : Resolver → Resolver) (engine : Engine) (qualifier : String) :
    (engine.mapResolvers change).namespaces.get? qualifier =
      (engine.namespaces.get? qualifier).map (List.map change) :=
  Dictionary.get?_map _ _ _

section Watching

variable (mark : Scene → Scene)
  (swap : Completion Scene (Resolved Scene) → Completion Scene (Resolved Scene))

/-- A resolver whose answers are watched. -/
def Resolver.watched (resolver : Resolver) : Resolver :=
  { resolver with
    resolve := fun request scene =>
      match resolver.resolve request scene with
      | (none, scene) => (none, scene)
      | (some answer, scene) =>
        (some (answer.watched mark swap), answer.meeting mark scene) }

/-- A supplier whose answers are watched. -/
def Supplier.watched (supplier : Supplier) : Supplier :=
  fun services key call scene =>
    let (answer, scene) := supplier services key call scene
    (answer.watched mark swap, answer.meeting mark scene)

/-- The same evaluator with answers that are watched. -/
def Evaluator.watched (evaluator : Evaluator) : Evaluator where
  engine := evaluator.engine.mapResolvers (Resolver.watched mark swap)
  services := evaluator.services
  suppliers := fun name => Supplier.watched mark swap (evaluator.suppliers name)

variable {mark swap} {evaluator : Evaluator}

/-- A watched resolver vouches for the plain one. -/
theorem Resolver.watched_vouches (services : Services) (resolver : Resolver) :
    Resolver.VouchesFor false false services services
      (resolver.watched mark swap) resolver where
  applies _ _ _ _ := rfl
  responds base part arguments topLevel scene := by
    rw [watched]
    dsimp only
    generalize resolver.resolve _ scene = said
    rcases said with ⟨_ | answer, after⟩
    · exact .declined after
    · exact .answered fun expression =>
        Resolved.vouches_watched mark swap expression answer after

theorem Supplier.watched_vouches (services : Services) (supplier : Supplier) :
    Supplier.VouchesFor false false services services
      (Supplier.watched mark swap supplier) supplier :=
  fun _ _ _ expression => Resolved.vouches_watched mark swap expression _ _

namespace Evaluator

variable (restricted : evaluator.engine.config.unrestrictedAsyncValues = false)

include restricted

theorem chainsVouch_watched (chain : Chain) :
    ChainsVouch (evaluator.watched mark swap) evaluator
      (chain.map (Resolver.watched mark swap)) chain := by
  have unallowed :
      (evaluator.watched mark swap).engine.config.unrestrictedAsyncValues =
          false := restricted
  rw [ChainsVouch, restricted, unallowed, List.forall₂_map_left_iff,
    List.forall₂_same]
  exact fun resolver _ => resolver.watched_vouches evaluator.services

/-- Whatever happens when a foreign handle is met, it happens only in renders
that fail. -/
theorem watched_vouches :
    (evaluator.watched mark swap).VouchesFor evaluator where
  resolvers := chainsVouch_watched restricted evaluator.engine.resolvers
  namespaces qualifier := by
    change Option.Rel _
      ((evaluator.engine.mapResolvers _).namespaces.get? qualifier) _
    rw [Engine.get?_mapResolvers]
    cases evaluator.engine.namespaces.get? qualifier with
    | none => exact .none
    | some chain => exact .some (chainsVouch_watched restricted chain)
  suppliers name := by
    have unallowed :
        (evaluator.watched mark swap).engine.config.unrestrictedAsyncValues =
            false :=
      restricted
    rw [restricted, unallowed]
    exact Supplier.watched_vouches evaluator.services (evaluator.suppliers name)
  writes _ _ := rfl

end Evaluator

end Watching

section Swapping

variable
  {swap : Completion Scene (Resolved Scene) → Completion Scene (Resolved Scene)}
  {expression : Expression}

namespace Comparison

end Comparison

namespace Evaluator

variable {evaluator : Evaluator}
  (restricted : evaluator.engine.config.unrestrictedAsyncValues = false)

include restricted

end Evaluator

end Swapping

end Phrasebook
