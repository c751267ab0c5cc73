import Mathlib.Tactic.SplitIfs
import Phrasebook.Proofs.Completion.Round
import Phrasebook.Proofs.Evaluation.Discipline
import Phrasebook.Proofs.Progress.Standing

/-!
# Completions that never get stuck

`Clock.Obeys` says of a completion with the posts that it holds what polling it
may lead to, wherever these posts are granted.  A poll is blocked only when
every lookup of the completion waits; otherwise it meets a failure, or it makes
a move, and then it has advanced a handle, or nobody has left a line and what is
left of the completion is ready or waits.  So a poll that advances no handle
leaves behind only lookups that wait, none of them for a run of its own.

The operations on completions respect this, and the lookups in a join hold posts
of their own.  When the posts of a completion are all that there are, it cannot
wait: the first one in each line runs.  Hence no poll of it is blocked, and each
poll ends it or advances a handle.
-/

namespace Phrasebook

open Completion (Doomed doomed_error doomed_all failure? failure?_eq_some)

namespace Scene

/-- None of these lookups runs, and one of them is in line. -/
def AllWait (scene : Scene) (held : Set Stand) : Prop :=
  (∀ stand ∈ held, stand.2.1 = .waiting) ∧ ∃ stand ∈ held,
    stand.2.2 ∈ (scene.data.memo stand.1).line

variable {before after scene : Scene} {held held' : Set Stand}

theorem AllWait.calm (waits : before.AllWait held) (calm : before.Calm after) :
    after.AllWait held := by
  rcases waits with ⟨waiting, stand, member, inLine⟩
  exact ⟨waiting, stand, member, (calm stand.1).subset inLine⟩

theorem AllWait.union_left
    (waits : scene.AllWait held)
    (waiting : ∀ stand ∈ held', stand.2.1 = .waiting) :
    scene.AllWait (held ∪ held') := by
  rcases waits with ⟨waiting', stand, member, inLine⟩
  exact ⟨fun stand member => member.elim (waiting' stand) (waiting stand),
    stand, .inl member, inLine⟩

end Scene

namespace Clock

variable {ε α β γ : Type}

/-- A handle was advanced, or nobody left a line. -/
def Goes (clock : Clock) (before after : Scene) : Prop :=
  clock.Ticked before after ∨ before.Calm after

/-- A handle was advanced, or nobody left a line and what is left is ready or
waits. -/
def Paces
    (clock : Clock) (next : Completion Scene (Except ε α)) (held : Set Stand)
    (before after : Scene) :
    Prop :=
  clock.Ticked before after ∨
    before.Calm after ∧ (next.isReady = true ∧ held = ∅ ∨ after.AllWait held)

mutual

/-- A completion that holds the posts `held`. -/
def Obeys (clock : Clock) : Completion Scene (Except ε α) → Set Stand → Prop
  | .ready _, held => held = ∅
  | .pending advance _, held =>
    ∀ scene, scene.InOrder → (∀ stand ∈ held, scene.Grants stand) →
      PollObeys clock (advance scene) held scene

/-- A poll at a scene, of a completion that held the posts `held`. -/
def PollObeys
    (clock : Clock) : Poll Scene (Except ε α) → Set Stand → Scene → Prop
  | .blocked, held, scene => scene.AllWait held
  | .advanced next after, held, scene =>
    (∃ error, next.failure? = some error) ∨
      ∃ held', clock.Move held held' scene after ∧ Obeys clock next held' ∧
        clock.Paces next held' scene after

end

/-- What a poll of a completion that held the posts `held` has led to. -/
def Polled
    (clock : Clock) (held : Set Stand) (before : Scene)
    (polled : Completion Scene (Except ε α) × Scene) : Prop :=
  (∃ error, polled.1.failure? = some error) ∨
    ∃ held', clock.Move held held' before polled.2 ∧
      clock.Obeys polled.1 held' ∧
      clock.Paces polled.1 held' before polled.2

/-- A computation has been started, and is doomed or obeys. -/
def Starts
    (clock : Clock) (held : Set Stand) (before : Scene)
    (started : Completion Scene (Except ε α) × Scene) : Prop :=
  started.1.Doomed ∨
    ∃ held', clock.Move held held' before started.2 ∧
      clock.Obeys started.1 held' ∧
      clock.Goes before started.2

variable {clock : Clock} {held held' held'' : Set Stand}
  {before between scene : Scene}
  {completion : Completion Scene (Except ε α)}
  {started : Completion Scene (Except ε α) × Scene}

theorem Goes.refl (scene : Scene) : clock.Goes scene scene :=
  .inr (.refl scene)

/-- A clock that has gone on twice has gone on. -/
theorem Goes.trans {after : Scene}
    (first : clock.Goes before between)
    (later : clock.reading before ≤ clock.reading between)
    (second : clock.Goes between after)
    (later' : clock.reading between ≤ clock.reading after) :
    clock.Goes before after := by
  rcases first with ticked | calm
  · exact .inl (ticked.trans later')
  · exact second.imp (fun ticked => ticked.of_le later) calm.trans

theorem Paces.after
    {next : Completion Scene (Except ε α)} {after : Scene}
    (first : clock.Goes before between)
    (later : clock.reading before ≤ clock.reading between)
    (second : clock.Paces next held between after)
    (later' : clock.reading between ≤ clock.reading after) :
    clock.Paces next held before after := by
  rcases first with ticked | calm
  · exact .inl (ticked.trans later')
  · refine second.imp (fun ticked => ticked.of_le later) ?_
    exact fun ⟨calm', rest⟩ => ⟨calm.trans calm', rest⟩

theorem Polled.after
    {polled : Completion Scene (Except ε α) × Scene} (inOrder : before.InOrder)
    (move : clock.Move held held' before between)
    (goes : clock.Goes before between)
    (reached : clock.Polled held' between polled) :
    clock.Polled held before polled := by
  rcases reached with failed | ⟨held'', move', obeys, paces⟩
  · exact .inl failed
  · exact .inr ⟨held'', move.trans inOrder move', obeys,
      paces.after goes move.later move'.later⟩

theorem Starts.after
    (inOrder : before.InOrder) (move : clock.Move held held' before between)
    (goes : clock.Goes before between)
    (starts : clock.Starts held' between started) :
    clock.Starts held before started := by
  rcases starts with doomed | ⟨held'', move', obeys, goes'⟩
  · exact .inl doomed
  · exact .inr ⟨held'', move.trans inOrder move', obeys,
      goes.trans move.later goes' move'.later⟩

theorem starts_ready (result : Except ε α) (inOrder : scene.InOrder) :
    clock.Starts ∅ scene (.ready result, scene) :=
  .inr ⟨∅, .refl inOrder fun _ member => member.elim, rfl, .refl scene⟩

/-- What a poll leads to, blocked or not. -/
theorem Obeys.poll
    (obeys : clock.Obeys completion held) (inOrder : scene.InOrder)
    (grants : ∀ stand ∈ held, scene.Grants stand) :
    clock.Polled held scene (completion.poll scene) := by
  cases completion with
  | ready result =>
      exact .inr ⟨held, .refl inOrder grants, obeys,
        .inr ⟨.refl scene, .inl ⟨rfl, obeys⟩⟩⟩
  | pending advance release =>
      have reached := obeys scene inOrder grants
      rw [Completion.poll]
      cases polled : advance scene with
      | blocked =>
          rw [polled] at reached
          exact .inr ⟨held, .refl inOrder grants, obeys,
            .inr ⟨.refl scene, .inr reached⟩⟩
      | advanced next after =>
          rw [polled] at reached
          exact reached

/-- There was nothing to do for a completion only if it is ready or waits. -/
theorem Obeys.rests
    (obeys : clock.Obeys completion held) (inOrder : scene.InOrder)
    (grants : ∀ stand ∈ held, scene.Grants stand)
    (rests : completion.rests scene = true) :
    completion.poll scene = (completion, scene) ∧
      (completion.isReady = true ∧ held = ∅ ∨ scene.AllWait held) := by
  cases completion with
  | ready result => exact ⟨rfl, .inl ⟨rfl, obeys⟩⟩
  | pending advance release =>
      have reached := obeys scene inOrder grants
      rw [Completion.rests] at rests
      rw [Completion.poll]
      cases polled : advance scene with
      | blocked =>
          rw [polled] at reached
          exact ⟨rfl, .inr reached⟩
      | advanced next after =>
          rw [polled] at rests
          cases rests

theorem Starts.poll
    (inOrder : before.InOrder) (starts : clock.Starts held before started) :
    clock.Polled held before (started.1.poll started.2) := by
  rcases starts with doomed | ⟨held', move, obeys, goes⟩
  · exact .inl (doomed started.2)
  · exact (obeys.poll move.inOrder move.grants).after inOrder move goes

theorem obeys_mapResult
    {ω : Type} (f : Except ε α → Except ω β)
    (failures : ∀ error, ∃ error', f (.error error) = .error error')
    (obeys : clock.Obeys completion held) :
    clock.Obeys (completion.mapResult f) held := by
  induction completion using Completion.ind generalizing held with
  | ready result => exact obeys
  | pending advance release ih =>
      rw [Completion.mapResult]
      intro scene inOrder grants
      have reached := obeys scene inOrder grants
      dsimp only
      cases polled : advance scene with
      | blocked =>
          rw [polled] at reached
          exact reached
      | advanced next after =>
          rw [polled] at reached
          rw [Completion.mapPoll]
          rcases reached with ⟨error, failed⟩ | ⟨held', move, obeys', paces⟩
          · rcases failures error with ⟨error', failed'⟩
            rw [failure?_eq_some.mp failed, Completion.mapResult, failed']
            exact .inl ⟨error', rfl⟩
          · refine .inr ⟨held', move, ih scene next after polled obeys', ?_⟩
            cases next <;> exact paces

theorem Obeys.map (f : α → β) (obeys : clock.Obeys completion held) :
    clock.Obeys (completion.map f) held :=
  obeys_mapResult _ (fun error => ⟨error, rfl⟩) obeys

theorem Starts.map (f : α → β) (starts : clock.Starts held before started) :
    clock.Starts held before (started.1.map f, started.2) := by
  rcases starts with doomed | ⟨held', move, obeys, goes⟩
  · exact .inl (doomed.map f)
  · exact .inr ⟨held', move, obeys.map f, goes⟩

section Chains

variable {next : α → Scene → Completion Scene (Except ε β) × Scene}
  (continues : ∀ value scene, scene.InOrder →
    clock.Starts ∅ scene (next value scene))

include continues

/-- Goes on after a poll. -/
theorem Polled.resume
    (inOrder : before.InOrder)
    (polled : clock.Polled held before (completion, scene)) :
    clock.Polled held before (completion.resume next scene) := by
  induction completion using Completion.ind generalizing held before scene with
  | ready result =>
      cases result with
      | error error =>
          rw [Completion.resume]
          exact .inl ⟨error, rfl⟩
      | ok value =>
          rcases polled with ⟨error, failed⟩ | ⟨held', move, rfl, paces⟩
          · cases failed
          · rw [Completion.resume]
            have later := (continues value scene move.inOrder).poll move.inOrder
            exact later.after inOrder move (paces.imp_right And.left)
  | pending advance release ih =>
      rcases polled with ⟨error, failed⟩ | ⟨held', move, obeys, paces⟩
      · cases failed
      · rw [Completion.resume]
        refine .inr ⟨held', move, fun scene inOrder grants => ?_, paces⟩
        have reached := obeys scene inOrder grants
        dsimp only
        cases advanced : advance scene with
        | blocked =>
            rw [advanced] at reached
            exact reached
        | advanced later after =>
            rw [advanced] at reached
            rw [Completion.resumePoll]
            exact ih scene later after advanced inOrder reached

theorem Obeys.resume
    {advance : Scene → Poll Scene (Except ε α)} {release : Scene → Scene}
    (obeys : clock.Obeys (.pending advance release) held) (scene : Scene) :
    clock.Obeys ((Completion.pending advance release).resume next scene).1
      held := by
  rw [Completion.resume]
  intro scene inOrder grants
  have reached := obeys scene inOrder grants
  dsimp only
  cases advanced : advance scene with
  | blocked =>
      rw [advanced] at reached
      exact reached
  | advanced later after =>
      rw [advanced] at reached
      rw [Completion.resumePoll]
      exact Polled.resume continues inOrder reached

/-- A chain of computations starts by the clock when both of them do. -/
theorem Starts.andThen
    (inOrder : before.InOrder) (starts : clock.Starts held before started) :
    clock.Starts held before (started.1.andThen next started.2) := by
  rcases starts with doomed | ⟨held', move, obeys, goes⟩
  · exact .inl (doomed.andThen started.2)
  · rcases started with ⟨completion, after⟩
    match completion with
    | .ready (.error error) =>
        rw [Completion.andThen_ready_error]
        exact .inl (doomed_error error)
    | .ready (.ok value) =>
        obtain rfl : held' = ∅ := obeys
        exact (continues value after move.inOrder).after inOrder move goes
    | .pending advance release =>
        exact .inr ⟨held', move, Obeys.resume continues obeys after, goes⟩

end Chains

section Joins

variable {combine : α → β → γ} {first : Completion Scene (Except ε α)}
  {second : Completion Scene (Except ε β)}

/-- Two completions that are ready without a failure are ready together. -/
theorem isReady_both
    (ready : first.isReady = true) (met : first.failure? = none)
    (ready' : second.isReady = true) :
    (Completion.both combine first second).isReady = true := by
  match first, second with
  | .ready (.error error), _ => cases met
  | .ready (.ok value), .ready result =>
      simp [Completion.both, Completion.isReady]

/-- When both are ready or wait after a round, then so is what is left of them
together. -/
theorem ready_or_waits_both
    (met : first.failure? = none)
    (left : first.isReady = true ∧ held = ∅ ∨ scene.AllWait held)
    (right : second.isReady = true ∧ held' = ∅ ∨ scene.AllWait held') :
    (Completion.both combine first second).isReady = true ∧ held ∪ held' = ∅ ∨
      scene.AllWait (held ∪ held') := by
  rcases left with ⟨ready, rfl⟩ | waits
  · rw [Set.empty_union]
    exact right.imp_left fun ⟨ready', empty⟩ =>
      ⟨isReady_both ready met ready', empty⟩
  · right
    rcases right with ⟨-, rfl⟩ | waits'
    · rwa [Set.union_empty]
    · exact waits.union_left waits'.1

/-- Two completions that only rest, the first of them not ready, wait with all
that they hold. -/
theorem allWait_of_rests
    (obeys : clock.Obeys first held) (obeys' : clock.Obeys second held')
    (inOrder : scene.InOrder) (grants : ∀ stand ∈ held, scene.Grants stand)
    (grants' : ∀ stand ∈ held', scene.Grants stand)
    (pending : first.isReady = false)
    (rests : (first.rests scene && second.rests (first.poll scene).2) = true) :
    scene.AllWait (held ∪ held') := by
  rw [Bool.and_eq_true] at rests
  rcases rests with ⟨rests, rests'⟩
  rcases obeys.rests inOrder grants rests with ⟨same, ⟨ready, -⟩ | waits⟩
  · cases ready.symm.trans pending
  · rw [same] at rests'
    rcases (obeys'.rests inOrder grants' rests').2 with ⟨-, rfl⟩ | waits'
    · rwa [Set.union_empty]
    · exact waits.union_left waits'.1

/-- A round advances a handle if either poll does, and is calm if both are. -/
theorem paces_both
    (met : first.failure? = none)
    (paces : clock.Paces first held before between)
    (later : clock.reading before ≤ clock.reading between)
    (paces' : clock.Paces second held' between scene)
    (later' : clock.reading between ≤ clock.reading scene) :
    clock.Paces (Completion.both combine first second) (held ∪ held') before
      scene := by
  rcases paces with ticked | ⟨calm, left⟩
  · exact .inl (ticked.trans later')
  rcases paces' with ticked | ⟨calm', right⟩
  · exact .inl (ticked.of_le later)
  · exact .inr ⟨calm.trans calm',
      ready_or_waits_both met (left.imp_right fun waits =>
        waits.calm calm') right⟩

/-- A round of two completions with posts of their own. -/
theorem pollObeys_round
    (obeys : clock.Obeys first held) (obeys' : clock.Obeys second held')
    (apart : Disjoint held held') (inOrder : scene.InOrder)
    (grants : ∀ stand ∈ held ∪ held', scene.Grants stand)
    (pending : first.isReady = false)
    (rejoins : ∀ held held',
      (second.poll (first.poll scene).2).1.failure? = none →
      (first.rests scene && second.rests (first.poll scene).2) = false →
        clock.Obeys (first.poll scene).1 held →
          clock.Obeys (second.poll (first.poll scene).2).1 held' →
            Disjoint held held' →
            clock.Obeys
              (Completion.both combine (first.poll scene).1
                (second.poll (first.poll scene).2).1)
              (held ∪ held')) :
    clock.PollObeys (Completion.round combine first second scene)
      (held ∪ held') scene := by
  have grantsFirst : ∀ stand ∈ held, scene.Grants stand := fun stand member =>
    grants stand (.inl member)
  have grantsSecond : ∀ stand ∈ held', scene.Grants stand := fun stand member =>
    grants stand (.inr member)
  cases met : (first.poll scene).1.failure? with
  | some error =>
      rw [Completion.round_of_first_failed met]
      exact .inl ⟨error, rfl⟩
  | none =>
      rcases obeys.poll inOrder grantsFirst with
        ⟨error, failed⟩ | ⟨held₁, move, left, paces⟩
      · cases met.symm.trans failed
      have grants' := move.keeps_grants apart grantsSecond
      have apart' := move.disjoint inOrder apart grantsSecond
      cases met' : (second.poll (first.poll scene).2).1.failure? with
      | some error =>
          rw [Completion.round_of_second_failed met met']
          exact .inl ⟨error, rfl⟩
      | none =>
          rw [Completion.round_of_none_failed met met']
          split_ifs with rest
          · exact allWait_of_rests obeys obeys' inOrder grantsFirst grantsSecond
              pending rest
          · rw [Bool.not_eq_true] at rest
            rcases obeys'.poll move.inOrder grants' with
              ⟨error, failed⟩ | ⟨held₂, move', right, paces'⟩
            · cases met'.symm.trans failed
            have apart'' :=
              (move'.disjoint move.inOrder apart'.symm move.grants).symm
            refine .inr ⟨held₁ ∪ held₂, ?_,
              rejoins held₁ held₂ met' rest left right apart'', ?_⟩
            · exact (move.beside apart grantsSecond).trans inOrder
                (move'.beside_left apart' move.grants)
            · exact paces_both met paces move.later paces' move'.later

/-- Two completions with posts of their own, driven together. -/
theorem obeys_both
    (combine : α → β → γ) (obeys : clock.Obeys first held)
    (obeys' : clock.Obeys second held') (apart : Disjoint held held') :
    clock.Obeys (Completion.both combine first second) (held ∪ held') := by
  induction first, second using Completion.ind_rounds
      generalizing held held' with
  | ready result second =>
      obtain rfl : held = ∅ := obeys
      cases result with
      | error error =>
          unfold Completion.both Completion.failing
          exact fun scene _ _ => .inl ⟨error, rfl⟩
      | ok value =>
          rw [Set.empty_union, Completion.both]
          exact obeys'.map (combine value)
  | pending advance release second ih =>
      rcases Completion.both_pending combine advance release second with
        ⟨release', rounds⟩
      rw [rounds]
      intro scene inOrder grants
      refine pollObeys_round obeys obeys' apart inOrder grants rfl ?_
      exact fun held₁ held₂ met moved left right apart =>
        ih scene met moved left right apart

end Joins

section Lists

variable {completions : List (Completion Scene (Except ε α))}

/-- Completions with posts of their own. -/
inductive AllObey
    (clock : Clock) : List (Completion Scene (Except ε α)) → Set Stand → Prop
  | nil : AllObey clock [] ∅
  | cons {completion : Completion Scene (Except ε α)}
      {completions : List (Completion Scene (Except ε α))}
      {held held' : Set Stand} (obeys : clock.Obeys completion held)
      (rest : AllObey clock completions held') (apart : Disjoint held held') :
      AllObey clock (completion :: completions) (held ∪ held')

theorem AllObey.together (allObey : clock.AllObey completions held) :
    clock.Obeys (Completion.together completions) held := by
  induction allObey with
  | nil => exact rfl
  | cons obeys _ apart ih => exact obeys_both List.cons obeys ih apart

/-- Joining completions changes nothing in the scene, unless one of them has
failed. -/
theorem AllObey.all (allObey : clock.AllObey completions held) (scene : Scene) :
    (Completion.all completions scene).1.Doomed ∨
      (Completion.all completions scene).2 = scene ∧
        clock.Obeys (Completion.all completions scene).1 held := by
  induction allObey with
  | nil => exact .inr ⟨rfl, rfl⟩
  | @cons completion completions held held' obeys rest apart ih =>
      cases completion with
      | ready result =>
          obtain rfl : held = ∅ := obeys
          cases result with
          | error error =>
              rw [Completion.all]
              exact .inl (doomed_error error)
          | ok value =>
              rw [Set.empty_union, Completion.all]
              exact ih.imp (fun doomed => doomed.map (value :: ·))
                (And.imp_right fun obeys => obeys.map (value :: ·))
      | pending advance release =>
          rw [Completion.all]
          exact .inr ⟨rfl, (AllObey.cons obeys rest apart).together⟩

/-- Computations that were started one after the other take posts of their own,
unless one of them is doomed. -/
theorem allObey_of_startsAll
    {started : List (Evaluation Scene α) × Scene} (inOrder : before.InOrder)
    (starts :
      Evaluator.StartsAll (fun scene started => scene.InOrder →
        clock.Starts ∅ scene started) before
        started) :
    (∃ completion ∈ started.1, completion.Doomed) ∨
      ∃ held, clock.Move ∅ held before started.2 ∧
        clock.AllObey started.1 held ∧
        clock.Goes before started.2 := by
  induction starts with
  | nil scene =>
      exact .inr ⟨∅, .refl inOrder fun _ member => member.elim, .nil,
        .refl scene⟩
  | @cons before between last first others one rest ih =>
      rcases one inOrder with doomed | ⟨held, move, obeys, goes⟩
      · exact .inl ⟨first, List.mem_cons_self, doomed⟩
      rcases ih move.inOrder with
        ⟨completion, member, doomed⟩ | ⟨held', move', allObey, goes'⟩
      · exact .inl ⟨completion, List.mem_cons_of_mem _ member, doomed⟩
      have apart :=
        (move'.disjoint move.inOrder (Set.empty_disjoint held) move.grants).symm
      have beside := move'.beside_left (Set.disjoint_empty held) move.grants
      rw [Set.union_empty] at beside
      exact .inr ⟨held ∪ held', move.trans inOrder beside,
        .cons obeys allObey apart,
        goes.trans move.later goes' move'.later⟩

/-- A join of what has been started in order starts by the clock. -/
theorem starts_all
    {started : List (Evaluation Scene α) × Scene} (inOrder : before.InOrder)
    (starts :
      Evaluator.StartsAll (fun scene started => scene.InOrder →
        clock.Starts ∅ scene started) before
        started) :
    clock.Starts ∅ before (Completion.all started.1 started.2) := by
  rcases allObey_of_startsAll inOrder starts with
    ⟨completion, member, doomed⟩ | ⟨held, move, allObey, goes⟩
  · exact .inl (doomed_all doomed member started.2)
  · rcases allObey.all started.2 with doomed | ⟨same, obeys⟩
    · exact .inl doomed
    · exact .inr ⟨held, by rwa [same], obeys, by rwa [same]⟩

end Lists

/-- All first places in the lines of a scene are of lookups among these that
run. -/
def Alone (held : Set Stand) (scene : Scene) : Prop :=
  ∀ cell ticket, scene.Grants (cell, .running, ticket) →
    (cell, .running, ticket) ∈ held

/-- Lookups that hold all first places cannot all wait. -/
theorem not_allWait (alone : Alone held scene) : ¬ scene.AllWait held := by
  rintro ⟨waiting, ⟨cell, role, ticket⟩, -, inLine⟩
  cases line : (scene.data.memo cell).line with
  | nil => simp [line] at inLine
  | cons first rest =>
      have granted : scene.Grants (cell, .running, first) := by
        rw [Scene.Grants, Memo.Grants, line]
        rfl
      cases waiting _ (alone cell first granted)

theorem Alone.move
    {after : Scene} (alone : Alone held before)
    (move : clock.Move held held' before after) :
    Alone held' after := by
  intro cell ticket granted
  rcases (move.memo cell).firsts ticket granted with mine | ⟨earlier, outside⟩
  · exact mine
  · exact (outside (alone cell ticket earlier)).elim

/-- A completion in a state that a render can reach: it is doomed, or holds all
posts that there are. -/
def Reached
    (clock : Clock) (state : Completion Scene (Except ε α) × Scene) : Prop :=
  state.1.Doomed ∨
    ∃ held, clock.Obeys state.1 held ∧ state.2.InOrder ∧
      (∀ stand ∈ held, state.2.Grants stand) ∧
      Alone held state.2

/-- A poll in a reached state is not blocked; it leads to a reached state, and
it has met the result or has advanced a handle. -/
theorem Reached.advance
    {advance : Scene → Poll Scene (Except ε α)} {release : Scene → Scene}
    (reached : clock.Reached (.pending advance release, scene)) :
    ∃ next after, advance scene = .advanced next after ∧
      clock.Reached (next, after) ∧
      (next.isReady = true ∨ clock.Ticked scene after) := by
  rcases reached with doomed | ⟨held, obeys, inOrder, grants, alone⟩
  · rcases Completion.doomed_pending.mp doomed scene with
      ⟨error, after, advanced⟩
    exact ⟨_, after, advanced, .inl (doomed_error error), .inl rfl⟩
  · have polled := obeys scene inOrder grants
    cases advanced : advance scene with
    | blocked =>
        rw [advanced] at polled
        exact (not_allWait alone polled).elim
    | advanced next after =>
        rw [advanced] at polled
        refine ⟨next, after, rfl, ?_⟩
        rcases polled with ⟨error, failed⟩ | ⟨held', move, obeys', paces⟩
        · rw [failure?_eq_some.mp failed]
          exact ⟨.inl (doomed_error error), .inl rfl⟩
        · have alone' := alone.move move
          refine ⟨.inr ⟨held', obeys', move.inOrder, move.grants, alone'⟩, ?_⟩
          rcases paces with ticked | ⟨-, ⟨ready, -⟩ | waits⟩
          · exact .inr ticked
          · exact .inl ready
          · exact (not_allWait alone' waits).elim

/-- A poll of what has been reached reaches on. -/
theorem Reached.poll
    {state : Completion Scene (Except ε α) × Scene}
    (reached : clock.Reached state) :
    clock.Reached (state.1.poll state.2) := by
  rcases state with ⟨completion, scene⟩
  cases completion with
  | ready result => exact reached
  | pending advance release =>
      rcases reached.advance with ⟨next, after, advanced, later, -⟩
      simpa only [Completion.poll, advanced] using later

/-- All states that the rounds of a render lead to are reached ones. -/
theorem Reached.pollTimes
    {state : Completion Scene (Except ε α) × Scene}
    (reached : clock.Reached state) (rounds : Nat) :
    clock.Reached (Completion.pollTimes rounds state.1 state.2) := by
  induction rounds generalizing state with
  | zero => exact reached
  | succ rounds ih => exact ih reached.poll

/-- Rounds come to an end. -/
theorem Reached.ends
    {completion : Completion Scene (Except ε α)}
    (reached : clock.Reached (completion, scene)) :
    ∃ rounds result after, Completion.pollTimes rounds completion scene =
      (.ready result, after) ∧
      completion.drive scene = (some result, after) := by
  induction completion using Completion.ind generalizing scene with
  | ready result =>
      exact ⟨0, result, scene, rfl, Completion.drive_ready result scene⟩
  | pending advance release ih =>
      rcases reached.advance with ⟨next, after, advanced, later, -⟩
      rcases ih scene next after advanced later with
        ⟨rounds, result, last, polled, driven⟩
      refine ⟨rounds + 1, result, last, ?_, ?_⟩
      · rw [Completion.pollTimes, Completion.poll, advanced]
        exact polled
      · rw [Completion.drive_pending, advanced, Completion.drivePoll_advanced]
        exact driven

/-- A start from idle data reaches its completion. -/
theorem Starts.reached
    (idle : before.data.Idle) (starts : clock.Starts ∅ before started) :
    clock.Reached started := by
  rcases starts with doomed | ⟨held, move, obeys, -⟩
  · exact .inl doomed
  · refine .inr ⟨held, obeys, move.inOrder, move.grants,
      Alone.move (fun cell ticket granted => ?_) move⟩
    rw [Scene.Grants, Memo.Grants, idle cell] at granted
    cases granted

end Clock

end Phrasebook
