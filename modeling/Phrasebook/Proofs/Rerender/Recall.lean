import Phrasebook.Proofs.Completion.Giving
import Phrasebook.Proofs.Completion.Program
import Phrasebook.Proofs.Rerender.Course

/-!
# Programs that give the same again

A value is *recalled* by a program, as long as all bindings are followed and the
data are as they were found or have changed only as others may change them, when
the program, started on them, changes no data and gives the value.

Two programs, one that is run first and one for later, are *steady* when each
value that the first one ends in is recalled by the other one from then on.
Programs that are put together from steady ones, in sequence or in a join, are
steady.
-/

namespace Phrasebook

open Completion (StartGives AllGive)

namespace Watch

variable {α β : Type} (watch : Watch)

/-- From now on a program gives a value, without changing data.  Nothing is said
while a single binding is followed. -/
def Recalled (again : Program Scene α) (value : α) (data : RenderData) : Prop :=
  ∀ bound, watch = .everything bound → ∀ scene : Scene,
    watch.Rely ∅ data scene.data →
    StartGives Scene.data scene.data (.ok value) (again scene)

/-- What a program ends in is recalled by another one. -/
def Steady (start again : Program Scene α) : Prop :=
  ∀ scene : Scene, watch.Sound scene.data →
    watch.Starts Scene.data (OnSuccess (watch.Recalled again)) ∅ scene.data
      (start scene)

variable {watch} {start again : Program Scene α}

theorem lasts_recalled (again : Program Scene α) (value : α) :
    watch.Lasts (watch.Recalled again value) :=
  fun _ _ rely recalled bound same scene rely' =>
    recalled bound same scene (rely.trans rely')

/-- What is recalled in sequence is recalled. -/
theorem Recalled.bind
    {next : α → Program Scene β} {value : α} {last : β} {data : RenderData}
    (recalled : watch.Recalled again value data)
    (recalled' : watch.Recalled (next value) last data) :
    watch.Recalled (again.bind next) last data := by
  intro bound same scene rely
  refine (recalled bound same scene rely).andThen fun state shows => ?_
  rw [← shows] at rely ⊢
  exact recalled' bound same state rely

theorem steady_pure (value : α) :
    watch.Steady (fun scene => (.ready (.ok value), scene)) fun scene =>
      (.ready (.ok value), scene) := by
  intro scene sound
  exact starts_ok sound fun _ _ scene _ => ⟨rfl, rfl⟩

theorem steady_failure (error : EngineError) (again : Program Scene α) :
    watch.Steady (fun scene => (.ready (.error error), scene)) again :=
  fun _ sound => starts_error sound error

/-- Programs in sequence are steady when each of them is. -/
theorem Steady.bind
    {next next' : α → Program Scene β} (steady : watch.Steady start again)
    (steady' : ∀ value, watch.Steady (next value) (next' value)) :
    watch.Steady (start.bind next) (again.bind next') := by
  intro scene sound
  refine (steady scene sound).andThen (fun value state sound recalled =>
    ?_) sound
  refine (steady' value state sound).imp (lasts_recalled again value) ?_ sound
    recalled
  intro result data recalled onSuccess last same
  exact Recalled.bind recalled (onSuccess last same)

theorem Recalled.map
    (f : α → β) {value : α} {data : RenderData}
    (recalled : watch.Recalled again value data) :
    watch.Recalled (again.map f) (f value) data := by
  intro bound same scene rely
  have gives := recalled bound same scene rely
  exact ⟨gives.kept, gives.gives.map f⟩

theorem Steady.map (f : α → β) (steady : watch.Steady start again) :
    watch.Steady (start.map f) (again.map f) :=
  fun scene sound => (steady scene sound).map f fun _ _ => Recalled.map f

/-- What is done beforehand to the engine makes no difference. -/
theorem Steady.prepared
    {prepare prepare' : Scene → Scene}
    (keeps : ∀ scene, (prepare scene).data = scene.data)
    (keeps' : ∀ scene, (prepare' scene).data = scene.data)
    (steady : watch.Steady start again) :
    watch.Steady (fun scene => start (prepare scene)) fun scene =>
      again (prepare' scene) := by
  intro scene sound
  rw [← keeps scene] at sound ⊢
  refine (steady (prepare scene) sound).mono fun result data onSuccess value
    same bound isAll scene' rely => ?_
  rw [← keeps' scene'] at rely ⊢
  exact onSuccess value same bound isAll (prepare' scene') rely

section Joins

variable {starts agains : List (Program Scene α)}

/-- The facts that programs which have been started tend to. -/
def recollections (watch : Watch) (agains : List (Program Scene α)) :
    List (α → RenderData → Prop) :=
  agains.map watch.Recalled

theorem startEach_tends
    (steady : List.Forall₂ watch.Steady starts agains) (scene : Scene)
    (sound : watch.Sound scene.data) :
    ∃ held,
      watch.Step ∅ held scene.data (Program.startEach starts scene).2.data ∧
      AllTend watch Scene.data (Program.startEach starts scene).2.data
        (recollections watch agains)
        (Program.startEach starts scene).1 held := by
  induction steady generalizing scene with
  | nil => exact ⟨∅, .refl sound issued_empty, .nil⟩
  | @cons start again starts agains first _ ih =>
      rcases first scene sound with ⟨held, step, tends⟩
      rcases ih (start scene).2 (step.sound sound) with ⟨held', step', allTend⟩
      have apart := (step'.apart apart_empty_left step.issued).symm
      have beside := step'.beside_left step.issued
      rw [Set.union_empty] at beside
      have stays :=
        tends.later (Lasts.onSuccess (lasts_recalled again))
          (step'.rely (step.sound sound) apart_empty_left)
      exact ⟨held ∪ held', step.trans sound beside,
        .cons (lasts_recalled again) stays allTend apart⟩

/-- Programs that are started again give the values that they gave. -/
theorem recalled_startEach
    {values : List α} {data : RenderData}
    (recalled : AllHold (recollections watch agains) values data)
    {bound : Dictionary Json × Dictionary Cell}
    (isAll : watch = .everything bound) (scene : Scene)
    (rely : watch.Rely ∅ data scene.data) :
    (Program.startEach agains scene).2.data = scene.data ∧
      AllGive Scene.data scene.data values
        (Program.startEach agains scene).1 := by
  induction agains generalizing values scene with
  | nil =>
      cases recalled
      exact ⟨rfl, .nil⟩
  | cons again agains ih =>
      rw [recollections, List.map_cons] at recalled
      cases recalled with
      | cons first others =>
          rcases first bound isAll scene rely with ⟨kept, gives⟩
          rw [← kept] at rely
          have rest := ih others (again scene).2 rely
          rw [kept] at rest
          exact ⟨rest.1, .cons gives rest.2⟩

/-- A join of steady programs. -/
theorem Steady.joinEach (steady : List.Forall₂ watch.Steady starts agains) :
    watch.Steady (Program.joinEach starts) (Program.joinEach agains) := by
  intro scene sound
  rcases startEach_tends steady scene sound with ⟨held, step, allTend⟩
  refine .after sound step
    ((allTend.all (step.sound sound) step.issued).mono ?_)
  intro result data onSuccess values same bound isAll scene rely
  rcases recalled_startEach (onSuccess values same) isAll scene rely with
    ⟨kept, allGive⟩
  exact allGive.all kept

end Joins

end Watch

end Phrasebook
