import Phrasebook.Proofs.ComputedBinding
import Phrasebook.Proofs.Rerender.Recall
import Phrasebook.Proofs.Transparency.Oracle

/-!
# Lookups that find the same again

A resolver is consistent when its answers are nests of handles around shapes
that depend only on the part, the base and the arguments, whichever services of
the engine it is given, and when it writes no data.  A supplier may answer
differently on each call and after any number of polls; it only writes no data,
for it cannot reach any.

Asking a chain of consistent resolvers is steady because they say the same
again; looking up a computed binding is steady because the value that the lookup
ends in has been kept.  The evaluator that looks up again may have other
services of the engine, and any other suppliers.
-/

namespace Phrasebook

/-- What a resolver does when it is asked, at every scene. -/
structure Resolver.Responds
    (unrestricted : Bool) (request : Request) (applies : Bool)
    (response : Option Shape)
    (resolver : Resolver) : Prop where
  applies : resolver.applies request = applies
  answers : ∀ scene,
    Option.Rel (Resolved.Delivers unrestricted)
      (resolver.resolve request scene).1 response
  data : ∀ scene, (resolver.resolve request scene).2.data = scene.data

/-- A resolver that responds to a part, a base and arguments in one way,
whichever of the services it is given. -/
def Resolver.Consistent (unrestricted : Bool) (services : Set Services)
    (resolver : Resolver) : Prop :=
  ∀ base part arguments topLevel, ∃ applies response, ∀ given ∈ services,
    resolver.Responds unrestricted ⟨base, part, arguments, topLevel,
      given⟩ applies response

/-- A supplier that writes no data, and neither do its handles. -/
def Supplier.WritesNothing (services : Services) (supplier : Supplier) : Prop :=
  ∀ key call scene,
    (supplier services key call scene).2.data = scene.data ∧
      (supplier services key call scene).1.Keeps Scene.data

/-- A call of such a supplier, and the first poll of its answer, count the call
and change nothing else. -/
theorem Supplier.WritesNothing.polled
    {evaluator : Evaluator} {cell : Cell}
    (writesNothing :
      (evaluator.suppliers cell.supplier).WritesNothing evaluator.services)
    (expression : Expression) (scene : Scene) :
    let called := evaluator.callSupplier cell scene
    let polled :=
      (called.1.flatten expression
        evaluator.engine.config.unrestrictedAsyncValues).poll called.2
    polled.2.data = (scene.noteCall cell).data ∧ polled.1.Keeps Scene.data := by
  have called :=
    writesNothing cell.key ((scene.noteCall cell).data.memo cell).calls
      (scene.noteCall cell)
  have polled :=
    (called.2.flatten expression
      evaluator.engine.config.unrestrictedAsyncValues).poll
    (evaluator.callSupplier cell scene).2
  exact ⟨polled.1.trans called.1, polled.2⟩

/-- An engine whose resolvers are consistent and whose mappers are stateless. -/
structure Engine.Consistent (services : Set Services) (engine : Engine) :
    Prop where
  resolvers : ∀ resolver ∈ engine.resolvers,
    resolver.Consistent engine.config.unrestrictedAsyncValues services
  namespaces : ∀ qualifier chain, engine.namespaces.get? qualifier =
    some chain →
    ∀ resolver ∈ chain,
      resolver.Consistent engine.config.unrestrictedAsyncValues services
  mappers : ∀ mapper ∈ engine.mappers, mapper.Stateless

namespace Evaluator

/-- The evaluator of a later render: the engine is the same. -/
def renewed
    (services : Services) (suppliers : Suppliers) (evaluator : Evaluator) :
    Evaluator :=
  { evaluator with services, suppliers }

/-- A first evaluator, and another one for later. -/
structure Repeatable
    (among : Set Services) (services : Services) (evaluator : Evaluator) :
    Prop where
  consistent : evaluator.engine.Consistent among
  first : evaluator.services ∈ among
  again : services ∈ among
  writeNothing : ∀ name,
    (evaluator.suppliers name).WritesNothing evaluator.services

end Evaluator

namespace Watch

variable {α : Type} {watch : Watch}

/-- A completion that changes nothing that is shown and ends in results of a
kind. -/
theorem tends_of_yields
    {σ ρ : Type} {view : σ → RenderData} {expected : ρ → Prop}
    {completion : Completion σ ρ} (keeps : completion.Keeps view)
    (yields : completion.Yields expected) (data : RenderData) :
    watch.Tends view (fun result _ => expected result) completion ∅ data := by
  induction completion using Completion.ind generalizing data with
  | ready result => exact ⟨rfl, yields⟩
  | pending advance release ih =>
      intro state rely
      have kept := keeps.1 state
      have reached := yields state
      refine ⟨?_, .of_data rely.sound issued_empty (keeps.2 state)⟩
      cases polled : advance state with
      | blocked => trivial
      | advanced next after =>
          rw [polled] at kept reached
          exact ⟨∅, .of_data rely.sound issued_empty kept.1,
            ih state next after polled kept.2 reached _⟩

/-- A program that writes no data, and can end in one result only. -/
structure Settles (program : Program Scene α) (result : Except EngineError α) :
    Prop where
  data : ∀ scene, (program scene).2.data = scene.data
  keeps : ∀ scene, (program scene).1.Keeps Scene.data
  yields : ∀ scene, (program scene).1.Yields (· = result)

theorem Settles.steady
    {start again : Program Scene α} {result : Except EngineError α}
    (settles : Settles start result) (settles' : Settles again result) :
    watch.Steady start again := by
  intro scene sound
  refine ⟨∅, .of_data sound issued_empty (settles.data scene), ?_⟩
  refine (tends_of_yields (settles.keeps scene) (settles.yields scene) _).mono
    ?_
  rintro _ data rfl value rfl bound - scene' -
  exact ⟨settles'.data scene',
    Completion.gives_of_yields (settles'.keeps scene')
      (settles'.yields scene') _⟩

/-- Where all bindings are followed, a program may be read as another one that
does the same wherever the same is bound to keys. -/
theorem recalled_congr
    {again again' : Program Scene α} {value : α} {known data : RenderData}
    (sound : watch.Sound known)
    (same : ∀ scene : Scene, scene.data.bound = known.bound →
      again scene = again' scene)
    (recalled : watch.Recalled again' value data) :
    watch.Recalled again value data := by
  intro bound isAll scene rely
  have found := rely.admits
  have expected := sound.admits
  rw [isAll] at found expected
  rw [same scene (found.trans expected.symm)]
  exact recalled bound isAll scene rely

theorem Starts.recalled_congr
    {again again' : Program Scene α} {held : Set Place}
    {known before : RenderData} {started : Evaluation Scene α × Scene}
    (sound : watch.Sound known)
    (same : ∀ scene : Scene, scene.data.bound = known.bound →
      again scene = again' scene)
    (starts : watch.Starts Scene.data (OnSuccess (watch.Recalled again')) held
      before started) :
    watch.Starts Scene.data (OnSuccess (watch.Recalled again)) held before
      started :=
  starts.mono fun _ _ onSuccess value equal =>
    Watch.recalled_congr sound same (onSuccess value equal)

/-- A binding that is followed has been kept. -/
def IsKept
    (watch : Watch) (cell : Cell) (settled : Settled) (data : RenderData) :
    Prop :=
  watch.Covers cell → (data.memo cell).value = some settled

theorem lasts_isKept (cell : Cell) (settled : Settled) :
    watch.Lasts (watch.IsKept cell settled) :=
  fun _ _ rely kept covers =>
    ((rely.memo cell covers).kept settled (kept covers)).1

/-- What has been kept is found again, whatever the supplier is then. -/
theorem IsKept.recalled
    {cell : Cell} {settled : Settled} {data : RenderData}
    (kept : watch.IsKept cell settled data)
    (evaluator : Evaluator) (expression : Expression) :
    watch.Recalled (evaluator.lookupComputed expression cell) settled data := by
  intro bound isAll scene rely
  have covers : watch.Covers cell := by
    rw [isAll]
    trivial
  rw [evaluator.lookupComputed_of_kept _
    (lasts_isKept cell settled _ _ rely kept covers)]
  exact ⟨rfl, rfl⟩

section Lookups

variable {scene : Scene} {cell : Cell} {ticket : Nat}
  {completion : Evaluation Scene Settled}

/-- A place is the first one in its line, if that is followed. -/
def IsFirst
    (watch : Watch) (cell : Cell) (ticket : Nat) (data : RenderData) : Prop :=
  watch.Covers cell → (data.memo cell).line.head? = some ticket

theorem IsFirst.issued {data : RenderData} (sound : watch.Sound data)
    (first : watch.IsFirst cell ticket data) :
    watch.Issued (watch.place cell ticket) data := by
  rintro asked covers other ⟨covers', same⟩
  cases same
  exact (sound.tidy cell covers).issued_of_first (first covers')

theorem IsFirst.later
    {data data' : RenderData} (first : watch.IsFirst cell ticket data)
    (rely : watch.Rely (watch.place cell ticket) data data') :
    watch.IsFirst cell ticket data' := by
  intro covers
  have mine : ticket ∈ ticketsOf cell (watch.place cell ticket) := ⟨covers, rfl⟩
  exact (rely.memo cell covers).firsts ticket mine (first covers)

/-- The run of a supplier that writes no data keeps the first place until its
end. -/
theorem tends_ending
    (keeps : completion.Keeps Scene.data) (sound : watch.Sound scene.data)
    (first : watch.IsFirst cell ticket scene.data) :
    watch.Starts Scene.data (OnSuccess (watch.IsKept cell))
      (watch.place cell ticket) scene.data
      (completion.ending (Scene.endRun cell ticket)
        (Scene.updateMemo cell (Memo.leave ticket)) scene) := by
  induction completion using Completion.ind generalizing scene with
  | ready result =>
      rw [Completion.ending]
      refine ⟨∅, step_endRun sound first result, rfl, ?_⟩
      rintro settled rfl -
      rw [Scene.memo_endRun_ok_self]
  | pending advance release ih =>
      rw [Completion.ending]
      refine ⟨_, .refl sound (first.issued sound), fun scene' rely => ?_⟩
      have sound' := rely.sound
      have first' := first.later rely
      have kept := keeps.1 scene'
      have freed : (release scene').data = scene'.data := keeps.2 scene'
      refine ⟨?_, ?_⟩
      · dsimp only
        cases polled : advance scene' with
        | blocked => trivial
        | advanced next after =>
            rw [polled] at kept
            have moved : after.data = scene'.data := kept.1
            have ended :=
              ih scene' next after polled kept.2 (by rw [moved]; exact sound')
                (by rw [moved]; exact first')
            rw [moved] at ended
            rw [Completion.endingPoll]
            exact ended.pollTends
      · rw [← freed] at sound' ⊢
        exact step_leave sound'

variable {evaluator : Evaluator} (expression : Expression)
  (writesNothing :
    (evaluator.suppliers cell.supplier).WritesNothing evaluator.services)

include writesNothing

theorem starts_runSupplier
    (sound : watch.Sound scene.data)
    (notKept : (scene.data.memo cell).value = none)
    (first : watch.IsFirst cell ticket scene.data) :
    watch.Starts Scene.data (OnSuccess (watch.IsKept cell))
      (watch.place cell ticket) scene.data
      (evaluator.runSupplier expression cell ticket scene) := by
  rw [Evaluator.runSupplier_eq]
  have noted := step_noteCall sound (first.issued sound) notKept
  rcases writesNothing.polled expression scene with ⟨unchanged, keeps⟩
  have first' : watch.IsFirst cell ticket (scene.noteCall cell).data := by
    intro covers
    rw [Scene.memo_noteCall_self]
    exact first covers
  have sound' := noted.sound sound
  rw [← unchanged] at noted first' sound'
  exact .after sound noted (tends_ending keeps sound' first')

/-- A lookup that waits tends to a kept value. -/
theorem tends_waiting {data : RenderData} :
    watch.Tends Scene.data (OnSuccess (watch.IsKept cell))
      (evaluator.waiting expression cell ticket) (watch.place cell ticket)
        data := by
  rw [Evaluator.waiting]
  intro scene rely
  have sound := rely.sound
  refine ⟨?_, step_leave sound⟩
  dsimp only
  cases kept : (scene.data.memo cell).value with
  | some settled =>
      refine ⟨∅,
        step_forget sound (by rw [kept]; exact Option.some_ne_none settled),
          rfl, ?_⟩
      rintro _ same -
      cases same
      exact kept
  | none =>
      dsimp only
      split_ifs with first
      · have isFirst : watch.IsFirst cell ticket scene.data :=
          fun _ => beq_iff_eq.mp first
        exact
          (starts_runSupplier expression writesNothing sound kept
            isFirst).pollTends
      · trivial

/-- A lookup that succeeds has found its binding kept, or has kept it. -/
theorem starts_lookupComputed (sound : watch.Sound scene.data) :
    watch.Starts Scene.data (OnSuccess (watch.IsKept cell)) ∅ scene.data
      (evaluator.lookupComputed expression cell scene) := by
  cases kept : (scene.data.memo cell).value with
  | some settled =>
      rw [Evaluator.lookupComputed_of_kept _ _ kept]
      exact starts_ok sound fun _ => kept
  | none =>
      rw [Evaluator.lookupComputed_of_not_kept _ _ kept]
      have joined := step_joinLine sound kept
      have sound' := joined.sound sound
      have kept' : ((scene.joinLine cell).data.memo cell).value = none := by
        rw [Scene.memo_joinLine_self]
        exact kept
      split_ifs with first
      · have isFirst : watch.IsFirst cell (scene.nextTicket cell)
            (scene.joinLine cell).data :=
          fun _ => beq_iff_eq.mp first
        exact .after sound joined
          (starts_runSupplier expression writesNothing sound' kept' isFirst)
      · exact ⟨_, joined, tends_waiting expression writesNothing⟩

theorem steady_lookupComputed (again : Evaluator) :
    watch.Steady (evaluator.lookupComputed expression cell)
      (again.lookupComputed expression cell) :=
  fun _ sound => (starts_lookupComputed expression writesNothing sound).mono
    fun _ _ onSuccess value same =>
      (onSuccess value same).recalled again expression

end Lookups

end Watch

section Calls

/-- The end of a run counts no call. -/
theorem calls_ending
    (cell : Cell) (ticket : Nat) (completion : Evaluation Scene Settled)
    (scene : Scene) :
    ((completion.ending (Scene.endRun cell ticket)
      (Scene.updateMemo cell (Memo.leave ticket))
      scene).2.data.memo cell).calls = (scene.data.memo cell).calls := by
  match completion with
  | .ready (.error error) =>
      rw [Completion.ending, Scene.memo_endRun_error_self]
  | .ready (.ok settled) => rw [Completion.ending, Scene.memo_endRun_ok_self]
  | .pending advance release => rw [Completion.ending]

variable {evaluator : Evaluator} {cell : Cell} {scene : Scene}
  (writesNothing : (evaluator.suppliers cell.supplier).WritesNothing
    evaluator.services) (expression : Expression)

include writesNothing

/-- A run calls the supplier once. -/
theorem calls_runSupplier (ticket : Nat) :
    ((evaluator.runSupplier expression cell ticket scene).2.data.memo
      cell).calls =
      (scene.data.memo cell).calls + 1 := by
  rw [Evaluator.runSupplier_eq]
  refine (calls_ending _ _ _ _).trans ?_
  rw [(writesNothing.polled expression scene).1, Scene.memo_noteCall_self]

/-- A lookup that finds nothing kept and nobody in line calls the supplier at
once. -/
theorem calls_lookupComputed
    (notKept : (scene.data.memo cell).value = none)
    (nobody : (scene.data.memo cell).line = []) :
    ((evaluator.lookupComputed expression cell scene).2.data.memo cell).calls =
      (scene.data.memo cell).calls + 1 := by
  have first : ((scene.joinLine cell).data.memo cell).mayRun
      (scene.nextTicket cell) = true := by
    simp [Memo.mayRun, nobody]
  rw [Evaluator.lookupComputed_of_not_kept _ _ notKept, if_pos first,
    calls_runSupplier writesNothing, Scene.memo_joinLine_self]

/-- A lookup that waits, and has become the first one in line, calls the
supplier at its next poll. -/
theorem calls_waiting
    {ticket : Nat} (notKept : (scene.data.memo cell).value = none)
    (first : (scene.data.memo cell).line.head? = some ticket) :
    (((evaluator.waiting expression cell ticket).poll scene).2.data.memo
      cell).calls =
      (scene.data.memo cell).calls + 1 := by
  have mayRun : (scene.data.memo cell).mayRun ticket = true :=
    beq_iff_eq.mpr first
  simp only [Evaluator.waiting, Completion.poll, notKept, mayRun, if_true]
  exact calls_runSupplier writesNothing expression ticket

end Calls

end Phrasebook
