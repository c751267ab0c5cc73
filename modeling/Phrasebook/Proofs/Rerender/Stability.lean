import Phrasebook.Proofs.Nesting.Outcome
import Phrasebook.Proofs.Rerender.Session

/-!
# Renders of one instance are stable

Take an instance whose suppliers may answer differently on each call, at once or
after any number of polls, and use it for some time: renders of it succeed, fail
and are dropped, several of them in flight at once.  As long as no binding is
set, rendering it again after a success gives the same text, and calls no
supplier; and a computed binding that is not registered again is never computed
again once its supplier has succeeded, whatever else is set.  Until then the
next lookup computes it again, whether the supplier has failed or has been given
up.  Registering a binding again is no exception: it gives the key another cell,
and the one that it had keeps its value.
-/

namespace Phrasebook

open Completion (StartGives)
open Watch

/-- A move that sets no binding. -/
def Move.BindsNothing : Move → Prop
  | .set _ _ | .setComputed _ _ => False
  | _ => True

namespace Engine

/-- Suppliers that write no data, whatever name a computed binding registers
with. -/
def WriteNothing (engine : Engine) (suppliers : Suppliers) : Prop :=
  ∀ name state, (suppliers name).WritesNothing (engine.servicesIn state)

/-- A blocking render whose template gives a text has that text, and leaves the
data as they were. -/
theorem renderBlocking_of_gives
    {engine : Engine} {target : Instance} {state : EngineState}
    {data : RenderData} {text : String}
    (gives : StartGives Scene.data data (.ok text)
      (Evaluator.renderTemplate ⟨engine, engine.servicesIn state,
        target.bindings.suppliers⟩ target.template
        ⟨target.bindings.data, state⟩)) :
    (engine.renderBlocking target state).1 = .ok text ∧
      renderData (engine.renderBlocking target state).2 = data := by
  rw [renderBlocking, render, Completion.drive_deferred, renderInstance]
  dsimp only [sceneOf]
  generalize Evaluator.renderTemplate _ target.template _ = rendered at gives ⊢
  rcases gives.gives.drive gives.kept with ⟨after, driven, kept⟩
  rw [Completion.driven_andThen, Completion.drive_within isPart_scene]
  change (Completion.drive rendered.1 rendered.2) = _ at driven
  rw [show sceneOf (withScene rendered.2 (target, state)) =
    rendered.2 from rfl, driven]
  exact ⟨rfl, kept⟩

end Engine

namespace Regime

variable {engine : Engine}
  (consistent : engine.Consistent (Set.range engine.servicesIn))

include consistent in
/-- In every state the engine gives services of its own, so its evaluators can
be compared. -/
theorem repeatable
    {suppliers : Suppliers} (writeNothing : engine.WriteNothing suppliers)
    (state state' : EngineState) :
    Evaluator.Repeatable (Set.range engine.servicesIn)
      (engine.servicesIn state')
      ⟨engine, engine.servicesIn state, suppliers⟩ where
  consistent := consistent
  first := ⟨state, rfl⟩
  again := ⟨state', rfl⟩
  writeNothing := fun name => writeNothing name state

/-- No binding is set: all of them are followed, and the texts are compared with
those that a given evaluator gives. -/
def whole
    (target : Instance)
    (writeNothing : engine.WriteNothing target.bindings.suppliers)
    (state : EngineState) (suppliers : Suppliers) :
    Regime engine where
  watch := .everything target.bindings.data.bound
  again :=
    Evaluator.renderTemplate ⟨engine, engine.servicesIn state,
      suppliers⟩ target.template
  good fixture := fixture = (target.template, target.bindings.suppliers)
  starts := by
    rintro ⟨found, current⟩ good sound
    obtain ⟨template, same⟩ : found.template = target.template ∧
        found.bindings.suppliers = target.bindings.suppliers := by
          simpa [fixtureOf] using good
    refine Engine.starts_renderInstance sound ?_
    dsimp only
    rw [template, same]
    exact
      (repeatable consistent writeNothing current state).steady_renderTemplate _
      target.template

/-- One cell is followed, whatever happens to the others. -/
def single (cell : Cell) : Regime engine where
  watch := .binding cell
  again := fun scene => (.ready (.ok ""), scene)
  good fixture := engine.WriteNothing fixture.2
  starts := by
    rintro ⟨found, current⟩ good sound
    let evaluator : Evaluator :=
      ⟨engine, engine.servicesIn current, found.bindings.suppliers⟩
    have steady :
        Watch.Steady (.binding cell) (evaluator.renderTemplate found.template)
        ((evaluator.renewed evaluator.services
            evaluator.suppliers).renderTemplate found.template) :=
      (repeatable consistent good current current).steady_renderTemplate
        (.binding cell) found.template
    exact (Engine.starts_renderInstance sound steady).mono fun _ _ _ _ _ _
      isAll => nomatch isAll

end Regime

/-- Data in which nobody stands in line are sound. -/
theorem Watch.sound_of_idle
    {watch : Watch} {data : RenderData} (admits : watch.Admits data)
    (idle : data.Idle) :
    watch.Sound data := by
  refine ⟨admits, fun cell _ => ⟨⟨fun _ => idle cell, ?_⟩, ?_⟩⟩
  · rw [idle cell]
    exact List.forall_mem_nil _
  · rw [idle cell]
    exact List.nodup_nil

namespace Session

variable {engine : Engine} {target : Instance} {state : EngineState}

/-- At its beginning a session is tended. -/
theorem tended_open
    {regime : Regime engine} (good : regime.good (fixtureOf (target, state)))
    (admits : regime.watch.Admits target.bindings.data)
    (idle : target.bindings.data.Idle) :
    Tended regime ∅ { target, state } where
  good := good
  sound := sound_of_idle admits idle
  issued := issued_empty
  flights := .nil
  owned := by
    intro _ cell _ ticket inLine
    have inLine : ticket ∈ (target.bindings.data.memo cell).line := inLine
    rw [idle cell] at inLine
    cases inLine
  told := nofun

theorem allows_of_bindsNothing
    {regime : Regime engine} {move : Move} (bindsNothing : move.BindsNothing) :
    Allows regime move := by
  cases move with
  | set key value | setComputed key supplier => exact bindsNothing.elim
  | _ => trivial

/-- A session in which no binding is set is tended, whatever suppliers the texts
are compared with. -/
theorem tended_whole
    (consistent : engine.Consistent (Set.range engine.servicesIn))
    (idle : target.bindings.data.Idle)
    (writeNothing : engine.WriteNothing target.bindings.suppliers)
    {moves : List Move} (bindNothing : ∀ move ∈ moves, move.BindsNothing)
    (last : EngineState) (suppliers : Suppliers) :
    ∃ held,
      Tended (Regime.whole consistent target writeNothing last suppliers) held
      (run engine moves { target, state }) := by
  have opened :
      Tended (Regime.whole consistent target writeNothing last suppliers) ∅
      { target, state } :=
    tended_open rfl rfl idle
  exact (opened.run moves fun move member =>
    allows_of_bindsNothing (bindNothing move member)).1

/-- While no binding is set, what a render ended in is what every later render
ends in. -/
theorem renderBlocking_again
    (consistent : engine.Consistent (Set.range engine.servicesIn))
    (idle : target.bindings.data.Idle)
    (writeNothing : engine.WriteNothing target.bindings.suppliers)
    {moves : List Move} (bindNothing : ∀ move ∈ moves, move.BindsNothing)
    {text : String}
    (told : .finished (.ok text) ∈ (run engine moves { target, state }).history)
    (suppliers : Suppliers) :
    let after := run engine moves { target, state }
    let again := engine.renderBlocking
      (after.target.updateBindings fun bindings => { bindings with suppliers })
        after.state
    again.1 = .ok text ∧ renderData again.2 = after.data := by
  intro after again
  rcases tended_whole consistent idle writeNothing bindNothing state
    suppliers with ⟨-, ⟨fixture, -⟩⟩
  have template : after.target.template = target.template :=
    congrArg Prod.fst fixture
  rcases tended_whole consistent idle writeNothing bindNothing after.state
    suppliers with ⟨held, tended⟩
  have recalled := tended.told text told
  have gives := recalled _ rfl ⟨after.data, after.state⟩ (.refl tended.sound)
  apply Engine.renderBlocking_of_gives
  change StartGives Scene.data after.data (.ok text)
    (Evaluator.renderTemplate ⟨engine, engine.servicesIn after.state,
      suppliers⟩ after.target.template
      ⟨after.data, after.state⟩)
  rw [template]
  exact gives

/-- Moves in two parts are run one after the other. -/
theorem run_append (before after : List Move) (session : Session) :
    run engine (before ++ after) session =
      run engine after (run engine before session) :=
  List.foldl_append

theorem tended_single
    (consistent : engine.Consistent (Set.range engine.servicesIn))
    (idle : target.bindings.data.Idle)
    (writeNothing : engine.WriteNothing target.bindings.suppliers)
    (cell : Cell) :
    Tended (Regime.single consistent cell) ∅ { target, state } :=
  tended_open writeNothing trivial idle

/-- Whatever the move is, it is allowed where a single cell is followed. -/
theorem allows_single
    (consistent : engine.Consistent (Set.range engine.servicesIn)) (cell : Cell)
    (move : Move) :
    Allows (Regime.single consistent cell) move := by
  cases move with
  | set _ _ | setComputed _ _ => exact ⟨cell, rfl⟩
  | _ => trivial

/-- What happens to one cell, and to the cells under keys, in the course of a
session. -/
theorem run_single
    (consistent : engine.Consistent (Set.range engine.servicesIn))
    (idle : target.bindings.data.Idle)
    (writeNothing : engine.WriteNothing target.bindings.suppliers) (cell : Cell)
    (before after : List Move) :
    let earlier := run engine before { target, state }
    let later := run engine (before ++ after) { target, state }
    (∃ held, Tended (Regime.single consistent cell) held later) ∧
      Watch.Rely (.binding cell) ∅ earlier.data later.data ∧
        ∀ key, (∀ move ∈ after, move.Spares key) →
            later.data.cell? key = earlier.data.cell? key := by
  intro earlier later
  have allowed : ∀ moves : List Move, ∀ move ∈ moves,
      Allows (Regime.single consistent cell) move :=
    fun _ move _ => allows_single consistent cell move
  have opened : Tended (Regime.single consistent cell) ∅ { target, state } :=
    tended_single consistent idle writeNothing cell
  rcases (opened.run before (allowed before)).1 with ⟨held, tended⟩
  have passed := tended.run after (allowed after)
  rwa [← run_append] at passed

/-- When no render is in flight, and none got stuck, nobody stands in line. -/
theorem Tended.nobody_in_line
    {consistent : engine.Consistent (Set.range engine.servicesIn)} {cell : Cell}
    {session : Session} {held : Set Place}
    (tended : Tended (Regime.single consistent cell) held session)
    (alone : session.inFlight = []) (fine : ¬ GotStuck session.history) :
    (session.data.memo cell).line = [] := by
  have flights := tended.flights
  rw [alone] at flights
  cases flights
  refine List.eq_nil_iff_forall_not_mem.mpr fun ticket inLine => ?_
  exact tended.owned fine cell rfl ticket inLine

/-- Re-rendering is stable.  In a session in which no binding is set, with
renders that succeed, fail, are dropped and are polled side by side, let some
render have ended in a text: rendering the instance again ends in the same text,
whatever the suppliers are then, and leaves all data as they are, the counts of
supplier calls included.

In any session a key that is not registered again keeps its cell, and a cell
that has been given a value keeps it, and its supplier is not called any more.
As long as it has none, nobody stands in its line unless a render is in flight
or waits for itself for ever; and a lookup that comes first calls the supplier,
at once or, when it had to wait, at its next poll. -/
theorem rerender_stable
    (engine : Engine) (target : Instance) (state : EngineState)
    (consistent : engine.Consistent (Set.range engine.servicesIn))
    (writeNothing : engine.WriteNothing target.bindings.suppliers)
    (idle : target.bindings.data.Idle) :
    (∀ moves text, (∀ move ∈ moves, move.BindsNothing) →
      let after := run engine moves { target, state }
      .finished (.ok text) ∈ after.history →
        ∀ suppliers : Suppliers,
          let again := engine.renderBlocking
            (after.target.updateBindings fun bindings =>
              { bindings with suppliers }) after.state
          again.1 = .ok text ∧ renderData again.2 = after.data) ∧
    ∀ before after,
      let earlier := run engine before { target, state }
      let later := run engine (before ++ after) { target, state }
      (∀ key, (∀ move ∈ after, move.Spares key) →
        later.data.cell? key = earlier.data.cell? key) ∧
      ∀ cell,
        (∀ settled, (earlier.data.memo cell).value = some settled →
          (later.data.memo cell).value = some settled ∧
            (later.data.memo cell).calls = (earlier.data.memo cell).calls) ∧
        ((later.data.memo cell).value = none →
          (later.inFlight = [] → ¬ GotStuck later.history →
            (later.data.memo cell).line = []) ∧
          ∀ (evaluator : Evaluator) (expression : Expression) (scene : Scene),
            (evaluator.suppliers cell.supplier).WritesNothing
              evaluator.services →
              scene.data = later.data →
                ((later.data.memo cell).line = [] →
                  ((evaluator.lookupComputed expression cell scene).2.data.memo
                    cell).calls =
                    (later.data.memo cell).calls + 1) ∧
                ∀ ticket, (later.data.memo cell).line.head? = some ticket →
                  (((evaluator.waiting expression cell ticket).poll
                    scene).2.data.memo cell).calls =
                    (later.data.memo cell).calls + 1) := by
  constructor
  · intro moves text bindNothing after told suppliers
    exact renderBlocking_again consistent idle writeNothing bindNothing told
      suppliers
  intro before after earlier later
  have course := fun cell =>
    @run_single engine target state consistent idle writeNothing cell
      before after
  refine ⟨fun key => (course ⟨key, "", 0⟩).2.2 key, fun cell => ?_⟩
  rcases course cell with ⟨⟨held, tended⟩, rely, -⟩
  refine ⟨(rely.memo cell rfl).kept, fun notKept => ⟨tended.nobody_in_line, ?_⟩⟩
  rintro evaluator expression scene writesNothing same
  rw [← same] at notKept ⊢
  exact ⟨calls_lookupComputed writesNothing expression notKept,
    fun ticket first => calls_waiting writesNothing expression notKept first⟩

/-- An engine that gives the first argument of a method back, after one poll. -/
def echoEngine : Engine where
  resolvers := [{ resolve := fun request scene =>
    (request.arguments.head?.map fun argument =>
      .pending (.after 1 id (.value argument)), scene) }]
  namespaces := []
  mappers := []
  initializers := []
  config := {}

/-- A supplier that fails first, and then takes some polls for a different name
on each call. -/
def moodyName : Supplier
  | _, _, 1, scene => (.failed (.message "nobody"), scene)
  | _, _, 2, scene => (.pending (.after 2 id (.value (.string "Ada"))), scene)
  | _, _, 3, scene => (.pending (.after 2 id (.value (.string "Bob"))), scene)
  | _, _, _, scene => (.pending (.after 2 id (.value (.string "Eve"))), scene)

/-- A name as an argument, and the same name as a placeholder of its own. -/
def nameTwice : Template :=
  let name : Expression := .mk none [.property "name"] none ⟨"greeting", 1⟩
  ⟨"greeting", "1",
    [.placeholder (.mk none [.method "echo" [name]] none ⟨"greeting", 1⟩),
      .text " and ", .placeholder name]⟩

def moodyGreeting : Instance where
  template := nameTwice
  bindings :=
    Bindings.setComputed "name" "moody" { suppliers := fun _ => moodyName }

/-- The cell that the name is registered in. -/
def moodyCell : Cell :=
  ⟨"name", "moody", 0⟩

/-- A render fails, another one is dropped while the supplier runs, and two more
are polled side by side. -/
def moodyMoves : List Move :=
  [.render, .launch, .poll 0, .drop 0, .launch, .launch, .poll 0, .poll 1,
    .poll 0, .poll 0, .poll 0]

theorem echoEngine_consistent (services : Set Services) :
    echoEngine.Consistent services where
  resolvers := by
    refine List.forall_mem_singleton.mpr fun base part arguments topLevel => ?_
    refine ⟨true, arguments.head?.map fun argument => .ok (.value argument),
      fun given _ => ⟨rfl, ?_, fun _ => rfl⟩⟩
    intro scene
    dsimp only
    cases arguments.head? with
    | none => exact .none
    | some argument =>
        have keeps : (Resolved.value argument).Keeps Scene.data := trivial
        exact .some ⟨fun _ _ => rfl,
          Resolved.handleKeeps_after (fun _ => rfl) keeps 1⟩
  namespaces := nofun
  mappers := nofun

theorem moodyName_writesNothing (services : Services) :
    moodyName.WritesNothing services := by
  intro key call scene
  have pending : ∀ name,
      (Resolved.pending (.after 2 id (.value (.string name)))).Keeps
          Scene.data :=
    fun name =>
      Resolved.handleKeeps_after (fun _ => rfl)
        (show (Resolved.value _).Keeps Scene.data from trivial) 2
  unfold moodyName
  split
  · exact ⟨rfl, trivial⟩
  all_goals exact ⟨rfl, pending _⟩

theorem moodyGreeting_writeNothing :
    echoEngine.WriteNothing moodyGreeting.bindings.suppliers := by
  intro name state
  exact moodyName_writesNothing _

theorem moodyGreeting_idle : moodyGreeting.bindings.data.Idle :=
  fun _ => rfl

/-- The text that a render ended in. -/
def textOf? : Happening → Option String
  | .finished (.ok text) => some text
  | _ => none

theorem finished_of_texts {history : List Happening} {text : String}
    (told : text ∈ history.filterMap textOf?) :
    .finished (.ok text) ∈ history := by
  rcases List.mem_filterMap.mp told with ⟨happening, member, same⟩
  match happening with
  | .finished (.ok found) =>
      obtain rfl : found = text := Option.some.inj same
      exact member
  | .finished (.error _) | .registered _ | .dropped => cases same

/-- A render ended in an error that is not of an expression. -/
def isRuntimeFailure : Happening → Bool
  | .finished (.error (.runtime _)) => true
  | _ => false

theorem not_gotStuck
    {history : List Happening} (fine : history.any isRuntimeFailure = false) :
    ¬ GotStuck history := by
  intro stuck
  have failed := List.any_eq_false.mp fine _ stuck
  exact failed rfl

/-- After a failed and a dropped render nobody stands in line, and the next
lookup calls the supplier.  The two renders side by side then end in the name of
the fourth call, which stays the name in the next render and, whatever else is
set or registered, in its cell, which stays the cell of the name. -/
theorem moodyGreeting_rerenders :
    let opened : Session := { target := moodyGreeting, state := .empty }
    let dropped := run echoEngine (moodyMoves.take 4) opened
    let after := run echoEngine moodyMoves opened
    let again := echoEngine.renderBlocking after.target after.state
    let later := run echoEngine
      (moodyMoves ++ [.set "other" .null, .setComputed "another" "moody",
        .render]) opened
    ((dropped.data.memo moodyCell).line = [] ∧
      (dropped.data.memo moodyCell).calls = 3 ∧
      ∀ (services : Services) (expression : Expression) (scene : Scene),
        scene.data = dropped.data →
        let evaluator : Evaluator :=
          ⟨echoEngine, services, moodyGreeting.bindings.suppliers⟩
        ((evaluator.lookupComputed expression moodyCell scene).2.data.memo
          moodyCell).calls = 4) ∧
    ((after.data.memo moodyCell).calls = 4 ∧ again.1 = .ok "Eve and Eve" ∧
      renderData again.2 = after.data) ∧
    later.data.cell? "name" = some moodyCell ∧
      (later.data.memo moodyCell).value = (after.data.memo moodyCell).value ∧
        (later.data.memo moodyCell).calls = 4 := by
  intro opened dropped after again later
  have stable :=
    rerender_stable echoEngine moodyGreeting .empty (echoEngine_consistent _)
      moodyGreeting_writeNothing moodyGreeting_idle
  refine ⟨?_, ⟨?_, ?_⟩, ?_⟩
  · have whole := (stable.2 [] (moodyMoves.take 4)).2 moodyCell
    rw [List.nil_append] at whole
    have recomputed :=
      whole.2 (Option.isNone_iff_eq_none.mp (by decide +kernel))
    have nobody : (dropped.data.memo moodyCell).line = [] :=
      recomputed.1 (List.isEmpty_iff.mp (by decide +kernel))
        (not_gotStuck (by decide +kernel))
    have calls : (dropped.data.memo moodyCell).calls = 3 := by decide +kernel
    refine ⟨nobody, calls, ?_⟩
    intro services expression scene same evaluator
    have called :=
      (recomputed.2 evaluator expression scene (moodyName_writesNothing _)
        same).1 nobody
    exact called.trans (congrArg Nat.succ calls)
  · decide +kernel
  · have told : .finished (.ok "Eve and Eve") ∈ after.history :=
      finished_of_texts (by decide +kernel)
    have rendered :=
      stable.1 moodyMoves "Eve and Eve"
        (by simp [moodyMoves, Move.BindsNothing]) told
    clear told stable
    revert rendered
    dsimp only [again, after]
    generalize run echoEngine moodyMoves opened = session
    intro rendered
    exact rendered session.target.bindings.suppliers
  · rcases Option.isSome_iff_exists.mp
      (show (after.data.memo moodyCell).value.isSome =
        true by decide +kernel) with ⟨settled, kept⟩
    have stays :=
      stable.2 moodyMoves [.set "other" .null, .setComputed "another" "moody",
        .render]
    have bound : later.data.cell? "name" = after.data.cell? "name" :=
      stays.1 "name" (by simp [Move.Spares])
    have calls : (after.data.memo moodyCell).calls = 4 := by decide +kernel
    have same := (stays.2 moodyCell).1 settled kept
    exact ⟨bound.trans (by decide +kernel), same.1.trans kept.symm,
      same.2.trans calls⟩

end Session

end Phrasebook
