import Phrasebook.Proofs.Progress.Lookup

/-!
# Renders that never get stuck

An evaluator is finite when everything that it asks for comes to an end.  What a
finite evaluator starts for an expression, and for a template, obeys every clock
that its answers keep.  With a clock that shows nothing, this says that no poll
in a render is ever blocked.  With handles that report, and a clock that counts
their reports, it says that a round either ends the render or advances a handle:
the render is never in a state in which all that is left are lookups that wait
for each other.
-/

namespace Phrasebook

open Completion (pollTimes)

/-- An evaluator all of whose answers are nests of handles that are never
blocked.  Memos are private to lookups, so resolvers, suppliers and handles
leave them alone; they may set values and register computed bindings, which get
cells of their own. -/
def Evaluator.Finite (evaluator : Evaluator) : Prop :=
  evaluator.Ends Scene.SameMemos Scene.SameMemos

namespace Clock

variable {clock : Clock} {evaluator : Evaluator}
  (ends : evaluator.Ends clock.Asked clock.Advanced)

include ends

/-- What is started for an expression obeys the clock. -/
theorem discipline :
    evaluator.Discipline fun _ scene started => scene.InOrder →
      clock.Starts ∅ scene started where
  value := fun _ _ value inOrder => starts_ready (.ok value) inOrder
  unregistered := fun _ _ _ inOrder => starts_ready _ inOrder
  declined := by
    intro expression part resolver scene arguments base topLevel _ asks _
      started starts inOrder
    have said := (ends.asks asks part arguments base topLevel scene).1
    have move := said.move_empty inOrder
    exact (starts move.inOrder).after inOrder move said.goes
  answered := by
    intro expression part resolver scene arguments base topLevel _ asks answer
      given inOrder
    have said := ends.asks asks part arguments base topLevel scene
    have passes := (said.2 answer given).flatten Advanced.trans expression
      evaluator.engine.config.unrestrictedAsyncValues
    exact .inr ⟨∅, said.1.move_empty inOrder, obeys_of_passes passes,
      said.1.goes⟩
  computed := fun scene _ _ _ _ inOrder =>
    starts_lookupComputed (ends.suppliers _) inOrder
  argument := fun _ _ starts => starts
  mapped := fun f starts inOrder => (starts inOrder).map f
  chained := fun starts continues inOrder =>
    (starts inOrder).andThen continues inOrder
  joined := fun starts inOrder => starts_all inOrder starts

omit ends in
theorem starts_log
    {ε α : Type} (event : Event) (detail : event.isDetail = true)
    {scene : Scene}
    {started : Completion Scene (Except ε α) × Scene} (inOrder : scene.InOrder)
    (starts : (scene.log event).InOrder →
      clock.Starts ∅ (scene.log event) started) :
    clock.Starts ∅ scene started := by
  have asked : clock.Asked scene (scene.log event) :=
    ⟨rfl, (clock.reading_log detail scene).ge⟩
  have move := asked.move_empty inOrder
  exact (starts move.inOrder).after inOrder move asked.goes

/-- A node of a template starts by the clock. -/
theorem starts_startNode
    (node : TemplateNode) {scene : Scene} (inOrder : scene.InOrder) :
    clock.Starts ∅ scene (evaluator.startNode node scene) := by
  cases node with
  | text text => exact starts_ready _ inOrder
  | placeholder expression =>
      rw [Evaluator.startNode]
      refine starts_log (.resolveStarted expression) rfl inOrder fun inOrder =>
        ?_
      refine ((discipline ends).evaluate [] expression _ inOrder).andThen
        (fun settled scene inOrder => ?_)
        inOrder
      exact starts_log (.resolveCompleted expression _) rfl inOrder
        (starts_ready _)

theorem starts_startNodes (nodes : List TemplateNode) (scene : Scene) :
    Evaluator.StartsAll (fun scene started => scene.InOrder →
      clock.Starts ∅ scene started) scene
      (evaluator.startNodes nodes scene) := by
  induction nodes generalizing scene with
  | nil => exact .nil scene
  | cons node rest ih =>
      rw [Evaluator.startNodes]
      exact .cons (starts_startNode ends node)
        (ih (evaluator.startNode node scene).2)

/-- What is started for a template obeys the clock, when writing the results
keeps it. -/
theorem starts_renderTemplate
    (writes : ∀ results scene,
      clock.Asked scene (evaluator.write results scene).2)
    (template : Template) {scene : Scene} (inOrder : scene.InOrder) :
    clock.Starts ∅ scene (evaluator.renderTemplate template scene) := by
  rw [Evaluator.renderTemplate]
  refine starts_log (.renderingTemplate template.id) rfl inOrder fun inOrder =>
    ?_
  refine (starts_all inOrder (starts_startNodes ends template.nodes _)).andThen
    (fun results scene inOrder => ?_) inOrder
  have move := (writes results scene).move_empty inOrder
  exact .inr ⟨∅, move, rfl, (writes results scene).goes⟩

end Clock

/-- Where nobody stands in line everything is in order. -/
theorem Scene.inOrder_of_idle {scene : Scene} (idle : scene.data.Idle) :
    scene.InOrder := by
  intro cell
  refine ⟨fun _ => idle cell, fun ticket member => ?_⟩
  rw [idle cell] at member
  cases member

section Reporting

/-- A resolver whose answers have handles that report. -/
def Resolver.reporting (tag : String) (resolver : Resolver) : Resolver :=
  { resolver with
    resolve := fun request scene =>
      let said := resolver.resolve request scene
      (said.1.map (Resolved.reporting tag), said.2) }

/-- A supplier whose answers have handles that report. -/
def Supplier.reporting (tag : String) (supplier : Supplier) : Supplier :=
  fun services key call scene =>
    let said := supplier services key call scene
    (said.1.reporting tag, said.2)

/-- The same evaluator with handles that report each poll that advances them. -/
def Evaluator.reporting (tag : String) (evaluator : Evaluator) : Evaluator where
  engine :=
    { evaluator.engine with
      resolvers := evaluator.engine.resolvers.map (Resolver.reporting tag)
      namespaces := evaluator.engine.namespaces.map fun (qualifier, chain) =>
        (qualifier, chain.map (Resolver.reporting tag)) }
  services := evaluator.services
  suppliers := fun name => Supplier.reporting tag (evaluator.suppliers name)

/-- The clock that counts reports. -/
def Clock.ofReports (tag : String) : Clock where
  reading := Scene.reports tag
  tick := 1
  reading_log detail scene := by
    rw [Scene.reports, Scene.notes_log_detail detail, Scene.reports]
  reading_updateMemo _ _ _ := rfl

variable {tag : String}

/-- A quiet resolver that reports its polls still ends. -/
theorem Resolver.Ends.reporting
    {services : Services} {resolver : Resolver}
    (ends : resolver.Ends Scene.SameMemos Scene.SameMemos services)
    (quiet : resolver.Quiet (· == tag) services) :
    (resolver.reporting tag).Ends (Clock.ofReports tag).Asked
      (Clock.ofReports tag).Advanced services := by
  intro base part arguments topLevel scene
  have said := ends base part arguments topLevel scene
  have kept := quiet base part arguments topLevel scene
  refine ⟨⟨said.1, ?_⟩, fun answer given => ?_⟩
  · exact (congrArg List.length kept.1).ge
  · rcases Option.map_eq_some_iff.mp given with ⟨inner, answered, rfl⟩
    exact (said.2 inner answered).reporting (kept.2 inner answered)

/-- A quiet supplier that reports its polls still ends. -/
theorem Supplier.Ends.reporting
    {services : Services} {supplier : Supplier}
    (ends : Supplier.Ends Scene.SameMemos Scene.SameMemos services supplier)
    (quiet : Supplier.Quiet (· == tag) services supplier) :
    Supplier.Ends (Clock.ofReports tag).Asked (Clock.ofReports tag).Advanced
      services
      (Supplier.reporting tag supplier) := by
  intro key call scene
  have said := ends key call scene
  have kept := quiet key call scene
  exact ⟨⟨said.1, (congrArg List.length kept.1).ge⟩, said.2.reporting kept.2⟩

/-- A quiet finite evaluator that reports its polls ends by the clock of its
reports. -/
theorem Evaluator.Finite.reporting
    {evaluator : Evaluator} (finite : evaluator.Finite)
    (quiet : evaluator.Quiet (· == tag)) :
    (evaluator.reporting tag).Ends (Clock.ofReports tag).Asked
      (Clock.ofReports tag).Advanced where
  resolvers := by
    intro resolver member
    rcases List.mem_map.mp member with ⟨inner, known, rfl⟩
    exact (finite.resolvers inner known).reporting
      (quiet.engine.resolvers inner known)
  namespaces := by
    intro qualifier chain found resolver member
    have mapped := (Dictionary.get?_map _ _ _).symm.trans found
    rcases Option.map_eq_some_iff.mp mapped with ⟨chain, registered, rfl⟩
    rcases List.mem_map.mp member with ⟨inner, known, rfl⟩
    exact (finite.namespaces qualifier chain registered inner known).reporting
      (quiet.engine.namespaces qualifier chain registered inner known)
  suppliers name := (finite.suppliers name).reporting (quiet.suppliers name)

end Reporting

namespace Evaluator

variable {evaluator : Evaluator}

/-- A clock that shows nothing asks for nothing more. -/
theorem Finite.still (finite : evaluator.Finite) :
    evaluator.Ends Clock.still.Asked Clock.still.Advanced := by
  have asked : Clock.still.Asked = Scene.SameMemos := by
    funext before after
    simp [Clock.Asked, Clock.still]
  have advanced : Clock.still.Advanced = Scene.SameMemos := by
    funext before after
    simp [Clock.Advanced, Clock.Ticked, Clock.still]
  rwa [asked, advanced]

theorem Finite.reached
    (finite : evaluator.Finite) (template : Template) {scene : Scene}
    (idle : scene.data.Idle) :
    Clock.still.Reached (evaluator.renderTemplate template scene) :=
  (Clock.starts_renderTemplate finite.still (fun _ _ => ⟨rfl, le_rfl⟩) template
    (Scene.inOrder_of_idle idle)).reached idle

theorem Finite.reached_reporting
    {tag : String} (finite : evaluator.Finite)
    (quiet : evaluator.Quiet (· == tag))
    (template : Template) {scene : Scene} (idle : scene.data.Idle) :
    (Clock.ofReports tag).Reached
      ((evaluator.reporting tag).renderTemplate template scene) :=
  (Clock.starts_renderTemplate (finite.reporting quiet)
    (fun results scene =>
      ⟨rfl, (congrArg List.length (quiet.write results scene).kept).ge⟩)
      template
    (Scene.inOrder_of_idle idle)).reached idle

/-- A render of a finite evaluator never gets stuck.  In no state that its
rounds lead to is the next round blocked; after some round the result is there,
and driving the render ends with it; and when the handles of the answers report
each poll that advances them, under a tag that nobody else writes, then every
round ends the render or brings a new report. -/
theorem renderTemplate_never_stuck
    (evaluator : Evaluator) (finite : evaluator.Finite) (template : Template)
    (scene : Scene) (idle : scene.data.Idle) :
    (∀ rounds advance release reached,
      pollTimes rounds (evaluator.renderTemplate template scene).1
          (evaluator.renderTemplate template scene).2 =
            (.pending advance release, reached) →
        ∃ next after, advance reached = .advanced next after) ∧
    (∃ rounds result after,
      pollTimes rounds (evaluator.renderTemplate template scene).1
          (evaluator.renderTemplate template scene).2 = (.ready result, after) ∧
        (evaluator.renderTemplate template scene).1.drive
          (evaluator.renderTemplate template scene).2 =
          (some result, after)) ∧
    ∀ tag, evaluator.Quiet (· == tag) → ∀ rounds advance release reached,
      pollTimes rounds
        ((evaluator.reporting tag).renderTemplate template scene).1
          ((evaluator.reporting tag).renderTemplate template scene).2 =
        (.pending advance release, reached) →
      ∃ next after, advance reached = .advanced next after ∧
        (next.isReady = true ∨ reached.reports tag < after.reports tag) := by
  refine ⟨?_, (finite.reached template idle).ends, ?_⟩
  · intro rounds advance release reached led
    have state := (finite.reached template idle).pollTimes rounds
    rw [led] at state
    rcases state.advance with ⟨next, after, advanced, -, -⟩
    exact ⟨next, after, advanced⟩
  · intro tag quiet rounds advance release reached led
    have state :=
      (finite.reached_reporting quiet template idle).pollTimes rounds
    rw [led] at state
    rcases state.advance with ⟨next, after, advanced, -, progress⟩
    exact ⟨next, after, advanced, progress⟩

/-- An evaluator whose suppliers need two more polls after the one in which they
are called. -/
def slowTotal : Evaluator where
  engine := {
    resolvers := []
    namespaces := []
    mappers := []
    initializers := []
    config := {} }
  services := ⟨{}, fun _ _ state => (.ready (.ok ""), state)⟩
  suppliers _ _ _ _ scene :=
    (.pending (.after 2 id (.value (.string "seven"))), scene)

/-- A scene with one computed binding. -/
def totalScene : Scene where
  data := RenderData.empty.setComputed "total" "slow"
  engine := .empty

theorem slowTotal_finite : slowTotal.Finite where
  resolvers := fun _ member => nomatch member
  namespaces := fun _ _ found => nomatch found
  suppliers := by
    intro name key call scene
    exact ⟨rfl, fun _ => ⟨rfl, fun _ => ⟨rfl, fun _ => ⟨rfl, trivial⟩⟩⟩⟩

theorem slowTotal_quiet (marked : String → Bool) : slowTotal.Quiet marked where
  engine := {
    resolvers := fun _ member => nomatch member
    namespaces := fun _ _ found => nomatch found
    mappers := fun _ member => nomatch member }
  suppliers := by
    intro name key call scene
    have answer :
        (Resolved.value (.string "seven")).Keeps (Scene.notes marked) :=
      trivial
    exact ⟨rfl, Resolved.handleKeeps_after (fun _ => rfl) answer 2⟩

/-- Two placeholders that look up the same binding. -/
def totalTwice : Template where
  id := "main"
  generatedId := "1"
  nodes := [
    .placeholder (.path none [.property "total"] ⟨"main", 1⟩),
    .placeholder (.path none [.property "total"] ⟨"main", 1⟩)]

/-- The second lookup waits for the first one, and the next round advances the
handle all the same. -/
theorem totalTwice_advances :
    slowTotal.Finite ∧ totalScene.data.Idle ∧ slowTotal.Quiet (· == "polled") ∧
      ∃ advance release next after,
        (slowTotal.reporting "polled").renderTemplate totalTwice totalScene =
            (.pending advance release,
              ((slowTotal.reporting "polled").renderTemplate totalTwice
                totalScene).2) ∧
          advance
            ((slowTotal.reporting "polled").renderTemplate totalTwice
              totalScene).2 =
              .advanced next after ∧
            ((slowTotal.reporting "polled").renderTemplate totalTwice
              totalScene).2.reports "polled" <
              after.reports "polled" := by
  have idle : totalScene.data.Idle := fun _ => rfl
  have quiet := slowTotal_quiet (· == "polled")
  refine ⟨slowTotal_finite, idle, quiet, ?_⟩
  have rounds :=
    (renderTemplate_never_stuck slowTotal slowTotal_finite totalTwice totalScene
      idle).2.2
    "polled" quiet 0
  have unfinished :
      (((slowTotal.reporting "polled").renderTemplate totalTwice
          totalScene).1.poll
        ((slowTotal.reporting "polled").renderTemplate totalTwice
          totalScene).2).1.isReady = false := by
    rfl
  cases started :
      (slowTotal.reporting "polled").renderTemplate totalTwice totalScene with
  | mk completion reached =>
      rw [started] at rounds unfinished
      cases completion with
      | ready result => cases unfinished
      | pending advance release =>
          rcases rounds advance release reached rfl with
            ⟨next, after, advanced, ready | progress⟩
          · rw [Completion.poll, advanced] at unfinished
            cases ready.symm.trans unfinished
          · exact ⟨advance, release, next, after, rfl, advanced, progress⟩

end Evaluator

end Phrasebook
