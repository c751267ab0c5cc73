import Phrasebook.Proofs.Completion.Round
import Phrasebook.Proofs.ComputedBinding
import Phrasebook.Proofs.Sequential.Interpreter

/-!
# Synchronous renders are sequential

An evaluator is synchronous when its resolvers and suppliers answer without
handles that have to be polled.  They may read everything, write explicit data
and the journal, and register computed bindings; the memos of these are not
within their reach.  On data that no other lookup is waiting for, every
evaluation of such an evaluator is ready at once, and its outcome and its final
scene are those of the sequential interpreter.
-/

namespace Phrasebook

/-- A resolver that answers without handles and leaves the memos alone. -/
structure Resolver.Synchronous (resolver : Resolver) : Prop where
  answers :
    ∀ request scene answer,
      (resolver.resolve request scene).1 = some answer →
        ∃ shape, answer.shape? = some shape
  memos :
    ∀ request scene,
      (resolver.resolve request scene).2.data.memos = scene.data.memos

/-- A supplier that answers without handles and leaves the memos alone. -/
structure Supplier.Synchronous (supplier : Supplier) : Prop where
  answers :
    ∀ services key call scene,
      ∃ shape, (supplier services key call scene).1.shape? = some shape
  memos :
    ∀ services key call scene,
      (supplier services key call scene).2.data.memos = scene.data.memos

/-- An evaluator all of whose answers are synchronous. -/
structure Evaluator.Synchronous (evaluator : Evaluator) : Prop where
  resolvers :
    ∀ resolver ∈ evaluator.engine.resolvers, resolver.Synchronous
  namespaces :
    ∀ qualifier chain,
      evaluator.engine.namespaces.get? qualifier = some chain →
        ∀ resolver ∈ chain, resolver.Synchronous
  suppliers : ∀ name, (evaluator.suppliers name).Synchronous

/-- Taking the handles off a synchronous answer needs no poll. -/
theorem Resolved.flatten_of_shape?
    {σ : Type} {answer : Resolved σ} {shape : Shape}
    (settles : answer.shape? = some shape)
    (expression : Expression) (unrestricted : Bool) :
    answer.flatten expression unrestricted =
      .ready (shape.outcome expression) := by
  fun_induction Resolved.shape? answer with
  | case1 found | case2 | case3 result | case4 cause =>
      cases settles
      simp [flatten, Shape.outcome]
  | case5 inner ih =>
      simpa [flatten] using ih settles
  | case6 handle | case7 handle =>
      cases settles

namespace Sequential

variable {ε α β : Type}

/-- A started evaluation that is ready, where the interpreter ends as well, and
leaves no lookup waiting. -/
structure Agrees
    (started : Completion Scene (Except ε α) × Scene)
    (run : Except ε α × Scene) : Prop where
  same : started = (.ready run.1, run.2)
  idle : run.2.data.Idle

/-- The interpreter's step after a computation: a failure skips it. -/
theorem Agrees.andThen
    {started : Completion Scene (Except ε α) × Scene} {run : Except ε α × Scene}
    {next : α → Scene → Completion Scene (Except ε β) × Scene}
    {run' : Except ε β × Scene} (agrees : Agrees started run)
    (failure : ∀ error scene, run = (.error error, scene) →
      run' = (.error error, scene))
    (success :
      ∀ value scene, run = (.ok value, scene) → scene.data.Idle →
        Agrees (next value scene) run') :
    Agrees (started.1.andThen next started.2) run' := by
  rcases agrees with ⟨rfl, idle⟩
  rcases run with ⟨outcome, scene⟩
  cases outcome with
  | error error =>
      rcases failure error scene rfl with rfl
      exact ⟨by simp, idle⟩
  | ok value =>
      simpa using success value scene rfl idle

variable {evaluator : Evaluator}

/-- A chain of synchronous resolvers has an answer at once, the one of the
sequential chain. -/
theorem ask_agrees
    {chain : Chain} (synchronous : ∀ resolver ∈ chain, resolver.Synchronous)
    (expression : Expression) (request : Request) {scene : Scene}
    (idle : scene.data.Idle) :
    Agrees (evaluator.ask expression request chain scene)
      (ask expression request chain scene) := by
  induction chain generalizing scene with
  | nil => exact ⟨rfl, idle⟩
  | cons resolver rest ih =>
      have later :
          ∀ {after : Scene}, after.data.Idle →
            Agrees (evaluator.ask expression request rest after)
              (ask expression request rest after) :=
        fun idle =>
          ih (fun other member =>
            synchronous other (List.mem_cons_of_mem _ member)) idle
      have answers :=
        (synchronous resolver List.mem_cons_self).answers request scene
      have idle' : (resolver.resolve request scene).2.data.Idle :=
        idle.of_memos
          ((synchronous resolver List.mem_cons_self).memos request scene)
      rw [Evaluator.ask, ask]
      split_ifs with applies
      · rcases resolved : resolver.resolve request scene with
          ⟨_ | answer, after⟩
        · rw [resolved] at idle'
          exact later idle'
        · rw [resolved] at idle' answers
          rcases answers answer rfl with ⟨shape, settles⟩
          simp only [Resolved.flatten_of_shape? settles, settles,
            Option.getD_some]
          cases shape.outcome expression with
          | error error => exact ⟨by simp, idle'⟩
          | ok settled =>
              simp only [Completion.andThen_ready_ok]
              split_ifs
              · exact later idle'
              · exact ⟨rfl, idle'⟩
      · exact later idle

/-- After a run nobody is left in a line that only the run's lookup had
joined. -/
theorem idle_endRun
    {cell : Cell} {ticket : Nat} {scene : Scene}
    (alone : (scene.data.memo cell).line = [ticket])
    (others : ∀ asked, asked ≠ cell → (scene.data.memo asked).line = [])
    (outcome : Except EngineError Settled) :
    (scene.endRun cell ticket outcome).data.Idle := by
  intro asked
  by_cases same : asked = cell
  · subst asked
    cases outcome <;> simp [alone]
  · rw [Scene.memo_endRun_of_ne same]
    exact others asked same

/-- A lookup of a binding that nobody waits for runs the supplier at once, and
leaves the line again. -/
theorem lookupComputed_agrees
    (synchronous : evaluator.Synchronous) (expression : Expression)
    (cell : Cell) {scene : Scene} (idle : scene.data.Idle) :
    Agrees (evaluator.lookupComputed expression cell scene)
      (lookupComputed evaluator expression cell scene) := by
  cases kept : (scene.data.memo cell).value with
  | some settled =>
      rw [Evaluator.lookupComputed_of_kept _ _ kept, lookupComputed, kept]
      exact ⟨rfl, idle⟩
  | none =>
      have first :
          ((scene.joinLine cell).data.memo cell).mayRun
              (scene.nextTicket cell) = true := by
        simp [Memo.mayRun, idle cell]
      rw [Evaluator.lookupComputed_of_not_kept _ _ kept, if_pos first,
        Evaluator.runSupplier_eq, lookupComputed, kept]
      obtain ⟨shape, settles⟩ :
          ∃ shape,
            (evaluator.callSupplier cell (scene.joinLine cell)).1.shape? =
                some shape :=
        (synchronous.suppliers _).answers _ _ _ _
      have memos :
          (evaluator.callSupplier cell (scene.joinLine cell)).2.data.memos =
            ((scene.joinLine cell).noteCall cell).data.memos :=
        (synchronous.suppliers _).memos _ _ _ _
      rcases called : evaluator.callSupplier cell (scene.joinLine cell) with
        ⟨answer, after⟩
      rw [called] at settles memos
      have memo := RenderData.memo_congr memos
      simp only [Resolved.flatten_of_shape? settles, settles, Option.getD_some,
        Completion.poll_ready, Completion.ending_ready]
      refine ⟨rfl, idle_endRun ?_ ?_ _⟩
      · simp [memo cell, idle cell]
      · intro asked different
        simp [memo asked, Scene.memo_noteCall_of_ne different,
          Scene.memo_joinLine_of_ne different, idle asked]

/-- The lookup through the scopes has an answer at once, the sequential one. -/
theorem lookupScopes_agrees
    (synchronous : evaluator.Synchronous) (expression : Expression)
    (part : Part) (arguments : List Json) (scopes : List (Dictionary Json))
    {scene : Scene} (idle : scene.data.Idle) :
    Agrees (evaluator.lookupScopes expression part arguments scopes scene)
      (lookupScopes evaluator expression part arguments scopes scene) := by
  induction scopes generalizing scene with
  | nil =>
      rw [Evaluator.lookupScopes, lookupScopes]
      cases if part.isMethod then none else scene.data.get? part.name with
      | some value => exact ⟨rfl, idle⟩
      | none =>
          cases if part.isMethod then none else scene.data.cell? part.name with
          | none => exact ask_agrees synchronous.resolvers _ _ idle
          | some cell => exact lookupComputed_agrees synchronous _ cell idle
  | cons bindings outer ih =>
      rw [Evaluator.lookupScopes, lookupScopes]
      cases if part.isMethod then none else bindings.get? part.name with
      | some value => exact ⟨rfl, idle⟩
      | none =>
          refine (ask_agrees synchronous.resolvers _ _ idle).andThen ?_ ?_
          · intro error after failed
            simp [failed]
          · intro settled after ran idle'
            simp only [ran]
            split_ifs
            · exact ih idle'
            · exact ⟨rfl, idle'⟩

theorem resolvePart_agrees
    (synchronous : evaluator.Synchronous) (scopes : List (Dictionary Json))
    (expression : Expression) (part : Part) (arguments : List Json)
    (base : Option Json) {scene : Scene} (idle : scene.data.Idle) :
    Agrees (evaluator.resolvePart scopes expression part arguments base scene)
      (resolvePart evaluator scopes expression part arguments base scene) := by
  cases base with
  | some base => exact ask_agrees synchronous.resolvers _ _ idle
  | none =>
      simp only [Evaluator.resolvePart, Evaluator.resolveFirst, resolvePart]
      cases expression.qualifier with
      | none => exact lookupScopes_agrees synchronous _ _ _ _ idle
      | some qualifier =>
          dsimp only
          cases chain : evaluator.engine.namespaces.get? qualifier with
          | none => exact ⟨rfl, idle⟩
          | some chain =>
              exact ask_agrees (synchronous.namespaces _ _ chain) _ _ idle

/-- Started computations that are all ready, where the interpreter ends as
well. -/
structure AllAgree
    (started : List (Completion Scene (Except ε α)) × Scene)
    (run : List (Except ε α) × Scene) : Prop where
  same : started = (run.1.map .ready, run.2)
  idle : run.2.data.Idle

/-- Joining ready completions gives the first failure in order, or all values in
order. -/
theorem all_ready {σ : Type} (results : List (Except ε α)) (state : σ) :
    Completion.all (results.map .ready) state =
      (.ready (collect results), state) := by
  induction results with
  | nil => rfl
  | cons result rest ih =>
      cases result with
      | error error =>
          simp [Completion.all, collect, Completion.abandonAll_ready]
      | ok value => simp [Completion.all, collect, ih]

theorem AllAgree.joined
    {started : List (Completion Scene (Except ε α)) × Scene}
    {run : List (Except ε α) × Scene} (agree : AllAgree started run) :
    Agrees (Completion.all started.1 started.2) (collect run.1, run.2) := by
  rcases agree with ⟨rfl, idle⟩
  exact ⟨all_ready run.1 run.2, idle⟩

mutual

/-- An expression evaluates to what the interpreter gives. -/
theorem evaluate_agrees
    (synchronous : evaluator.Synchronous) (scopes : List (Dictionary Json))
    (expression : Expression) {scene : Scene} (idle : scene.data.Idle) :
    Agrees (evaluator.evaluate scopes expression scene)
      (evaluate evaluator scopes expression scene) := by
  match expression with
  | .mk qualifier parts constant origin =>
      rw [Evaluator.evaluate, evaluate]
      cases (Expression.mk qualifier parts constant origin).literalValue? with
      | some value => exact ⟨rfl, idle⟩
      | none => exact walk_agrees synchronous scopes _ none parts idle

/-- The parts of an expression are over at once, with the sequential result. -/
theorem walk_agrees
    (synchronous : evaluator.Synchronous) (scopes : List (Dictionary Json))
    (expression : Expression) (base : Option Json) (parts : List Part)
    {scene : Scene} (idle : scene.data.Idle) :
    Agrees (evaluator.evaluateParts scopes expression base parts scene)
      (walk evaluator scopes expression base parts scene) := by
  match parts with
  | [] =>
      rw [Evaluator.evaluateParts, walk]
      exact ⟨rfl, idle⟩
  | part :: rest =>
      rw [Evaluator.evaluateParts, walk]
      have arguments := evaluateArguments_agrees synchronous scopes part idle
      refine arguments.joined.andThen ?_ ?_
      · intro error after failed
        rcases Prod.ext_iff.mp failed with ⟨failed, rfl⟩
        simp_all
      · intro values after ran idle'
        rcases Prod.ext_iff.mp ran with ⟨ran, rfl⟩
        dsimp only at ran idle'
        simp only [ran]
        refine (resolvePart_agrees synchronous scopes expression part values
          base idle').andThen ?_ ?_
        · intro error after failed
          simp [failed]
        · intro settled after ran idle''
          simp only [ran]
          split_ifs
          · exact ⟨rfl, idle''⟩
          · exact walk_agrees synchronous scopes expression _ rest idle''

theorem evaluateArguments_agrees
    (synchronous : evaluator.Synchronous) (scopes : List (Dictionary Json))
    (part : Part) {scene : Scene} (idle : scene.data.Idle) :
    AllAgree (evaluator.startArguments scopes part scene)
      (evaluateArguments evaluator scopes part scene) := by
  match part with
  | .property _ =>
      rw [Evaluator.startArguments, evaluateArguments]
      exact ⟨rfl, idle⟩
  | .method _ arguments =>
      rw [Evaluator.startArguments, evaluateArguments]
      exact evaluateAll_agrees synchronous scopes arguments idle

theorem evaluateAll_agrees
    (synchronous : evaluator.Synchronous) (scopes : List (Dictionary Json))
    (expressions : List Expression) {scene : Scene} (idle : scene.data.Idle) :
    AllAgree (evaluator.startAll scopes expressions scene)
      (evaluateAll evaluator scopes expressions scene) := by
  match expressions with
  | [] =>
      rw [Evaluator.startAll, evaluateAll]
      exact ⟨rfl, idle⟩
  | expression :: rest =>
      rw [Evaluator.startAll, evaluateAll]
      have first := evaluate_agrees synchronous scopes expression idle
      have others := evaluateAll_agrees synchronous scopes rest first.idle
      refine ⟨?_, others.idle⟩
      simp [first.same, others.same]

end

theorem runNode_agrees
    (synchronous : evaluator.Synchronous) (node : TemplateNode)
    {scene : Scene} (idle : scene.data.Idle) :
    Agrees (evaluator.startNode node scene) (runNode evaluator node scene) := by
  cases node with
  | text text => exact ⟨rfl, idle⟩
  | placeholder expression =>
      rw [Evaluator.startNode, runNode]
      have started : (scene.log (.resolveStarted expression)).data.Idle := idle
      refine (evaluate_agrees synchronous [] expression started).andThen ?_ ?_
      · intro error after failed
        simp [failed]
      · intro settled after ran idle'
        simp only [ran]
        exact ⟨rfl, idle'⟩

theorem runNodes_agree
    (synchronous : evaluator.Synchronous) (nodes : List TemplateNode)
    {scene : Scene} (idle : scene.data.Idle) :
    AllAgree (evaluator.startNodes nodes scene)
      (runNodes evaluator nodes scene) := by
  induction nodes generalizing scene with
  | nil => exact ⟨rfl, idle⟩
  | cons node rest ih =>
      have first := runNode_agrees synchronous node idle
      have others := ih first.idle
      refine ⟨?_, others.idle⟩
      simp [Evaluator.startNodes, runNodes, first.same, others.same]

/-- Writing after a text puts the text before what is written. -/
theorem writeAll_eq
    (config : Config) (mappers : List Mapper) (written : String)
    (nodes : List ResultNode) (state : EngineState) :
    Mapper.writeAll config mappers written nodes state =
      ((writeNodes config mappers nodes state).1.map (written ++ ·),
        (writeNodes config mappers nodes state).2) := by
  induction nodes generalizing written state with
  | nil => simp [Mapper.writeAll, writeNodes, Except.map]
  | cons node rest ih =>
      rw [Mapper.writeAll, writeNodes]
      rcases Mapper.nodeText config mappers node state with
        ⟨error | text, after⟩
      · rfl
      · simp only [ih]
        rcases writeNodes config mappers rest after with ⟨error | more, last⟩
        · rfl
        · simp [Except.map, String.append_assoc]

theorem writeAll_empty
    (config : Config) (mappers : List Mapper)
    (nodes : List ResultNode) (state : EngineState) :
    Mapper.writeAll config mappers "" nodes state =
      writeNodes config mappers nodes state := by
  rw [writeAll_eq]
  rcases writeNodes config mappers nodes state with ⟨error | text, after⟩
  · rfl
  · simp [Except.map]

/-- A synchronous render is ready at once; its outcome and its final scene are
those of the sequential interpreter, and no lookup is left waiting. -/
theorem renderTemplate_eq_sequential
    (evaluator : Evaluator) (synchronous : evaluator.Synchronous)
    (template : Template) (scene : Scene) (idle : scene.data.Idle) :
    evaluator.renderTemplate template scene =
        (.ready (render evaluator template scene).1,
          (render evaluator template scene).2) ∧
      (render evaluator template scene).2.data.Idle := by
  have started : (scene.log (.renderingTemplate template.id)).data.Idle := idle
  have nodes := runNodes_agree synchronous template.nodes started
  have agrees :
      Agrees (evaluator.renderTemplate template scene)
          (render evaluator template scene) := by
    rw [Evaluator.renderTemplate, render]
    refine nodes.joined.andThen ?_ ?_
    · intro error after failed
      rcases Prod.ext_iff.mp failed with ⟨failed, rfl⟩
      simp_all
    · intro results after ran idle'
      rcases Prod.ext_iff.mp ran with ⟨ran, rfl⟩
      dsimp only at ran idle'
      simp only [ran, Evaluator.write, writeAll_empty]
      exact ⟨rfl, idle'⟩
  exact ⟨agrees.same, agrees.idle⟩

/-- A resolver that answers with the name of the part, and from then on hides it
behind an explicit null. -/
def hidingResolver : Resolver where
  resolve request scene :=
    (some (.completed (.value (.string request.part.name))),
      { scene with data := scene.data.set request.part.name .null })

/-- A supplier that fails at its first call and answers with the key later. -/
def hesitantSupplier : Supplier := fun _ key call scene =>
  (if call = 1 then .failed (.message "not yet") else .completed
    (.value (.string key)), scene)

/-- An evaluator with one resolver and one supplier, both synchronous. -/
def sampleEvaluator : Evaluator where
  engine := ⟨[hidingResolver], [], [], [], {}⟩
  services := ⟨{}, fun _ _ state => (.ready (.ok ""), state)⟩
  suppliers _ := hesitantSupplier

theorem sampleEvaluator_synchronous : sampleEvaluator.Synchronous where
  resolvers := by
    intro resolver member
    rcases List.mem_singleton.mp member with rfl
    refine ⟨?_, fun _ _ => rfl⟩
    intro request scene answer answered
    rcases Option.some.inj answered with rfl
    exact ⟨_, rfl⟩
  namespaces := by
    intro qualifier chain found
    cases found
  suppliers := by
    intro name
    show hesitantSupplier.Synchronous
    refine ⟨?_, fun _ _ _ _ => rfl⟩
    intro services key call scene
    by_cases first : call = 1
    · exact
        ⟨.error (.message "not yet"), by simp [hesitantSupplier, first,
          Resolved.shape?]⟩
    · exact
        ⟨.ok (.value (.string key)), by simp [hesitantSupplier, first,
          Resolved.shape?]⟩

/-- Where the expressions of the sample stand. -/
def sampleOrigin : Origin := ⟨"main", 1⟩

/-- A scene with one computed binding. -/
def sampleScene : Scene where
  data := RenderData.empty.setComputed "total" "hesitant"
  engine := .empty

/-- The computed binding of the sample. -/
def sampleTotal : Expression := .path none [.property "total"] sampleOrigin

/-- A template that looks up the binding twice, the second time for an
argument. -/
def sampleTemplate : Template where
  id := "main"
  generatedId := "1"
  nodes := [
    .placeholder sampleTotal,
    .text "-",
    .placeholder (.path none [.method "f" [sampleTotal]] sampleOrigin)]

/-- The first node fails, and the nodes after it still run: the resolver has
written its data, and the supplier's second call has succeeded and is kept. -/
theorem sampleTemplate_fails_after_all_nodes_ran :
    sampleEvaluator.Synchronous ∧ sampleScene.data.Idle ∧
      ∃ scene,
        sampleEvaluator.renderTemplate sampleTemplate sampleScene =
            (.ready
              (.error
                (.render
                  (.of (.resolverFailure (.message "not yet")) sampleTotal))),
              scene) ∧
          scene.data.get? "f" = some .null ∧
          (scene.data.memo ⟨"total", "hesitant", 0⟩).value =
            some (.value (.string "total")) := by
  have idle : sampleScene.data.Idle := fun _ => rfl
  have rendered :=
    renderTemplate_eq_sequential sampleEvaluator sampleEvaluator_synchronous
      sampleTemplate
      sampleScene idle
  exact ⟨sampleEvaluator_synchronous, idle, _, rendered.1, rfl, rfl⟩

end Sequential

end Phrasebook
