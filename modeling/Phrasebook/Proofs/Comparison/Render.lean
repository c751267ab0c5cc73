import Phrasebook.Proofs.Comparison.Evaluation

/-!
# Comparing two renders

A template is rendered in step by two evaluators when its expressions are
evaluated in step and the mappers write alike.  The render of an instance adds
the callbacks, a nested render an instance of its own; both are in step when the
instances are alike.

Where nothing is renamed and the data are the same, computed bindings are looked
up in step as soon as their suppliers answer in step.
-/

namespace Phrasebook

open Completion (InStep StartInStep ResultsAgree PartsAgree BothAgree)

theorem Bindings.suppliers_setAll
    (values : List (String × Json)) (bindings : Bindings) :
    (bindings.setAll values).suppliers = bindings.suppliers := by
  induction values generalizing bindings with
  | nil => rfl
  | cons value rest ih => exact ih (bindings.set value.1 value.2)

theorem Bindings.computed_setAll
    (values : List (String × Json)) (bindings : Bindings) :
    (bindings.setAll values).data.computed = bindings.data.computed := by
  induction values generalizing bindings with
  | nil => rfl
  | cons value rest ih => exact ih (bindings.set value.1 value.2)

/-- A new instance with given values names no suppliers. -/
theorem Instance.suppliers_new
    (template : Template) (values : List (String × Json)) :
    (({ template } : Instance).updateBindings
      (Bindings.setAll values)).bindings.suppliers = .none :=
  Bindings.suppliers_setAll values {}

/-- The instance that an engine makes for a render with given values, and the
state after that. -/
def Engine.prepared
    (engine : Engine) (template : Template) (values : List (String × Json))
    (state : EngineState) :
    Instance × EngineState :=
  ((engine.instantiate template state).1.updateBindings
    (Bindings.setAll values),
    (engine.instantiate template state).2)

/-- Callbacks register no template. -/
theorem Instance.registry_fire (target : Instance) (state : EngineState) :
    (target.fire state).2.registry = state.registry := by
  rw [Instance.fire]
  induction target.callbacks generalizing state with
  | nil => rfl
  | cons callback rest ih => exact ih (state.log (.note callback.report))

namespace Comparison

section Templates

variable (comparison : Comparison)

/-- The same template, up to the renaming. -/
structure TemplatesAlike (template template' : Template) : Prop where
  id : template'.id = comparison.ids template.id
  nodes : template'.nodes =
    template.nodes.map (TemplateNode.rename comparison.ids)

/-- The same result, up to the renaming. -/
def RenamedNode (node node' : ResultNode) : Prop :=
  node' = node.rename comparison.ids

/-- A mapper that says the same about a result and about the renamed one, in
states that are alike. -/
def MapsAlike (mapper : Mapper) : Prop :=
  ∀ value expression state state', comparison.states state state' →
    (mapper.map value expression state).1 =
        (mapper.map value (expression.rename comparison.ids) state').1 ∧
      comparison.states (mapper.map value expression state).2
        (mapper.map value (expression.rename comparison.ids) state').2

/-- Two evaluators with the same settings and with the same mappers, which map
alike. -/
structure WritesAlike (evaluator evaluator' : Evaluator) : Prop where
  config : evaluator.engine.config = evaluator'.engine.config
  mappers : evaluator'.engine.mappers = evaluator.engine.mappers
  maps : ∀ mapper ∈ evaluator.engine.mappers, comparison.MapsAlike mapper

/-- Texts that were written alike, or failures that are alike, in states that
are. -/
structure WrittenAlike
    (written written' : Except ResolutionError String × EngineState) :
    Prop where
  texts :
    ResultsAgree (fun error error' =>
      comparison.failures (.render error) (.render error')) Eq
      written.1 written'.1
  states : comparison.states written.2 written'.2

variable {comparison} {evaluator evaluator' : Evaluator} {scene scene' : Scene}

/-- A node is started alike when its expressions are resolved alike. -/
theorem startNode_alike
    (node : TemplateNode)
    (resolves : ∀ expression, node.expression? = some expression →
      ∀ inner ∈ expression.withArguments,
        comparison.ResolvesUnlessLiteral evaluator evaluator' [] inner)
    (alike : comparison.Scenes scene scene') :
    comparison.StartsAlike comparison.RenamedNode
      (evaluator.startNode node scene)
      (evaluator'.startNode (node.rename comparison.ids) scene') := by
  cases node with
  | text text => exact ⟨.ready (.ok rfl), alike⟩
  | placeholder expression =>
      have started := evaluate_alike expression (resolves expression rfl)
        (alike.log (.resolveStarted expression) rfl)
      rw [TemplateNode.rename, Evaluator.startNode, Evaluator.startNode]
      apply started.andThen
      rintro settled _ rfl state state' alike
      simp only [Settled.isNotFound_rename, Settled.toNode_rename]
      exact ⟨.ready (.ok rfl),
        alike.log (.resolveCompleted expression (!settled.isNotFound)) rfl⟩

/-- Nodes are started alike when their expressions are resolved alike. -/
theorem startNodes_alike
    (nodes : List TemplateNode)
    (resolves : ∀ expression ∈ nodes.filterMap TemplateNode.expression?,
      ∀ inner ∈ expression.withArguments,
        comparison.ResolvesUnlessLiteral evaluator evaluator' [] inner)
    (alike : comparison.Scenes scene scene') :
    comparison.StartsAllAlike comparison.RenamedNode
      (evaluator.startNodes nodes scene)
      (evaluator'.startNodes (nodes.map (TemplateNode.rename comparison.ids))
        scene') := by
  induction nodes generalizing scene scene' with
  | nil => exact ⟨.nil, alike⟩
  | cons node rest ih =>
      have later : ∀ expression ∈ rest.filterMap TemplateNode.expression?,
          ∀ inner ∈ expression.withArguments,
            comparison.ResolvesUnlessLiteral evaluator evaluator' [] inner := by
        intro expression member
        rcases List.mem_filterMap.mp member with ⟨other, among, read⟩
        apply resolves
        exact List.mem_filterMap.mpr ⟨other, List.mem_cons_of_mem _ among, read⟩
      have first := startNode_alike node
        (fun expression read =>
          resolves expression
            (List.mem_filterMap.mpr ⟨node, List.mem_cons_self, read⟩)) alike
      have others := ih later first.states
      exact ⟨.cons first.completions others.completions, others.scenes⟩

/-- Values are mapped alike when every mapper maps alike. -/
theorem mapThrough_alike
    (config : Config) {mappers : List Mapper}
    (maps : ∀ mapper ∈ mappers, comparison.MapsAlike mapper)
    (value : Option Json) (expression : Expression)
    {state state' : EngineState} (alike : comparison.states state state') :
    comparison.WrittenAlike
      (Mapper.mapThrough config mappers value expression state)
      (Mapper.mapThrough config mappers value (expression.rename comparison.ids)
        state') := by
  induction mappers generalizing state state' with
  | nil =>
      rw [Mapper.mapThrough, Mapper.mapThrough]
      refine ⟨?_, alike⟩
      cases value with
      | some value => exact .ok rfl
      | none =>
          rw [Mapper.defaultText, Mapper.defaultText]
          dsimp only
          split_ifs
          · exact .error (comparison.failed _ _)
          · exact .ok rfl
  | cons mapper rest ih =>
      have mapped :=
        maps mapper List.mem_cons_self value expression state state' alike
      rw [Mapper.mapThrough, Mapper.mapThrough]
      revert mapped
      generalize mapper.map value expression state = one
      generalize mapper.map value (expression.rename comparison.ids) state' =
        one'
      rcases one with ⟨cause | _ | text, after⟩ <;> rcases one' with ⟨_, after'⟩
      all_goals rintro ⟨rfl, states⟩
      · exact ⟨.error (comparison.failed _ _), states⟩
      · exact ih (fun other member =>
          maps other (List.mem_cons_of_mem _ member)) states
      · exact ⟨.ok rfl, states⟩

/-- Results are written alike when every mapper maps alike. -/
theorem writeAll_alike
    (config : Config) {mappers : List Mapper}
    (maps : ∀ mapper ∈ mappers, comparison.MapsAlike mapper)
    (written : String) (results : List ResultNode)
    {state state' : EngineState} (alike : comparison.states state state') :
    comparison.WrittenAlike
      (Mapper.writeAll config mappers written results state)
      (Mapper.writeAll config mappers written
        (results.map (ResultNode.rename comparison.ids)) state') := by
  induction results generalizing written state state' with
  | nil => exact ⟨.ok rfl, alike⟩
  | cons node rest ih =>
      have first : comparison.WrittenAlike
          (Mapper.nodeText config mappers node state)
          (Mapper.nodeText config mappers (node.rename comparison.ids)
              state') := by
        cases node with
        | constant text => exact ⟨.ok rfl, alike⟩
        | single value expression =>
            exact mapThrough_alike config maps value expression alike
      rw [List.map_cons, Mapper.writeAll, Mapper.writeAll]
      revert first
      generalize Mapper.nodeText config mappers node state = one
      generalize Mapper.nodeText config mappers (node.rename comparison.ids)
        state' = one'
      rcases one with ⟨_, after⟩
      rcases one' with ⟨_, after'⟩
      rintro ⟨failure | rfl, states⟩
      · exact ⟨.error failure, states⟩
      · exact ih _ states

theorem write_alike
    (writes : comparison.WritesAlike evaluator evaluator')
    (results : List ResultNode) (alike : comparison.Scenes scene scene') :
    comparison.StartsAlike Eq
      (evaluator.write results scene)
      (evaluator'.write (results.map (ResultNode.rename comparison.ids))
        scene') := by
  have written :=
    writeAll_alike evaluator.engine.config writes.maps "" results alike.engine
  rw [Evaluator.write, Evaluator.write, ← writes.config, writes.mappers]
  revert written
  generalize Mapper.writeAll _ _ "" results scene.engine = all
  generalize Mapper.writeAll _ _ "" _ scene'.engine = all'
  rcases all with ⟨_, after⟩
  rcases all' with ⟨_, after'⟩
  rintro ⟨failure | rfl, states⟩
  · exact ⟨.ready (.error failure), alike.data, states⟩
  · exact ⟨.ready (.ok rfl), alike.data, states⟩

/-- A template is rendered in step when the parts of all its expressions are
resolved in step. -/
theorem renderTemplate_alike
    (writes : comparison.WritesAlike evaluator evaluator')
    {template template' : Template}
    (templates : comparison.TemplatesAlike template template')
    (resolves : ∀ expression ∈ template.expressions,
      ∀ inner ∈ expression.withArguments,
        comparison.ResolvesUnlessLiteral evaluator evaluator' [] inner)
    (alike : comparison.Scenes scene scene') :
    comparison.StartsAlike Eq
      (evaluator.renderTemplate template scene)
      (evaluator'.renderTemplate template' scene') := by
  have started :=
    startNodes_alike template.nodes resolves
      (alike.log (.renderingTemplate template.id) rfl)
  rw [Evaluator.renderTemplate, Evaluator.renderTemplate, templates.id,
    templates.nodes]
  apply started.all.andThen
  rintro results results' ⟨renamed, -⟩ state state' alike
  have same : results' = results.map (ResultNode.rename comparison.ids) := by
    induction renamed with
    | nil => rfl
    | cons first _ ih => rw [first, ih, List.map_cons]
  rw [same]
  exact write_alike writes results alike

end Templates

section Instances

variable {comparison : Comparison} {engine engine' : Engine}
  {services services' : Services}
  {wholes : Instance × EngineState → Instance × EngineState → Prop}

/-- The render of an instance is in step when its template is rendered in step
and callbacks fire alike. -/
theorem renderInstance_alike
    (agree :
      PartsAgree Engine.sceneOf Engine.withScene wholes comparison.Scenes)
    (fires : ∀ whole whole', wholes whole whole' →
      wholes (whole.1.fire whole.2) (whole'.1.fire whole'.2))
    {whole whole' : Instance × EngineState} (related : wholes whole whole')
    (rendered : comparison.StartsAlike Eq
      (Evaluator.renderTemplate ⟨engine, services, whole.1.bindings.suppliers⟩
        whole.1.template
        (Engine.sceneOf whole))
      (Evaluator.renderTemplate ⟨engine', services',
        whole'.1.bindings.suppliers⟩ whole'.1.template
        (Engine.sceneOf whole'))) :
    StartInStep wholes (ResultsAgree comparison.failures Eq)
      (engine.renderInstance services whole)
      (engine'.renderInstance services' whole') := by
  have started := agree.updates _ _ _ _ rendered.states related
  rw [Engine.renderInstance, Engine.renderInstance]
  apply (rendered.completions.within agree).andThen _ started
  rintro text _ rfl whole whole' related
  exact ⟨.ready (.ok rfl), fires whole whole' related⟩

/-- A nested render is in step when the renders of the instances made for it
are. -/
theorem renderNested_alike
    {privates : Instance → Instance → Prop}
    (rendered : ∀ whole whole',
      BothAgree privates comparison.states whole whole' →
      StartInStep (BothAgree privates comparison.states)
        (ResultsAgree comparison.failures Eq)
        (engine.renderInstance services whole)
        (engine'.renderInstance services' whole'))
    {template template' : Template} {values values' : List (String × Json)}
    {state state' : EngineState}
    (started : BothAgree privates comparison.states
      (engine.prepared template values state)
      (engine'.prepared template' values' state')) :
    StartInStep comparison.states (ResultsAgree comparison.failures Eq)
      (engine.renderNested services template values state)
      (engine'.renderNested services' template' values' state') := by
  have inStep := Completion.inStep_deferred rendered
  exact ⟨(inStep.enclosed started.1).mapResult fun _ _ => And.left, started.2⟩

end Instances

section SameData

/-- Nothing is renamed, and the data are the same. -/
structure IsPlain (comparison : Comparison) : Prop where
  ids : comparison.ids = id
  data : ∀ data data', comparison.data data data' ↔ data = data'

variable {comparison : Comparison} {scene scene' : Scene}

theorem templatesAlike_of_ids
    (same : comparison.ids = id) (template : Template) :
    comparison.TemplatesAlike template template := by
  have kept : TemplateNode.rename id = id := funext TemplateNode.rename_id
  constructor
  · rw [same, id]
  · rw [same, kept, List.map_id]

namespace IsPlain

variable (plain : comparison.IsPlain)

include plain

theorem expression_rename (expression : Expression) :
    expression.rename comparison.ids = expression := by
  rw [plain.ids, expression.rename_id]

theorem part_rename (part : Part) : part.rename comparison.ids = part := by
  rw [plain.ids, part.rename_id]

theorem renamed_iff {settled settled' : Settled} :
    comparison.Renamed settled settled' ↔ settled' = settled := by
  rw [Renamed, plain.ids, Settled.rename_id]

theorem data_eq (alike : comparison.Scenes scene scene') :
    scene.data = scene'.data :=
  (plain.data _ _).mp alike.data

theorem updateMemo
    (alike : comparison.Scenes scene scene') (cell : Cell)
    (change : Memo → Memo) :
    comparison.Scenes (scene.updateMemo cell change)
      (scene'.updateMemo cell change) := by
  refine ⟨(plain.data _ _).mpr ?_, alike.engine⟩
  simp [Scene.updateMemo, plain.data_eq alike]

end IsPlain

variable {evaluator evaluator' : Evaluator} {expression : Expression}
  {cell : Cell}
  (plain : comparison.IsPlain)
  (config : evaluator.engine.config = evaluator'.engine.config)
  (supplies : ∀ call scene scene', comparison.Scenes scene scene' →
    comparison.AnswersAlike evaluator.engine.config.unrestrictedAsyncValues
      expression
        (evaluator.suppliers cell.supplier evaluator.services cell.key call
          scene).1
        (evaluator'.suppliers cell.supplier evaluator'.services cell.key call
          scene').1 ∧
      comparison.Scenes
        (evaluator.suppliers cell.supplier evaluator.services cell.key call
          scene).2
        (evaluator'.suppliers cell.supplier evaluator'.services cell.key call
          scene').2)

include plain config supplies

/-- The suppliers of two evaluators run alike. -/
theorem runSupplier_alike
    (ticket : Nat) (alike : comparison.Scenes scene scene') :
    comparison.StartsAlike comparison.Renamed
      (evaluator.runSupplier expression cell ticket scene)
      (evaluator'.runSupplier (expression.rename comparison.ids) cell ticket
        scene') := by
  have noted : comparison.Scenes (scene.noteCall cell) (scene'.noteCall cell) :=
    plain.updateMemo (alike.log (.evaluatingBinding cell.key) rfl) cell
      Memo.called
  have said := supplies ((scene.noteCall cell).data.memo cell).calls _ _ noted
  have polled := said.1.poll said.2
  rw [Evaluator.runSupplier_eq, Evaluator.runSupplier_eq]
  dsimp only [Evaluator.callSupplier]
  rw [← plain.data_eq noted, ← config]
  apply polled.completions.ending _ _ polled.states
  · rintro _ _ (_ | renamed) state state' alike
    · exact plain.updateMemo alike cell _
    · rw [plain.renamed_iff.mp renamed]
      exact plain.updateMemo alike cell _
  · exact fun state state' alike => plain.updateMemo alike cell _

/-- Two lookups wait alike. -/
theorem waiting_alike (ticket : Nat) :
    InStep comparison.Scenes
      (ResultsAgree comparison.failures comparison.Renamed)
      (evaluator.waiting expression cell ticket)
      (evaluator'.waiting (expression.rename comparison.ids) cell ticket) := by
  rw [Evaluator.waiting, Evaluator.waiting]
  refine .pending ?_ fun _ _ alike => plain.updateMemo alike cell _
  intro scene scene' alike
  dsimp only
  rw [plain.data_eq alike]
  cases (scene'.data.memo cell).value with
  | some settled =>
      exact .advanced alike (.ready (.ok (plain.renamed_iff.mpr rfl)))
  | none =>
      dsimp only
      split_ifs
      · have run := runSupplier_alike plain config supplies ticket alike
        exact .advanced run.states run.completions
      · exact .blocked

/-- A computed binding is looked up in step when its supplier answers in
step. -/
theorem lookupComputed_alike (alike : comparison.Scenes scene scene') :
    comparison.StartsAlike comparison.Renamed
      (evaluator.lookupComputed expression cell scene)
      (evaluator'.lookupComputed (expression.rename comparison.ids) cell
        scene') := by
  have same := plain.data_eq alike
  cases kept : (scene.data.memo cell).value with
  | some settled =>
      rw [Evaluator.lookupComputed_of_kept _ _ kept,
        Evaluator.lookupComputed_of_kept _ _ (same ▸ kept)]
      exact ⟨.ready (.ok (plain.renamed_iff.mpr rfl)), alike⟩
  | none =>
      have joined :
          comparison.Scenes (scene.joinLine cell) (scene'.joinLine cell) :=
        plain.updateMemo alike cell _
      have ticket : scene.nextTicket cell = scene'.nextTicket cell := by
        rw [Scene.nextTicket, Scene.nextTicket, same]
      rw [Evaluator.lookupComputed_of_not_kept _ _ kept,
        Evaluator.lookupComputed_of_not_kept _ _ (same ▸ kept), ← plain.data_eq
          joined, ← ticket]
      split_ifs
      · exact runSupplier_alike plain config supplies _ joined
      · exact ⟨waiting_alike plain config supplies _, joined⟩

omit supplies in
/-- Computed bindings are looked up in step at the root when all suppliers
answer in step. -/
theorem cells_alike
    (supplies : ∀ name key call scene scene', comparison.Scenes scene scene' →
      comparison.AnswersAlike evaluator.engine.config.unrestrictedAsyncValues
        expression
          (evaluator.suppliers name evaluator.services key call scene).1
          (evaluator'.suppliers name evaluator'.services key call scene').1 ∧
        comparison.Scenes
          (evaluator.suppliers name evaluator.services key call scene).2
          (evaluator'.suppliers name evaluator'.services key call scene').2)
    (key : String) (alike : comparison.Scenes scene scene') :
    Option.Rel
      (fun cell cell' => comparison.StartsAlike comparison.Renamed
        (evaluator.lookupComputed expression cell scene)
        (evaluator'.lookupComputed (expression.rename comparison.ids) cell'
          scene'))
      (scene.data.cell? key) (scene'.data.cell? key) := by
  rw [← plain.data_eq alike]
  cases scene.data.cell? key with
  | none => exact .none
  | some cell =>
      exact .some
        (lookupComputed_alike plain config
          (supplies cell.supplier cell.key) alike)

end SameData

end Comparison

end Phrasebook
