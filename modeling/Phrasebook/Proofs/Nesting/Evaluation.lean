import Phrasebook.Engine.Render
import Phrasebook.Proofs.Comparison.Render
import Phrasebook.Proofs.Nesting.Services

/-!
# Evaluations and renders in step

An engine evaluates an expression in step with either of two services when all
the resolvers do that the expression may ask: the general ones for every part,
those of a namespace for the first part of an expression in it.  Hence a
template is rendered in step when this is so for all expressions of its
placeholders and all the argument expressions inside them.
-/

namespace Phrasebook

open Completion (InStep StartInStep ResultsAgree PartsAgree BothAgree)

variable {engine : Engine} {templates : Dictionary Template}
  {services services' : Services}

/-- The general resolvers of an engine answer in step. -/
def Engine.GeneralInStep
    (engine : Engine) (templates : Dictionary Template)
    (services services' : Services) : Prop :=
  ∀ resolver ∈ engine.resolvers, ∀ part,
    resolver.InStep templates part services services'

/-- The resolvers that are asked for the first part of a namespaced expression
answer it in step. -/
def Engine.HeadInStep
    (engine : Engine) (templates : Dictionary Template)
    (services services' : Services)
    (expression : Expression) : Prop :=
  ∀ qualifier part rest chain, expression.qualifier = some qualifier →
    expression.parts = part :: rest →
    engine.namespaces.get? qualifier = some chain →
      ∀ resolver ∈ chain, resolver.InStep templates part services services'

namespace Comparison

/-- The comparison of evaluations of the same data over the same registry, which
end in the same errors, of a kind that is handed on as it is. -/
def agreeing (templates : Dictionary Template) : Comparison where
  ids := id
  data := Eq
  states := EngineState.Agree templates
  failures := EngineError.Same
  logged event _ agree := by
    rw [Event.rename_id]
    exact agree.log event
  failed reason expression := by
    rw [Expression.rename_id]
    exact ⟨rfl, trivial⟩

theorem isPlain_agreeing : (agreeing templates).IsPlain where
  ids := rfl
  data _ _ := Iff.rfl

theorem scenes_agreeing :
    (agreeing templates).Scenes = Scene.Agree templates := by
  funext scene scene'
  apply propext
  constructor
  · exact fun alike => ⟨alike.data, alike.engine⟩
  · exact fun agree => ⟨agree.data, agree.engine⟩

variable (unrestricted : Bool) (expression : Expression) {part : Part}

/-- Answers in step are alike. -/
theorem answersAlike_of_inStep
    {answer answer' : Resolved Scene}
    (inStep : Resolved.InStep (Scene.Agree templates) answer answer') :
    (agreeing templates).AnswersAlike unrestricted expression answer
      answer' := by
  rw [AnswersAlike, scenes_agreeing, isPlain_agreeing.expression_rename]
  apply (inStep.flatten expression unrestricted).mono
  rintro _ _ (same | rfl)
  · exact .error same
  · exact .ok (isPlain_agreeing.renamed_iff.mpr rfl)

theorem respondsAlike_of_inStep
    {resolver : Resolver}
    (inStep : resolver.InStep templates part services services')
    (arguments : List Json) (base : Json) (topLevel : Bool) :
    (agreeing templates).RespondsAlike unrestricted expression
      ⟨base, part, arguments, topLevel, services⟩
      ⟨base, part.rename (agreeing templates).ids, arguments, topLevel,
        services'⟩
      resolver resolver := by
  rw [isPlain_agreeing.part_rename]
  refine ⟨inStep.applies base arguments topLevel, fun scene scene' alike => ?_⟩
  rw [scenes_agreeing] at alike ⊢
  have said := inStep.resolves base arguments topLevel scene scene' alike
  refine ⟨?_, said.scenes⟩
  have answers := said.answers
  revert answers
  generalize (resolver.resolve _ scene).1 = answer
  generalize (resolver.resolve _ scene').1 = answer'
  rintro (answers | _)
  · exact .some (answersAlike_of_inStep unrestricted expression answers)
  · exact .none

/-- Chains of resolvers that answer in step. -/
theorem chainsAlike_of_inStep
    {chain : Chain}
    (inStep : ∀ resolver ∈ chain,
      resolver.InStep templates part services services')
    (arguments : List Json) (base : Json) (topLevel : Bool) :
    (agreeing templates).ChainsAlike unrestricted expression
      ⟨base, part, arguments, topLevel, services⟩
      ⟨base, part.rename (agreeing templates).ids, arguments, topLevel,
        services'⟩ chain chain := by
  apply List.forall₂_same.mpr
  intro resolver member
  exact respondsAlike_of_inStep unrestricted expression (inStep resolver member)
    arguments base topLevel

end Comparison

/-- The parts of an expression are resolved in step when the resolvers answer in
step that may be asked for them. -/
theorem Engine.GeneralInStep.resolves
    (general : engine.GeneralInStep templates services services')
    {expression : Expression}
    (head : engine.HeadInStep templates services services' expression) :
    (Comparison.agreeing templates).Resolves
      ⟨engine, services, .none⟩ ⟨engine, services', .none⟩ [] expression where
  first part rest split := by
    cases named : expression.qualifier with
    | none =>
        apply Comparison.resolvesPart_root named
        · rfl
        · intro _ scene scene' alike
          rw [Comparison.isPlain_agreeing.data_eq alike]
        · intro _ scene scene'
          apply Comparison.cells_alike Comparison.isPlain_agreeing rfl
          exact fun _ _ _ _ _ alike =>
            ⟨.ready (.ok (Comparison.isPlain_agreeing.renamed_iff.mpr rfl)),
              alike⟩
        · intro arguments _
          exact Comparison.chainsAlike_of_inStep _ _ (fun resolver member =>
            general resolver member part)
            arguments .null true
    | some qualifier =>
        apply Comparison.resolvesPart_named named
        · rfl
        intro arguments _
        dsimp only
        cases asked : engine.namespaces.get? qualifier with
        | none => exact .none
        | some chain =>
            apply Option.Rel.some
            exact Comparison.chainsAlike_of_inStep _ _
              (head qualifier part rest chain named split asked)
              arguments .null true
  later part _ base := by
    apply Comparison.resolvesPart_later
    · rfl
    intro arguments _
    exact Comparison.chainsAlike_of_inStep _ _ (fun resolver member =>
      general resolver member part)
      arguments base false

/-- A template is rendered in step when the expressions of its placeholders ask
in step. -/
theorem Evaluator.renderTemplate_inStep
    (unmapped : engine.mappers = [])
    (general : engine.GeneralInStep templates services services')
    (template : Template)
    (heads :
      ∀ expression ∈ template.expressions,
        ∀ inner ∈ expression.withArguments,
          engine.HeadInStep templates services services' inner)
    {scene scene' : Scene} (agree : scene.Agree templates scene') :
    StartInStep (Scene.Agree templates) SameResult
      (renderTemplate ⟨engine, services, .none⟩ template scene)
      (renderTemplate ⟨engine, services', .none⟩ template scene') := by
  rw [← Comparison.scenes_agreeing] at agree ⊢
  apply Comparison.renderTemplate_alike _
    (Comparison.templatesAlike_of_ids rfl template) _ agree
  · refine ⟨rfl, rfl, ?_⟩
    rw [unmapped]
    exact List.forall_mem_nil _
  · intro expression member inner within _
    exact general.resolves (heads expression member inner within)

namespace Engine

/-- The same instance of a template, without suppliers. -/
structure SameInstance (template : Template) (target target' : Instance) :
    Prop where
  same : target = target'
  template_eq : target.template = template
  unsupplied : target.bindings.suppliers = .none

/-- The same instance of a template, in states that agree. -/
abbrev WholesAgree (templates : Dictionary Template) (template : Template) :
    Instance × EngineState → Instance × EngineState → Prop :=
  BothAgree (SameInstance template) (EngineState.Agree templates)

theorem partsAgree (template : Template) :
    PartsAgree sceneOf withScene (WholesAgree templates template)
      (Comparison.agreeing templates).Scenes where
  parts := by
    rintro ⟨target, state⟩ ⟨_, state'⟩ ⟨⟨rfl, -, -⟩, agree⟩
    exact ⟨rfl, agree⟩
  updates := by
    rintro ⟨data, state⟩ ⟨_, state'⟩ ⟨target, _⟩ ⟨_, _⟩ ⟨rfl, agree⟩
      ⟨⟨rfl, same, unsupplied⟩, -⟩
    exact ⟨⟨rfl, same, unsupplied⟩, agree⟩

theorem wholesAgree_fire
    {template : Template} {whole whole' : Instance × EngineState}
    (agree : WholesAgree templates template whole whole') :
    WholesAgree templates template (whole.1.fire whole.2)
      (whole'.1.fire whole'.2) := by
  rcases whole with ⟨target, state⟩
  rcases whole' with ⟨_, state'⟩
  rcases agree with ⟨⟨rfl, same, unsupplied⟩, registry, registered⟩
  refine ⟨⟨rfl, same, unsupplied⟩, ?_, ?_⟩
  · rw [Instance.registry_fire, Instance.registry_fire]
    exact registry
  · rw [Instance.registry_fire]
    exact registered

variable
  {template : Template} (unmapped : engine.mappers = [])
  (general : engine.GeneralInStep templates services services')
  (heads :
    ∀ expression ∈ template.expressions,
      ∀ inner ∈ expression.withArguments,
        engine.HeadInStep templates services services' inner)

include unmapped general heads

/-- The render of an instance without suppliers. -/
theorem renderInstance_inStep
    {whole whole' : Instance × EngineState}
    (agree : WholesAgree templates template whole whole') :
    StartInStep (WholesAgree templates template) SameResult
      (engine.renderInstance services whole)
      (engine.renderInstance services' whole') := by
  have parts := (partsAgree template).parts _ _ agree
  apply Comparison.renderInstance_alike (partsAgree template) (fun _ _ =>
    wholesAgree_fire) agree
  rcases whole with ⟨target, state⟩
  rcases whole' with ⟨_, state'⟩
  rcases agree with ⟨⟨rfl, rfl, unsupplied⟩, -⟩
  rw [Comparison.scenes_agreeing] at parts
  rw [unsupplied, Comparison.StartsAlike, Comparison.scenes_agreeing]
  exact Evaluator.renderTemplate_inStep unmapped general target.template
    heads parts

/-- The render of a template in an instance of its own. -/
theorem renderNested_inStep
    (uninitialized : engine.initializers = []) (data : List (String × Json))
    {state state' : EngineState} (agree : state.Agree templates state') :
    StartInStep (EngineState.Agree templates) SameResult
      (engine.renderNested services template data state)
      (engine.renderNested services' template data state') := by
  let comparison := Comparison.agreeing templates
  have rendered : ∀ whole whole',
      BothAgree (SameInstance template) comparison.states whole whole' →
      StartInStep (BothAgree (SameInstance template) comparison.states)
        (ResultsAgree comparison.failures Eq)
        (engine.renderInstance services whole)
        (engine.renderInstance services' whole') :=
    fun _ _ => renderInstance_inStep unmapped general heads
  apply Comparison.renderNested_alike rendered
  rw [prepared, prepared, instantiate, instantiate, uninitialized]
  exact ⟨⟨rfl, rfl, Instance.suppliers_new template data⟩, agree⟩

end Engine

end Phrasebook
