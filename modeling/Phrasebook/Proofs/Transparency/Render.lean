import Phrasebook.Proofs.Sequential.Refinement
import Phrasebook.Proofs.Transparency.Meaning

/-!
# Handles around answers are transparent

Take an evaluator whose answers are shapes in any nests of handles, and the
evaluator that gives the same shapes without any handle.  The render of the
second one is ready at once.  The render of the first one may suspend in every
expression and every argument, and its lookups may wait for each other; driving
it ends nevertheless, and it ends in a text exactly when the other render gives
that text.
-/

namespace Phrasebook

namespace Evaluator

variable {evaluator : Evaluator} {oracle : Oracle}

theorem synchronous_resolver (responder : Responder) :
    responder.resolver.Synchronous where
  answers := by
    intro request scene answer answered
    rcases Option.map_eq_some_iff.mp answered with ⟨shape, -, rfl⟩
    exact ⟨shape, shape.shape?_answer⟩
  memos := fun _ _ => rfl

theorem synchronous_directly (evaluator : Evaluator) (oracle : Oracle) :
    (evaluator.directly oracle).Synchronous where
  resolvers := by
    intro resolver member
    rcases List.mem_map.mp member with ⟨responder, -, rfl⟩
    exact synchronous_resolver responder
  namespaces := by
    intro qualifier chain found resolver member
    rw [namespaces_directly] at found
    rcases Option.map_eq_some_iff.mp found with ⟨responders, -, rfl⟩
    rcases List.mem_map.mp member with ⟨responder, -, rfl⟩
    exact synchronous_resolver responder
  suppliers := by
    intro name
    exact ⟨fun _ key _ _ => ⟨_, (oracle.bound name key).shape?_answer⟩,
      fun _ _ _ _ => rfl⟩

/-- A render starts soundly on data that no lookup is waiting for. -/
theorem sound_start {scene : Scene} (idle : scene.data.Idle) :
    (oracle.setting scene.data).Sound scene where
  explicit := rfl
  computed := rfl
  memo := by
    intro cell
    have value :
        (oracle.setting scene.data).computed cell =
          ((scene.data.memo cell).value <|>
              (oracle.setting scene.data).supplied cell) :=
      rfl
    constructor
    case kept =>
      intro settled kept
      rw [value, kept]
      rfl
    case unkept =>
      intro notKept
      rw [value, notKept]
      rfl
    case dismissed => exact fun _ => idle cell
    case issued =>
      intro ticket inLine
      rw [idle cell] at inLine
      cases inLine
    case distinct =>
      rw [idle cell]
      exact List.nodup_nil

/-- Driving a render of nested answers ends, and it ends in a text exactly when
the render of the bare shapes, which is ready at once, gives that text. -/
theorem drive_renderTemplate_iff_directly
    (evaluator : Evaluator) (oracle : Oracle)
    (follows : evaluator.Follows oracle)
    (template : Template) (scene : Scene) (idle : scene.data.Idle) :
    ∃ result after result' after',
      (evaluator.renderTemplate template scene).1.drive
          (evaluator.renderTemplate template scene).2 = (some result, after) ∧
        (evaluator.directly oracle).renderTemplate template scene =
          (.ready result', after') ∧
          ∀ text, result = .ok text ↔ result' = .ok text := by
  have sound : (oracle.setting scene.data).Sound scene := sound_start idle
  have nested := starts_renderTemplate follows template sound
  have direct := starts_renderTemplate follows.directly template sound
  rcases nested.drive idle with ⟨result, after, driven, ended, -, -⟩
  have ready :=
    (Sequential.renderTemplate_eq_sequential (evaluator.directly oracle)
      (synchronous_directly evaluator oracle) template scene idle).1
  rw [ready] at direct ⊢
  rcases direct with ⟨held, -, meets⟩
  have ended' := (Setting.meets_ready_iff.mp meets).2
  refine ⟨result, after, _, _, driven, rfl, ?_⟩
  intro text
  have succeeds :
      ∀ outcome : Except EngineError String,
        outcome = .ok text ↔ outcome.toOption = some text := by
    intro outcome
    cases outcome <;> simp [Except.toOption]
  rw [succeeds, succeeds, ended, ended']
  rfl

/-- A nest of three handles: completed, then pending for a number of polls, then
completed. -/
def nest (polls : Nat) (answer : Resolved Scene) : Resolved Scene :=
  .completed
    (.pending (.after polls (Scene.log (.note "polled")) (.completed answer)))

theorem delivers_nest (unrestricted : Bool) (polls : Nat) (shape : Shape) :
    (nest polls shape.answer).Delivers unrestricted shape := by
  constructor
  · change Resolved.HandleWraps _ _ _
    induction polls with
    | zero => exact fun _ => Resolved.wraps_answer unrestricted shape
    | succ polls ih => exact fun _ => ih
  · have inside : (Resolved.completed shape.answer).Keeps Scene.data :=
      Resolved.keeps_answer Scene.data shape
    apply Resolved.handleKeeps_after _ inside
    exact fun _ => rfl

/-- One responder, which gives the first argument of a method back, and one
supplier. -/
def sampleOracle : Oracle where
  general := [{
    applies := fun _ => true
    respond := fun request => request.arguments.head?.map fun argument =>
      .ok (.value argument) }]
  named := []
  bound _ _ := .ok (.value (.string "seven"))

/-- An evaluator whose answers to the sample are nests of handles: the
resolver's one is pending for two polls, the supplier's for as many as it has
been called. -/
def nestingEvaluator : Evaluator where
  engine := {
    resolvers := [{
      resolve := fun request scene =>
        (request.arguments.head?.map fun argument => nest 1 (.value argument),
          scene) }]
    namespaces := []
    mappers := []
    initializers := []
    config := {} }
  services := ⟨{}, fun _ _ state => (.ready (.ok ""), state)⟩
  suppliers _ _ _ call scene := (nest call (.value (.string "seven")), scene)

theorem nestingEvaluator_follows : nestingEvaluator.Follows sampleOracle where
  resolvers := by
    refine .cons ⟨fun _ => rfl, ?_, fun _ _ => rfl⟩ .nil
    intro request scene
    change Option.Rel _ (request.arguments.head?.map _)
      (request.arguments.head?.map _)
    cases request.arguments.head? with
    | none => exact .none
    | some argument => exact .some (delivers_nest _ 1 (.ok (.value argument)))
  namespaces := fun _ => .none
  suppliers := by
    intro name
    refine ⟨?_, fun _ _ _ => rfl⟩
    exact fun _ call _ => delivers_nest _ call (.ok (.value (.string "seven")))
  mappers := fun _ member => nomatch member

/-- Both lookups of the binding suspend, the second one waiting for the first,
and the render still ends in the text of the bare shapes. -/
theorem nestingEvaluator_renders :
    nestingEvaluator.Follows sampleOracle ∧ Sequential.sampleScene.data.Idle ∧
      ∃ after,
        (nestingEvaluator.renderTemplate Sequential.sampleTemplate
          Sequential.sampleScene).1.drive
            (nestingEvaluator.renderTemplate Sequential.sampleTemplate
              Sequential.sampleScene).2 =
          (some (.ok "seven-seven"), after) := by
  have idle : Sequential.sampleScene.data.Idle := fun _ => rfl
  rcases drive_renderTemplate_iff_directly nestingEvaluator sampleOracle
    nestingEvaluator_follows
    Sequential.sampleTemplate Sequential.sampleScene idle with
      ⟨result, after, result', after', driven, direct, iff⟩
  have text :
      ((nestingEvaluator.directly sampleOracle).renderTemplate
        Sequential.sampleTemplate Sequential.sampleScene).1 =
        .ready (.ok "seven-seven") := by
    rfl
  rw [direct] at text
  have ended : result' = .ok "seven-seven" := by
    injection text
  refine ⟨nestingEvaluator_follows, idle, after, ?_⟩
  rw [driven, (iff "seven-seven").mpr ended]

end Evaluator

end Phrasebook
