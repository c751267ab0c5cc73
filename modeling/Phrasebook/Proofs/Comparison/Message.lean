import Phrasebook.Bundle.Resolver
import Phrasebook.Proofs.Comparison.Render

/-!
# Comparing calls of messages

The resolver of a bundle refuses a call when it has no message with the method,
or when the number of arguments is not the number of parameters; then it
declines or fails, whatever the services and the scene are.  Any other call is
answered by the body of the message.  Two such calls are answered in step when
the bodies have the same text, or are templates that the services render in
step.

Two evaluations may also act on the same state of an engine, of which something
holds, and on data that are related.  Nothing is renamed then, and outcomes in
step are equal.  Where related data have the same explicit values, the resolver
of a bundle answers in step whenever the services render the bodies of its
messages in step.
-/

namespace Phrasebook

open Completion (InStep StartInStep ResultsAgree)

namespace Bundle

/-- Whether a call names a message of the bundle and has one argument for each
parameter. -/
def accepts (bundle : Bundle) (request : Request) : Bool :=
  match bundle.byMethod? request.part.name with
  | none => false
  | some message => request.arguments.length == message.parameters.length

/-- Why a message cannot be called with a number of arguments. -/
def countFailure (bundle : Bundle) (message : Message) (actual : Nat) : Cause :=
  .message ("message " ++ bundle.name ++ ":" ++ message.method ++ " expects " ++
    toString message.parameters.length ++ " argument(s), got " ++
      toString actual)

/-- What is answered to a call that is refused: nothing for an unknown method, a
failure for the wrong number of arguments. -/
def refusal? {σ : Type} (bundle : Bundle) (request : Request) :
    Option (Resolved σ) :=
  (bundle.byMethod? request.part.name).map fun message =>
    .failed (bundle.countFailure message request.arguments.length)

variable {bundle : Bundle} {request : Request}

theorem accepts_iff :
    bundle.accepts request = true ↔
      ∃ message, bundle.byMethod? request.part.name = some message ∧
        request.arguments.length = message.parameters.length := by
  rw [accepts]
  cases bundle.byMethod? request.part.name <;> simp

/-- A call that is not accepted gets a refusal, and changes nothing. -/
theorem resolve_of_not_accepts
    (refused : bundle.accepts request = false) (scene : Scene) :
    bundle.resolve request scene = (bundle.refusal? request, scene) := by
  rw [accepts] at refused
  rw [resolve, refusal?]
  cases known : bundle.byMethod? request.part.name with
  | none => rfl
  | some message =>
      rw [known] at refused
      have different : request.arguments.length ≠
          message.parameters.length := by
        simpa using refused
      simp [different, countFailure]

/-- A message that is called with as many arguments as it has parameters is
rendered. -/
theorem resolve_known
    {message : Message} {scene : Scene}
    (known : bundle.byMethod? request.part.name = some message)
    (counted : request.arguments.length = message.parameters.length) :
    bundle.resolve request scene =
      (some (callMessage message request scene).1,
        (callMessage message request scene).2) := by
  simp [resolve, known, counted]

end Bundle

namespace Comparison

/-- Two services with the same settings that render certain templates in step,
each with its values. -/
structure ServicesAlike
    (states : EngineState → EngineState → Prop)
    (failures : EngineError → EngineError → Prop)
    (renders : Template → List (String × Json) → Template →
      List (String × Json) → Prop)
    (services services' : Services) : Prop where
  config : services.config = services'.config
  nested : ∀ {template values template' values'},
    renders template values template' values' →
    ∀ state state', states state state' →
      StartInStep states (ResultsAgree failures Eq)
        (services.nested template values state)
        (services'.nested template' values' state')

variable {comparison : Comparison} {expression : Expression}
  {renders : Template → List (String × Json) → Template →
    List (String × Json) → Prop}
  {message message' : Message} {request request' : Request}
  {scene scene' : Scene}

/-- Bodies of two messages, called in two scenes: the same text, two templates
that are rendered with the data of the calls, or templates that are missing. -/
inductive BodiesAlike
    (comparison : Comparison) (expression : Expression)
    (renders : Template → List (String × Json) → Template →
      List (String × Json) → Prop)
    (scene scene' : Scene) (data data' : List (String × Json)) :
    Body → Body → Prop
  | constant (text : String) :
      BodiesAlike comparison expression renders scene scene' data data'
        (.constant text) (.constant text)
  | template {id id' : String} {template template' : Template}
      (found : scene.engine.registry.get id = .ok template)
      (found' : scene'.engine.registry.get id' = .ok template')
      (rendered : renders template data template' data') :
      BodiesAlike comparison expression renders scene scene' data data'
        (.template id) (.template id')
  | missing {id id' : String} {error error' : EngineError}
      (missed : scene.engine.registry.get id = .error error)
      (missed' : scene'.engine.registry.get id' = .error error')
      (failures : comparison.failures (.ofCause (.engine error) expression)
        (.ofCause (.engine error') (expression.rename comparison.ids))) :
      BodiesAlike comparison expression renders scene scene' data data'
        (.template id) (.template id')

/-- Calls of messages with bodies that are alike are answered in step. -/
theorem callMessage_alike
    (unrestricted : Bool)
    (services : ServicesAlike comparison.states comparison.failures renders
      request.services request'.services)
    (handedOn : ∀ error error', comparison.failures error error' →
      comparison.failures (.ofCause (.engine error) expression)
        (.ofCause (.engine error') (expression.rename comparison.ids)))
    (alike : comparison.Scenes scene scene')
    (bodies : BodiesAlike comparison expression renders scene scene'
      (message.data (Bundle.sceneLocale scene) request.arguments)
      (message'.data (Bundle.sceneLocale scene') request'.arguments)
      (message.body (Bundle.sceneLocale scene))
      (message'.body (Bundle.sceneLocale scene'))) :
    comparison.AnswersAlike unrestricted expression
        (Bundle.callMessage message request scene).1
          (Bundle.callMessage message' request' scene').1 ∧
      comparison.Scenes
        (Bundle.callMessage message request scene).2
          (Bundle.callMessage message' request' scene').2 := by
  rw [Bundle.callMessage, Bundle.callMessage]
  revert bodies
  generalize message.body _ = body, message'.body _ = body'
  rintro (text | ⟨found, found', rendered⟩ | ⟨missed, missed', failures⟩)
  · exact ⟨.ready (.ok rfl), alike⟩
  · have nested := services.nested rendered _ _ alike.engine
    simp only [found, found']
    exact ⟨answersAlike_ofRender handedOn nested.completions, alike.data,
      nested.states⟩
  · simp only [missed, missed']
    exact ⟨.ready (.error failures), alike⟩

section Same

variable {related : RenderData → RenderData → Prop} {holds : EngineState → Prop}

/-- The comparison of evaluations from related data and the same state. -/
def same
    (related : RenderData → RenderData → Prop) (holds : EngineState → Prop)
    (logged : ∀ state event, event.isDetail = true → holds state →
      holds (state.log event)) :
    Comparison where
  ids := id
  data := related
  states state state' := state = state' ∧ holds state
  failures := Eq
  logged event detail alike := by
    rw [Event.rename_id, alike.1]
    exact ⟨rfl, logged _ event detail (alike.1 ▸ alike.2)⟩
  failed reason expression := by rw [Expression.rename_id]

/-- Results that agree in all are equal. -/
theorem resultsAgree_eq {ε α : Type} {result result' : Except ε α} :
    ResultsAgree Eq Eq result result' ↔ result = result' := by
  constructor
  · rintro (rfl | rfl) <;> rfl
  · rintro rfl
    cases result with
    | error error => exact .error rfl
    | ok value => exact .ok rfl

theorem rel_resultsAgree_eq
    {ε α : Type} {result result' : Option (Except ε α)} :
    Option.Rel (ResultsAgree Eq Eq) result result' ↔ result = result' := by
  constructor
  · rintro (agree | _)
    · rw [resultsAgree_eq.mp agree]
    · rfl
  · rintro rfl
    cases result with
    | none => exact .none
    | some result => exact .some (resultsAgree_eq.mpr rfl)

variable
  {logged : ∀ state event, event.isDetail = true → holds state →
    holds (state.log event)}

/-- Scenes with the same data, in the same state. -/
theorem scenes_same_iff {scene scene' : Scene} :
    (same Eq holds logged).Scenes scene scene' ↔
      scene = scene' ∧ holds scene.engine := by
  constructor
  · rcases scene with ⟨data, state⟩
    rcases scene' with ⟨data', state'⟩
    rintro ⟨rfl, rfl, held⟩
    exact ⟨rfl, held⟩
  · rintro ⟨rfl, held⟩
    exact ⟨rfl, rfl, held⟩

theorem isPlain_same : (same Eq holds logged).IsPlain where
  ids := rfl
  data _ _ := Iff.rfl

theorem handedOn_same (expression : Expression) (error error' : EngineError)
    (equal : error = error') :
    EngineError.ofCause (.engine error) expression =
      .ofCause (.engine error')
        (expression.rename (same related holds logged).ids) := by
  rw [equal]
  exact congrArg _ expression.rename_id.symm

variable {renders : Template → List (String × Json) → Prop}
  {services services' : Services}

/-- The same template with the same values, both as expected. -/
def Both
    (renders : Template → List (String × Json) → Prop)
    (template : Template) (values : List (String × Json)) (template' : Template)
    (values' : List (String × Json)) : Prop :=
  (template' = template ∧ values' = values) ∧ renders template values

/-- The resolver of a bundle answers two calls of a message in step when they
have the same arguments, the data have the same explicit values, and the
services render the bodies of the message in step. -/
theorem answers_bundle
    (explicit : ∀ data data', related data data' →
      data.explicit = data'.explicit)
    {bundle : Bundle} {message : Message} (request request' : Request)
    (named : bundle.byMethod? request.part.name = some message)
    (named' : bundle.byMethod? request'.part.name = some message)
    (arguments : request'.arguments = request.arguments)
    (counted : request.arguments.length = message.parameters.length)
    (services : ServicesAlike (same related holds logged).states Eq
      (Both renders)
      request.services request'.services)
    (bodies : ∀ locale id template state, holds state →
      message.body locale = .template id →
      state.registry.get id = .ok template →
        renders template (message.data locale request.arguments))
    {unrestricted : Bool} {expression : Expression} {scene scene' : Scene}
    (alike : (same related holds logged).Scenes scene scene') :
    Option.Rel
      ((same related holds logged).AnswersAlike unrestricted expression)
        (bundle.resolve request scene).1 (bundle.resolve request' scene').1 ∧
      (same related holds logged).Scenes
        (bundle.resolve request scene).2
          (bundle.resolve request' scene').2 := by
  rcases alike.engine with ⟨states, held⟩
  have locales : Bundle.sceneLocale scene' = Bundle.sceneLocale scene := by
    simp only [Bundle.sceneLocale, RenderData.get?, explicit _ _ alike.data]
  have body : BodiesAlike (same related holds logged) expression
      (Both renders) scene scene'
      (message.data (Bundle.sceneLocale scene) request.arguments)
      (message.data (Bundle.sceneLocale scene') request'.arguments)
      (message.body (Bundle.sceneLocale scene))
      (message.body (Bundle.sceneLocale scene')) := by
    rw [locales]
    cases selected : message.body (Bundle.sceneLocale scene) with
    | constant text => exact .constant text
    | template id =>
        cases found : scene.engine.registry.get id with
        | ok template =>
            apply BodiesAlike.template found (states ▸ found)
            exact ⟨⟨rfl, by rw [arguments]⟩,
              bodies _ id template _ held selected found⟩
        | error error =>
            exact .missing found (states ▸ found)
              (handedOn_same expression error error rfl)
  have called :=
    callMessage_alike unrestricted services (handedOn_same expression)
      alike body
  rw [Bundle.resolve_known named counted,
    Bundle.resolve_known named' (arguments ▸ counted)]
  exact ⟨.some called.1, called.2⟩

end Same

end Comparison

end Phrasebook
