import Phrasebook.Proofs.Completion.InStep
import Phrasebook.Resolver.BuiltIn

/-!
# Resolvers that render templates

A resolver may render templates by the services that it is given.
`Resolver.RendersOnly` says which ones it renders when it is asked for a part,
and that nothing else of the services and nothing of the journal counts for it:
with any two services that render these templates alike it gives the same
answers, up to what the renders write into the journal.

An error of a render that has been handed on by a resolver is the error of the
render itself, so that the answers taken off their handles agree as well, errors
included.
-/

namespace Phrasebook

open Completion (InStep PollsAgree StartInStep ResultsAgree PartsAgree)

/-- Two states with the same registry, in which the given templates are
registered.  Their journals may differ. -/
structure EngineState.Agree
    (templates : Dictionary Template) (state state' : EngineState) : Prop where
  registry : state.registry = state'.registry
  registered : state.registry.templates = templates

/-- Two scenes with the same data over the same registry. -/
structure Scene.Agree (templates : Dictionary Template) (scene scene' : Scene) :
    Prop where
  data : scene.data = scene'.data
  engine : scene.engine.Agree templates scene'.engine

variable {templates : Dictionary Template}

theorem EngineState.Agree.log
    {state state' : EngineState} (agree : state.Agree templates state')
    (event : Event) :
    (state.log event).Agree templates (state'.log event) :=
  ⟨agree.registry, agree.registered⟩

theorem Scene.partsAgree :
    PartsAgree Scene.engine (fun engine scene => { scene with engine })
      (Scene.Agree templates) (EngineState.Agree templates) where
  parts _ _ agree := agree.engine
  updates _ _ _ _ engine agree := ⟨agree.data, engine⟩

namespace EngineError

/-- An error that already is the error of an expression, or the loss of the
thread: as the cause of a failure it is handed on as it is. -/
def HandedOn : EngineError → Prop
  | .render _ => True
  | .threadLost => True
  | _ => False

theorem handedOn_ofCause (cause : Cause) (expression : Expression) :
    (ofCause cause expression).HandedOn := by
  unfold ofCause
  split <;> trivial

/-- An error that expressions hand on is handed on as it is. -/
theorem HandedOn.ofCause_eq {error : EngineError} (handedOn : error.HandedOn)
    (expression : Expression) :
    ofCause (.engine error) expression = error := by
  cases error with
  | render _ | threadLost => rfl
  | templateNotFound _ | parse _ _ _ | runtime _ => exact handedOn.elim

/-- The same error, of a kind that is handed on as it is. -/
def Same (error error' : EngineError) : Prop :=
  error = error' ∧ error.HandedOn

theorem same_ofCause (cause : Cause) (expression : Expression) :
    Same (ofCause cause expression) (ofCause cause expression) :=
  ⟨rfl, handedOn_ofCause cause expression⟩

end EngineError

/-- The same value, or the same error. -/
abbrev SameResult
    {α : Type} : Except EngineError α → Except EngineError α → Prop :=
  ResultsAgree EngineError.Same Eq

namespace Resolved

variable {σ : Type} {states : σ → σ → Prop}

/-- Two answers of the same shape, with the same content and with handles in
step. -/
inductive InStep (states : σ → σ → Prop) : Resolved σ → Resolved σ → Prop
  | value (value : Json) : InStep states (.value value) (.value value)
  | notFound : InStep states .notFound .notFound
  | node (node : ResultNode) : InStep states (.node node) (.node node)
  | failed (cause : Cause) : InStep states (.failed cause) (.failed cause)
  | completed {inner inner' : Resolved σ}
      (inside : InStep states inner inner') :
      InStep states (.completed inner) (.completed inner')
  | pending {handle handle' : Completion σ (Resolved σ)}
      (inside : Completion.InStep states (InStep states) handle handle') :
      InStep states (.pending handle) (.pending handle')
  | foreign {handle handle' : Completion σ (Resolved σ)}
      (inside : Completion.InStep states (InStep states) handle handle') :
      InStep states (.foreign handle) (.foreign handle')

mutual

/-- Answers in step are in step when their handles are taken off. -/
theorem InStep.flatten
    (expression : Expression) (unrestricted : Bool)
    {answer answer' : Resolved σ} (inStep : InStep states answer answer') :
    Completion.InStep states SameResult
      (answer.flatten expression unrestricted)
      (answer'.flatten expression unrestricted) := by
  match answer with
  | .value _ =>
      cases inStep
      exact .ready (.ok rfl)
  | .notFound =>
      cases inStep
      exact .ready (.ok rfl)
  | .node _ =>
      cases inStep
      exact .ready (.ok rfl)
  | .failed cause =>
      cases inStep
      exact .ready (.error (EngineError.same_ofCause cause expression))
  | .completed inner =>
      cases inStep with
      | completed inside => exact inside.flatten expression unrestricted
  | .pending handle =>
      cases inStep with
      | pending inside => exact awaiting_inStep expression unrestricted inside
  | .foreign handle =>
      cases inStep with
      | foreign inside =>
          cases unrestricted with
          | true => exact awaiting_inStep expression true inside
          | false => exact .ready (.error ⟨rfl, trivial⟩)

theorem awaiting_inStep
    (expression : Expression) (unrestricted : Bool)
    {handle handle' : Completion σ (Resolved σ)}
    (inStep : Completion.InStep states (InStep states) handle handle') :
    Completion.InStep states SameResult
      (awaiting expression unrestricted handle)
      (awaiting expression unrestricted handle') := by
  match handle with
  | .ready answer =>
      cases inStep with
      | ready agree =>
          refine .pending (fun state state' related => ?_) (fun _ _ related =>
            related)
          exact (agree.flatten expression unrestricted).reach related
  | .pending advance release =>
      cases inStep with
      | pending polls releases =>
          refine .pending (fun state state' related => ?_) releases
          exact awaitingPoll_agree expression unrestricted
            (polls state state' related)

theorem awaitingPoll_agree
    (expression : Expression) (unrestricted : Bool)
    {poll poll' : Poll σ (Resolved σ)}
    (agree : PollsAgree states (Completion.InStep states (InStep states)) poll
      poll') :
    PollsAgree states (Completion.InStep states SameResult)
      (awaitingPoll expression unrestricted poll)
      (awaitingPoll expression unrestricted poll') := by
  match poll with
  | .blocked =>
      cases agree
      exact .blocked
  | .advanced (.ready answer) after =>
      cases agree with
      | advanced moved next =>
          cases next with
          | ready agree =>
              exact (agree.flatten expression unrestricted).reach moved
  | .advanced (.pending advance release) after =>
      cases agree with
      | advanced moved next =>
          have later := awaiting_inStep expression unrestricted next
          cases next with
          | pending _ _ => exact .advanced moved later

end

/-- The answers that renders in step stand for. -/
theorem inStep_ofRender
    {render render' : Evaluation EngineState String}
    (inStep : Completion.InStep (EngineState.Agree templates) SameResult render
      render') :
    InStep (Scene.Agree templates) (ofRender render) (ofRender render') := by
  refine .pending ((inStep.within Scene.partsAgree).mapResult ?_)
  rintro _ _ (⟨rfl, -⟩ | rfl)
  · exact .failed _
  · exact .value _

end Resolved

/-- Two services with the same settings that render certain templates in
step. -/
structure Services.Agree
    (templates : Dictionary Template) (rendered : Template → Prop)
    (services services' : Services) :
    Prop where
  config : services.config = services'.config
  nested :
    ∀ template, rendered template →
      ∀ (data : List (String × Json)) (state state' : EngineState),
      state.Agree templates state' →
        StartInStep (EngineState.Agree templates) SameResult
          (services.nested template data state)
          (services'.nested template data state')

/-- What two resolvers have said, with the scenes that they left. -/
structure SaidInStep
    (templates : Dictionary Template)
    (said said' : Option (Resolved Scene) × Scene) : Prop where
  answers : Option.Rel (Resolved.InStep (Scene.Agree templates)) said.1 said'.1
  scenes : said.2.Agree templates said'.2

/-- A resolver that, asked for a part, answers in step with either services. -/
structure Resolver.InStep
    (templates : Dictionary Template) (part : Part)
    (services services' : Services)
    (resolver : Resolver) : Prop where
  applies :
    ∀ base arguments topLevel,
      resolver.applies ⟨base, part, arguments, topLevel, services⟩ =
        resolver.applies ⟨base, part, arguments, topLevel, services'⟩
  resolves :
    ∀ base arguments topLevel scene scene', scene.Agree templates scene' →
      SaidInStep templates
        (resolver.resolve ⟨base, part, arguments, topLevel, services⟩ scene)
        (resolver.resolve ⟨base, part, arguments, topLevel, services'⟩ scene')

/-- Asked for a part, a resolver renders no other templates than the given ones,
and what else the services do and what the journal says makes no difference to
it. -/
def Resolver.RendersOnly
    (templates : Dictionary Template) (part : Part) (rendered : Template → Prop)
    (resolver : Resolver) :
    Prop :=
  ∀ services services', services.Agree templates rendered services' →
    resolver.InStep templates part services services'

theorem Services.Agree.mono
    {rendered rendered' : Template → Prop} {services services' : Services}
    (fewer : ∀ template, rendered' template → rendered template)
    (agree : services.Agree templates rendered services') :
    services.Agree templates rendered' services' where
  config := agree.config
  nested template member := agree.nested template (fewer template member)

/-- A resolver that renders only some templates renders only more of them. -/
theorem Resolver.RendersOnly.mono
    {part : Part} {rendered rendered' : Template → Prop} {resolver : Resolver}
    (more : ∀ template, rendered template → rendered' template)
    (rendersOnly : resolver.RendersOnly templates part rendered) :
    resolver.RendersOnly templates part rendered' :=
  fun services services' agree =>
    rendersOnly services services' (agree.mono more)

namespace Resolver

/-- A resolver of values that does not look at the services. -/
theorem inStep_ofValue
    {priority : Int} {applies : Request → Bool} {answer : Request → Option Json}
    {part : Part} {services services' : Services}
    (applies_eq :
      ∀ base arguments topLevel,
        applies ⟨base, part, arguments, topLevel, services⟩ =
          applies ⟨base, part, arguments, topLevel, services'⟩)
    (answer_eq :
      ∀ base arguments topLevel,
        answer ⟨base, part, arguments, topLevel, services⟩ =
          answer ⟨base, part, arguments, topLevel, services'⟩) :
    (ofValue priority applies answer).InStep templates part services
      services' where
  applies := applies_eq
  resolves base arguments topLevel _ _ agree := by
    refine ⟨?_, agree⟩
    show Option.Rel _ ((answer _).map _) ((answer _).map _)
    rw [answer_eq base arguments topLevel]
    cases answer ⟨base, part, arguments, topLevel, services'⟩ with
    | none => exact .none
    | some value => exact .some (.value value)

/-- The built-in resolvers render nothing. -/
theorem rendersOnly_builtIn
    {resolver : Resolver} (builtIn : resolver ∈ BuiltIn.all) (part : Part) :
    resolver.RendersOnly templates part fun _ => False := by
  intro services services' _
  simp only [BuiltIn.all, List.mem_cons, List.not_mem_nil, or_false] at builtIn
  rcases builtIn with rfl | rfl | rfl | rfl <;>
    exact inStep_ofValue (fun _ _ _ => rfl) (fun _ _ _ => rfl)

end Resolver

end Phrasebook
