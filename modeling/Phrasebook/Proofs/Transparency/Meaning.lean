import Phrasebook.Proofs.Sharing.Course
import Phrasebook.Proofs.Transparency.Lookup
import Phrasebook.Proofs.Transparency.Oracle

/-!
# The meaning of a render

An oracle and the data of a render give every expression and every node a
meaning, with no state and no order of evaluation: the value it has, or `none`
when it fails.  Whatever handles an evaluator that follows the oracle puts
around its answers, each evaluation makes only steps of its own places and ends
in this meaning.
-/

namespace Phrasebook

namespace Oracle

/-- What the first responder that has something says. -/
def ask (request : Request) : List Responder → Option Settled
  | [] => some .notFound
  | responder :: rest =>
    if responder.applies request then
      match responder.respond request with
      | none => ask request rest
      | some shape =>
        shape.toOption.bind fun settled =>
          if settled.isNotFound then ask request rest else some settled
    else ask request rest

variable (oracle : Oracle) (services : Services) (data : RenderData)

/-- The data of a render, with what the suppliers end in. -/
def setting : Setting where
  start := data
  supplied cell := (oracle.bound cell.supplier cell.key).toOption

/-- The value of a first part without namespace, from the innermost scope
outwards. -/
def lookup (part : Part) (arguments : List Json) :
    List (Dictionary Json) → Option Settled
  | [] =>
    let found := if part.isMethod then none else data.get? part.name
    let bound := if part.isMethod then none else data.cell? part.name
    match found, bound with
    | some value, _ => some (.value value)
    | none, some cell => (oracle.setting data).computed cell
    | none, none => ask ⟨.null, part, arguments, true, services⟩ oracle.general
  | bindings :: outer =>
    match if part.isMethod then none else bindings.get? part.name with
    | some value => some (.value value)
    | none =>
      (ask ⟨.object bindings, part, arguments, true,
          services⟩ oracle.general).bind fun settled =>
        if settled.isNotFound then lookup part arguments outer else some settled

/-- The value of a part against a base unless it is the first one. -/
def resolve
    (scopes : List (Dictionary Json)) (expression : Expression) (part : Part)
    (arguments : List Json) : Option Json → Option Settled
  | some base => ask ⟨base, part, arguments, false, services⟩ oracle.general
  | none =>
    match expression.qualifier with
    | none => oracle.lookup services data part arguments scopes
    | some qualifier =>
      (oracle.named.get? qualifier).bind
        (ask ⟨.null, part, arguments, true, services⟩)

mutual

def evaluate (scopes : List (Dictionary Json)) (expression : Expression) :
    Option Settled :=
  match expression with
  | .mk qualifier parts constant origin =>
    match (Expression.mk qualifier parts constant origin).literalValue? with
    | some value => some (.value value)
    | none => walk scopes (.mk qualifier parts constant origin) none parts

/-- The value of the remaining parts of an expression. -/
def walk (scopes : List (Dictionary Json)) (expression : Expression)
    (base : Option Json)
    (parts : List Part) : Option Settled :=
  match parts with
  | [] => some .notFound
  | part :: rest =>
    (Setting.gather (arguments scopes part)).bind fun values =>
      (oracle.resolve services data scopes expression part values base).bind
          fun settled =>
        if settled.isNotFound || rest.isEmpty then some settled
        else walk scopes expression (some settled.toValue) rest

def arguments (scopes : List (Dictionary Json)) (part : Part) :
    List (Option Json) :=
  match part with
  | .property _ => []
  | .method _ arguments => evaluateAll scopes arguments

def evaluateAll
    (scopes : List (Dictionary Json)) (expressions : List Expression) :
    List (Option Json) :=
  match expressions with
  | [] => []
  | expression :: rest =>
    (evaluate scopes expression).map Settled.toValue :: evaluateAll scopes rest

end

def node : TemplateNode → Option ResultNode
  | .text text => some (.constant text)
  | .placeholder expression =>
    (oracle.evaluate services data [] expression).bind fun settled =>
      some (settled.toNode expression)

/-- The text that mappers without state make of results. -/
def written (engine : Engine) (results : List ResultNode) : Option String :=
  (Mapper.writeAll engine.config engine.mappers "" results default).1.toOption

/-- The text of a template. -/
def text (engine : Engine) (template : Template) : Option String :=
  (Setting.gather (template.nodes.map (oracle.node services data))).bind
    (written engine)

end Oracle

namespace Evaluator

variable {evaluator : Evaluator} {oracle : Oracle} {setting : Setting}
  {scene : Scene}

/-- A chain means what the responders of its resolvers say, one after the
other. -/
theorem starts_ask
    {chain : Chain} {responders : List Responder}
    (follow :
      List.Forall₂ (Resolver.Follows evaluator.unrestricted) chain responders)
    (expression : Expression) (request : Request)
    (sound : setting.Sound scene) :
    setting.Starts (Oracle.ask request responders) ∅ scene
      (evaluator.ask expression request chain scene) := by
  induction follow generalizing scene with
  | nil => exact Setting.starts_ready sound rfl
  | @cons resolver responder chain responders follows rest ih =>
      rw [Evaluator.ask, Oracle.ask, follows.applies request]
      split_ifs with applies
      · have answers := follows.answers request scene
        have unchanged := follows.data request scene
        rcases resolved : resolver.resolve request scene with ⟨answer, after⟩
        rw [resolved] at answers unchanged
        generalize responder.respond request = said at answers ⊢
        have step :=
          Setting.Step.of_data sound unchanged (Scene.holds_empty scene)
        cases answers with
        | none => exact (ih step.sound).after sound step
        | @some answer shape delivers =>
            refine Setting.Starts.after sound step ?_
            refine (delivers.meets expression).andThen ?_ step.sound step.holds
            intro settled _ later sound
            dsimp only
            split_ifs
            · exact ih sound
            · exact Setting.starts_ready sound rfl
      · exact ih sound

section Expressions

variable {data : RenderData}

/-- The lookup through the scopes means what the oracle looks up. -/
theorem starts_lookupScopes
    (follows : evaluator.Follows oracle) (expression : Expression) (part : Part)
    (arguments : List Json) (scopes : List (Dictionary Json))
    (sound : (oracle.setting data).Sound scene) :
    (oracle.setting data).Starts
      (oracle.lookup evaluator.services data part arguments scopes) ∅
      scene
        (evaluator.lookupScopes expression part arguments scopes scene) := by
  induction scopes generalizing scene with
  | nil =>
      rw [Evaluator.lookupScopes, Oracle.lookup]
      have explicit : scene.data.get? part.name = data.get? part.name := by
        rw [RenderData.get?, sound.explicit]
        rfl
      have bound : scene.data.cell? part.name = data.cell? part.name := by
        rw [RenderData.cell?, sound.computed]
        rfl
      rw [explicit, bound]
      cases if part.isMethod then none else data.get? part.name with
      | some value => exact Setting.starts_ready sound rfl
      | none =>
          cases if part.isMethod then none else data.cell? part.name with
          | none => exact starts_ask follows.resolvers expression _ sound
          | some cell =>
              exact starts_lookupComputed (follows.suppliers cell.supplier) rfl
                expression sound
  | cons bindings outer ih =>
      rw [Evaluator.lookupScopes, Oracle.lookup]
      cases if part.isMethod then none else bindings.get? part.name with
      | some value => exact Setting.starts_ready sound rfl
      | none =>
          have asked := starts_ask follows.resolvers expression
            (evaluator.request part arguments (.object bindings) true) sound
          refine asked.andThen sound ?_
          intro settled _ later sound
          dsimp only
          split_ifs
          · exact ih sound
          · exact Setting.starts_ready sound rfl

/-- A part means what the oracle answers. -/
theorem starts_resolvePart
    (follows : evaluator.Follows oracle) (scopes : List (Dictionary Json))
    (expression : Expression) (part : Part) (arguments : List Json)
    (base : Option Json) (sound : (oracle.setting data).Sound scene) :
    (oracle.setting data).Starts
      (oracle.resolve evaluator.services data scopes expression part arguments
        base) ∅ scene
      (evaluator.resolvePart scopes expression part arguments base scene) := by
  cases base with
  | some base => exact starts_ask follows.resolvers expression _ sound
  | none =>
      simp only [Evaluator.resolvePart, Evaluator.resolveFirst, Oracle.resolve]
      cases expression.qualifier with
      | none =>
          exact starts_lookupScopes follows expression part arguments
            scopes sound
      | some qualifier =>
          have chains := follows.namespaces qualifier
          dsimp only
          generalize evaluator.engine.namespaces.get? qualifier = chain
            at chains ⊢
          generalize oracle.named.get? qualifier = responders at chains ⊢
          cases chains with
          | none => exact Setting.starts_ready sound rfl
          | some follow => exact starts_ask follow expression _ sound

mutual

/-- An expression ends in its meaning. -/
theorem starts_evaluate
    (follows : evaluator.Follows oracle)
    (scopes : List (Dictionary Json)) (expression : Expression)
    {scene : Scene} (sound : (oracle.setting data).Sound scene) :
    (oracle.setting data).Starts
      (oracle.evaluate evaluator.services data scopes expression) ∅ scene
      (evaluator.evaluate scopes expression scene) := by
  match expression with
  | .mk qualifier parts constant origin =>
      rw [Evaluator.evaluate, Oracle.evaluate]
      cases (Expression.mk qualifier parts constant origin).literalValue? with
      | some value => exact Setting.starts_ready sound rfl
      | none => exact starts_walk follows scopes _ none parts sound

/-- The parts of an expression mean what the oracle makes of them. -/
theorem starts_walk
    (follows : evaluator.Follows oracle) (scopes : List (Dictionary Json))
    (expression : Expression) (base : Option Json) (parts : List Part)
    {scene : Scene} (sound : (oracle.setting data).Sound scene) :
    (oracle.setting data).Starts
      (oracle.walk evaluator.services data scopes expression base parts) ∅
      scene (evaluator.evaluateParts scopes expression base parts scene) := by
  match parts with
  | [] =>
      rw [Evaluator.evaluateParts, Oracle.walk]
      exact Setting.starts_ready sound rfl
  | part :: rest =>
      rw [Evaluator.evaluateParts, Oracle.walk]
      have arguments := startsAll_arguments follows scopes part sound
      refine (arguments.all sound).andThen sound ?_
      intro values _ later sound
      have resolved :=
        starts_resolvePart follows scopes expression part values base sound
      refine resolved.andThen sound ?_
      intro settled _ last sound
      dsimp only
      split_ifs
      · exact Setting.starts_ready sound rfl
      · exact starts_walk follows scopes expression _ rest sound

theorem startsAll_arguments
    (follows : evaluator.Follows oracle) (scopes : List (Dictionary Json))
    (part : Part) {scene : Scene} (sound : (oracle.setting data).Sound scene) :
    (oracle.setting data).StartsAll
      (oracle.arguments evaluator.services data scopes part) scene
      (evaluator.startArguments scopes part scene) := by
  match part with
  | .property _ =>
      rw [Evaluator.startArguments, Oracle.arguments]
      exact Setting.startsAll_nil sound
  | .method _ arguments =>
      rw [Evaluator.startArguments, Oracle.arguments]
      exact startsAll_evaluate follows scopes arguments sound

theorem startsAll_evaluate
    (follows : evaluator.Follows oracle)
    (scopes : List (Dictionary Json)) (expressions : List Expression)
    {scene : Scene} (sound : (oracle.setting data).Sound scene) :
    (oracle.setting data).StartsAll
      (oracle.evaluateAll evaluator.services data scopes expressions)
      scene (evaluator.startAll scopes expressions scene) := by
  match expressions with
  | [] =>
      rw [Evaluator.startAll, Oracle.evaluateAll]
      exact Setting.startsAll_nil sound
  | expression :: rest =>
      rw [Evaluator.startAll, Oracle.evaluateAll]
      have first :=
        (starts_evaluate follows scopes expression sound).map Settled.toValue
      have others := startsAll_evaluate follows scopes rest first.sound
      exact Setting.startsAll_cons sound first others

end

theorem starts_node
    (follows : evaluator.Follows oracle) (node : TemplateNode)
    (sound : (oracle.setting data).Sound scene) :
    (oracle.setting data).Starts
      (oracle.node evaluator.services data node) ∅ scene
      (evaluator.startNode node scene) := by
  cases node with
  | text text => exact Setting.starts_ready sound rfl
  | placeholder expression =>
      rw [Evaluator.startNode, Oracle.node]
      have logged :=
        Setting.step_log (.resolveStarted expression) sound
          (Scene.holds_empty scene)
      have evaluated := starts_evaluate follows [] expression logged.sound
      refine (evaluated.andThen logged.sound ?_).after sound logged
      intro settled _ later sound
      exact ⟨∅, Setting.step_log _ sound (Scene.holds_empty later),
        Setting.meets_ready rfl⟩

theorem startsAll_nodes
    (follows : evaluator.Follows oracle) (nodes : List TemplateNode)
    (sound : (oracle.setting data).Sound scene) :
    (oracle.setting data).StartsAll
      (nodes.map (oracle.node evaluator.services data)) scene
      (evaluator.startNodes nodes scene) := by
  induction nodes generalizing scene with
  | nil => exact Setting.startsAll_nil sound
  | cons node rest ih =>
      have first := starts_node follows node sound
      exact Setting.startsAll_cons sound first (ih first.sound)

end Expressions

end Evaluator

namespace Mapper

/-- Mappers without a state map alike in every state of the engine. -/
theorem mapThrough_stateless
    (config : Config) {mappers : List Mapper}
    (stateless : ∀ mapper ∈ mappers, mapper.Stateless) (value : Option Json)
    (expression : Expression) (state state' : EngineState) :
    (mapThrough config mappers value expression state).1 =
      (mapThrough config mappers value expression state').1 := by
  induction mappers generalizing state state' with
  | nil => rfl
  | cons mapper rest ih =>
      have same :=
        stateless mapper List.mem_cons_self value expression state state'
      rw [mapThrough, mapThrough]
      generalize mapper.map value expression state = first at same ⊢
      generalize mapper.map value expression state' = second at same ⊢
      rcases first with ⟨mapped, after⟩
      rcases second with ⟨mapped', after'⟩
      obtain rfl : mapped = mapped' := same
      rcases mapped with cause | _ | text
      · rfl
      · exact ih (fun other member =>
          stateless other (List.mem_cons_of_mem _ member)) after after'
      · rfl

theorem nodeText_stateless
    (config : Config) {mappers : List Mapper}
    (stateless : ∀ mapper ∈ mappers, mapper.Stateless)
    (node : ResultNode) (state state' : EngineState) :
    (nodeText config mappers node state).1 =
      (nodeText config mappers node state').1 := by
  cases node with
  | constant text => rfl
  | single value expression =>
      exact mapThrough_stateless config stateless _ _ _ _

/-- The text that stateless mappers write does not depend on the state of the
engine. -/
theorem writeAll_stateless
    (config : Config) {mappers : List Mapper}
    (stateless : ∀ mapper ∈ mappers, mapper.Stateless)
    (written : String) (nodes : List ResultNode) (state state' : EngineState) :
    (writeAll config mappers written nodes state).1 =
      (writeAll config mappers written nodes state').1 := by
  induction nodes generalizing written state state' with
  | nil => rfl
  | cons node rest ih =>
      have same := nodeText_stateless config stateless node state state'
      rw [writeAll, writeAll]
      generalize nodeText config mappers node state = first at same ⊢
      generalize nodeText config mappers node state' = second at same ⊢
      rcases first with ⟨text, after⟩
      rcases second with ⟨text', after'⟩
      obtain rfl : text = text' := same
      rcases text with error | text
      · rfl
      · exact ih (written ++ text) after after'

end Mapper

namespace Evaluator

variable {evaluator : Evaluator} {oracle : Oracle} {setting : Setting}
  {scene : Scene}

theorem starts_write
    (follows : evaluator.Follows oracle) (results : List ResultNode)
    (sound : setting.Sound scene) :
    setting.Starts (Oracle.written evaluator.engine results) ∅ scene
      (evaluator.write results scene) := by
  have same :=
    Mapper.writeAll_stateless evaluator.engine.config follows.mappers "" results
      scene.engine default
  rw [Evaluator.write, Oracle.written, ← same]
  rcases Mapper.writeAll evaluator.engine.config evaluator.engine.mappers ""
    results scene.engine
    with ⟨text, engine⟩
  refine ⟨∅, .of_data sound rfl (Scene.holds_empty scene),
    Setting.meets_ready ?_⟩
  cases text <;> rfl

/-- A render ends in the text of its template. -/
theorem starts_renderTemplate
    {data : RenderData} (follows : evaluator.Follows oracle)
    (template : Template) (sound : (oracle.setting data).Sound scene) :
    (oracle.setting data).Starts
      (oracle.text evaluator.services data evaluator.engine template) ∅ scene
      (evaluator.renderTemplate template scene) := by
  rw [Evaluator.renderTemplate, Oracle.text]
  have logged :=
    Setting.step_log (.renderingTemplate template.id) sound
      (Scene.holds_empty scene)
  have nodes :=
    (startsAll_nodes follows template.nodes logged.sound).all logged.sound
  refine (nodes.andThen logged.sound ?_).after sound logged
  intro results _ later sound
  exact starts_write follows results sound

end Evaluator

end Phrasebook
