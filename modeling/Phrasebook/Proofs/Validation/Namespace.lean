import Phrasebook.Proofs.Completion.Drive
import Phrasebook.Proofs.Message.Call
import Phrasebook.Proofs.Validation.Confinement

/-!
# Checked uses of namespaces

A catalog complains about an expression in the namespace of a bundle when the
bundle has no message with the method, or when the method is called with another
number of arguments than it has parameters.  These are the calls that the
resolver of the bundle refuses at render time.

Where there is no complaint about a registered template, no render of one ever
makes such a call: what the resolvers of bundles would answer to it may be
changed at will without changing anything that can be observed.  Conversely,
whenever the arguments of an expression that is complained about settle to
values, the expression ends in not-found or in the failure that the complaint
describes.
-/

namespace Phrasebook

open Completion (InStep StartInStep ResultsAgree driven driveOn)

/-- Whether a complaint is about the use of a namespace. -/
def Complaint.AboutNamespace : Complaint → Prop
  | .notParameter _ _ _ => False
  | .unknownMessage _ _ => True
  | .argumentCount _ _ _ _ => True

/-- What an expression ends in that is complained about: an unknown message is
not found, and a wrong number of arguments is a failure with the text of the
complaint. -/
def Complaint.outcome (expression : Expression) :
    Complaint → Except EngineError Settled
  | .argumentCount bundle method expected actual =>
    .error (.render (.of
      (.resolverFailure
        (.message (Complaint.argumentCount bundle method expected actual).text))
        expression))
  | _ => .ok .notFound

/-- Something else to do with the calls that bundles refuse. -/
abbrev Instead := Bundle → Request → Scene → Option (Resolved Scene) × Scene

/-- The resolver of a bundle with something else to do with the calls that it
refuses. -/
def Bundle.watched (instead : Instead) (bundle : Bundle) :
    NamespaceResolver where
  qualifier := bundle.name
  resolver :=
    { resolve := fun request scene =>
        if bundle.accepts request then bundle.resolve request scene else instead
          bundle request scene }

/-- The engine of a catalog, with watched resolvers for its bundles. -/
def Catalog.watchedEngine
    (catalog : Catalog) (engine : Engine) (instead : Instead) : Engine :=
  (catalog.bundles.map (Bundle.watched instead)).foldl
    Engine.addNamespace engine

namespace Evaluator

variable (evaluator : Evaluator) (scopes : List (Dictionary Json))
  {expression : Expression} {part : Part}
  {outcome : Except EngineError Settled}

/-- The arguments of a part, started and joined. -/
def joinArguments (part : Part) (scene : Scene) :
    Evaluation Scene (List Json) × Scene :=
  let started := evaluator.startArguments scopes part scene
  Completion.all started.1 started.2

/-- An expression goes the way of the arguments of a part, its first one, and
ends in an outcome as soon as they have settled to values. -/
structure EndsIn
    (expression : Expression) (part : Part)
    (outcome : Except EngineError Settled) : Prop where
  inStep : ∀ scene,
    StartInStep Eq (ResultsAgree Eq Eq)
      (evaluator.evaluate scopes expression scene)
      ((evaluator.joinArguments scopes part scene).1.andThen
        (fun _ scene => (.ready outcome, scene))
        (evaluator.joinArguments scopes part scene).2)
  ends : ∀ scene values after,
    driven (evaluator.joinArguments scopes part scene) =
      (some (.ok values), after) →
      driven (evaluator.evaluate scopes expression scene) =
        (some outcome, after)

variable {evaluator scopes}

/-- An expression whose first part is resolved to an outcome, a failure or
not-found, whatever values its arguments have. -/
theorem endsIn_of_resolvePart
    (literal : expression.literalValue? = none) {rest : List Part}
    (split : expression.parts = part :: rest)
    (found : ∀ settled, outcome = .ok settled → settled.isNotFound = true)
    (resolved : ∀ values scene, values.length = part.arguments.length →
      evaluator.resolvePart scopes expression part values none scene =
        (.ready outcome, scene)) :
    evaluator.EndsIn scopes expression part outcome := by
  have inStep : ∀ scene,
      StartInStep Eq (ResultsAgree Eq Eq)
        (evaluator.evaluate scopes expression scene)
        ((evaluator.joinArguments scopes part scene).1.andThen
          (fun _ scene => (.ready outcome, scene))
          (evaluator.joinArguments scopes part scene).2) := by
    intro scene
    have joined :
        StartInStep Eq
          (ResultsAgree Eq (Completion.Joined Eq part.arguments.length))
        (evaluator.joinArguments scopes part scene)
        (evaluator.joinArguments scopes part scene) := by
      rw [← Comparison.length_startArguments part scene]
      apply Completion.all_inStep _ rfl
      exact List.forall₂_same.mpr fun completion _ =>
        .refl (fun result => Comparison.resultsAgree_eq.mpr rfl) completion
    rcases expression with ⟨qualifier, parts, constant, origin⟩
    cases split
    rw [evaluate, literal]
    dsimp only
    rw [evaluateParts]
    apply joined.andThen
    rintro values _ ⟨-, counted⟩ state _ rfl
    dsimp only
    rw [resolved values state counted]
    cases outcome with
    | error error =>
        rw [Completion.andThen_ready_error]
        exact ⟨.ready (.error rfl), rfl⟩
    | ok settled =>
        rw [Completion.andThen_ready_ok, found settled rfl]
        exact ⟨.ready (.ok rfl), rfl⟩
  refine ⟨inStep, fun scene values after settled => ?_⟩
  have started := inStep scene
  have ended := started.completions.drive started.states
  rw [driven, Prod.ext (Comparison.rel_resultsAgree_eq.mp ended.1) ended.2,
    ← driven, Completion.driven_andThen]
  rw [driven] at settled
  rw [settled, driveOn, driven, Completion.drive_ready]

end Evaluator

namespace Catalog

section Diagnostics

variable {catalog : Catalog} {expression : Expression} {complaint : Complaint}

/-- What is complained about: an expression in the namespace of a bundle, whose
first part the bundle does not accept. -/
theorem namespaceComplaint?_eq_some
    (complained : catalog.namespaceComplaint? expression = some complaint) :
    ∃ bundle part rest, expression.qualifier = some bundle.name ∧
      catalog.bundle? bundle.name = some bundle ∧
        expression.parts = part :: rest ∧
      (bundle.byMethod? part.name = none ∧
        complaint = .unknownMessage bundle.name part.name ∨
        ∃ message, bundle.byMethod? part.name = some message ∧
          part.arguments.length ≠ message.parameters.length ∧
          complaint =
            .argumentCount bundle.name message.method message.parameters.length
            part.arguments.length) := by
  rcases Option.bind_eq_some_iff.mp complained with
    ⟨qualifier, qualified, complained⟩
  rcases Option.bind_eq_some_iff.mp complained with ⟨bundle, found, complained⟩
  rcases Option.bind_eq_some_iff.mp complained with ⟨part, first, complained⟩
  rcases List.head?_eq_some_iff.mp first with ⟨rest, split⟩
  rcases mem_of_bundle? found with ⟨-, rfl⟩
  refine ⟨bundle, part, rest, qualified, found, split, ?_⟩
  cases known : bundle.byMethod? part.name with
  | none =>
      rw [known] at complained
      exact .inl ⟨rfl, (Option.some.inj complained).symm⟩
  | some message =>
      rw [known] at complained
      dsimp only at complained
      split at complained
      · cases complained
      · rename_i different
        exact .inr ⟨message, rfl, different, (Option.some.inj complained).symm⟩

/-- Without a complaint, a bundle has a message for the first part of an
expression in its namespace, with the right number of parameters. -/
theorem exists_message_of_no_complaint
    (accepted : catalog.namespaceComplaint? expression = none)
    {bundle : Bundle} (qualified : expression.qualifier = some bundle.name)
    (found : catalog.bundle? bundle.name = some bundle)
    {part : Part} {rest : List Part} (split : expression.parts = part :: rest) :
    ∃ message, bundle.byMethod? part.name = some message ∧
      part.arguments.length = message.parameters.length := by
  simp only [namespaceComplaint?, qualified, found, split, Option.bind_eq_bind,
    Option.bind_some, List.head?_cons] at accepted
  cases known : bundle.byMethod? part.name with
  | none => simp [known] at accepted
  | some message =>
      simp only [known, ite_eq_left_iff, reduceCtorEq, imp_false, not_not]
        at accepted
      exact ⟨message, rfl, accepted⟩

theorem aboutNamespace_of_complaint
    (complained : catalog.namespaceComplaint? expression = some complaint) :
    complaint.AboutNamespace := by
  rcases namespaceComplaint?_eq_some complained with
    ⟨_, _, _, -, -, -, ⟨-, rfl⟩ | ⟨_, -, -, rfl⟩⟩ <;>
    trivial

/-- The diagnostics about namespaces are those of the expressions of registered
templates with a complaint. -/
theorem mem_validate_iff {state : EngineState} {diagnostic : Diagnostic} :
    diagnostic ∈ (catalog.validate state).1 ∧
      diagnostic.complaint.AboutNamespace ↔
      ∃ template : Template, template.Registered state.registry.templates ∧
        ∃ expression ∈ template.allExpressions, ∃ complaint,
          catalog.namespaceComplaint? expression = some complaint ∧
            diagnostic = .of expression complaint := by
  constructor
  · rintro ⟨member, about⟩
    rcases List.mem_append.mp member with inParameters | inNamespaces
    · rcases List.mem_flatMap.mp inParameters with
        ⟨⟨bundle, message, _, template⟩, -, inside⟩
      rcases List.mem_filterMap.mp inside with ⟨expression, -, made⟩
      split at made
      · split at made
        · cases made
        · cases made
          exact about.elim
      · cases made
    · rcases List.mem_flatMap.mp inNamespaces with
        ⟨⟨id, template⟩, registered, inside⟩
      rcases List.mem_filterMap.mp inside with ⟨expression, among, made⟩
      rcases Option.map_eq_some_iff.mp made with ⟨complaint, complained, rfl⟩
      exact ⟨template, List.mem_map_of_mem registered, expression, among,
        complaint, complained, rfl⟩
  · rintro ⟨template, registered, expression, among, complaint, complained, rfl⟩
    refine ⟨List.mem_append_right _ ?_, aboutNamespace_of_complaint complained⟩
    rcases List.mem_map.mp registered with ⟨entry, inside, rfl⟩
    apply List.mem_flatMap.mpr
    exact ⟨entry, inside,
      List.mem_filterMap.mpr ⟨expression, among, by rw [complained]; rfl⟩⟩

end Diagnostics

section Soundness

variable {definitions : List BundleDefinition}
  {sources : List (String × String)} {engine : Engine}
  {before after : EngineState} {catalog : Catalog}
  (distinct : ∀ definition ∈ definitions,
    (definition.messages.map Prod.fst).Nodup)
  (built : build definitions sources engine before = (.ok catalog, after))
  (apart : ∀ bundle ∈ catalog.bundles, engine.served bundle.name = [])

include built distinct in
theorem names_nodup : (catalog.bundles.map Bundle.name).Nodup := by
  rcases build_ok built with ⟨assembly, accepted, rfl, -⟩
  exact (Assembly.assembled_ofDefinitions distinct accepted).names

theorem watchedEngine_eq (instead : Instead) :
    catalog.watchedEngine engine instead =
      { engine with
        namespaces := (catalog.watchedEngine engine instead).namespaces } :=
  Engine.addNamespaces_eq _ _

include built distinct apart in
theorem namespaces_watched
    {bundle : Bundle} (member : bundle ∈ catalog.bundles) (instead : Instead) :
    (catalog.watchedEngine engine instead).namespaces.get? bundle.name =
      some [(bundle.watched instead).resolver] := by
  have qualifiers :
      ((catalog.bundles.map (Bundle.watched instead)).map
          NamespaceResolver.qualifier).Nodup := by
    rw [List.map_map]
    exact names_nodup distinct built
  exact Engine.get?_addNamespaces_of_mem qualifiers
    (List.mem_map_of_mem member) engine
    (apart bundle member)

include built distinct apart

/-- Where nothing is complained about, watched resolvers answer what the
resolvers of the bundles do. -/
theorem headsAlike_watched
    {templates : Dictionary Template} (confined : engine.Confined templates)
    (silent : ∀ template : Template, template.Registered templates →
      ∀ expression ∈ template.allExpressions,
        catalog.namespaceComplaint? expression = none)
    (instead : Instead) :
    Engine.HeadsAlike templates catalog.engine.namespaces
      (catalog.watchedEngine engine instead).namespaces := by
  intro template registered expression member qualifier part rest qualified
    split services services'
    alike unrestricted arguments counted
  cases found : catalog.bundle? qualifier with
  | none =>
      have same :
          (catalog.watchedEngine engine instead).namespaces.get? qualifier =
          engine.namespaces.get? qualifier :=
        Engine.get?_addNamespaces_of_ne _ engine
          (List.forall_mem_map.mpr (ne_of_bundle?_eq_none found))
      rw [namespaces_of_no_bundle built found, same]
      cases chains : engine.namespaces.get? qualifier with
      | none => exact .none
      | some chain =>
          refine .some (List.forall₂_same.mpr fun resolver among => ?_)
          exact confined.namespaces qualifier chain chains resolver among _ _
            alike _ _ _ _ _ _
  | some bundle =>
      rcases mem_of_bundle? found with ⟨inside, rfl⟩
      rcases exists_message_of_no_complaint
          (silent template registered expression member) qualified
          found split with ⟨message, named, parameters⟩
      have accepted : bundle.accepts ⟨.null, part, arguments, true, services'⟩ =
          true :=
        Bundle.accepts_iff.mpr ⟨message, named, counted.trans parameters⟩
      rw [namespaces_of_mem built distinct inside (apart bundle inside),
        namespaces_watched distinct built apart inside]
      refine .some (.cons ⟨rfl, fun scene scene' scenes => ?_⟩ .nil)
      have watched : (bundle.watched instead).resolver.resolve
            ⟨.null, part, arguments, true, services'⟩ scene' =
          bundle.resolve ⟨.null, part, arguments, true, services'⟩ scene' :=
        if_pos accepted
      rw [watched]
      exact Bundle.answers_registered named (counted.trans parameters)
        alike scenes

omit built distinct apart in
/-- Where no diagnostic is about a namespace, no expression of a registered
template has a complaint. -/
theorem namespaceComplaint?_eq_none
    {state : EngineState}
    (silent : ∀ diagnostic ∈ (catalog.validate state).1,
      ¬ diagnostic.complaint.AboutNamespace)
    {template : Template}
    (registered : template.Registered state.registry.templates)
    {expression : Expression} (member : expression ∈ template.allExpressions) :
    catalog.namespaceComplaint? expression = none := by
  cases complained : catalog.namespaceComplaint? expression with
  | none => rfl
  | some complaint =>
      have reported := mem_validate_iff.mpr
        ⟨template, registered, expression, member, complaint, complained, rfl⟩
      exact (silent _ reported.1 reported.2).elim

/-- What the chain of a bundle says to a call that the bundle refuses. -/
theorem endsIn_of_complaint
    {expression : Expression} {complaint : Complaint}
    (complained : catalog.namespaceComplaint? expression = some complaint)
    {evaluator : Evaluator} (runs : evaluator.engine = catalog.engine)
    (scopes : List (Dictionary Json)) :
    ∃ part rest, expression.parts = part :: rest ∧
      evaluator.EndsIn scopes expression part
        (complaint.outcome expression) := by
  rcases namespaceComplaint?_eq_some complained with
    ⟨bundle, part, rest, qualified, found, split, refused⟩
  have inside := (mem_of_bundle? found).1
  have chain : evaluator.engine.namespaces.get? bundle.name =
      some [bundle.namespaceResolver.resolver] := by
    rw [runs]
    exact namespaces_of_mem built distinct inside (apart bundle inside)
  have literal : expression.literalValue? = none := by
    rcases expression with ⟨_ | _, _, _, _⟩
    · cases qualified
    · rfl
  refine ⟨part, rest, split,
    Evaluator.endsIn_of_resolvePart literal split ?_ ?_⟩
  · rintro settled ends
    rcases refused with ⟨-, rfl⟩ | ⟨message, -, -, rfl⟩
    · cases ends
      rfl
    · cases ends
  · intro values scene counted
    rw [Evaluator.resolvePart, Evaluator.resolveFirst, qualified]
    dsimp only
    rw [chain]
    dsimp only
    have answered : ∀ request : Request, bundle.accepts request = false →
        bundle.namespaceResolver.resolver.resolve request scene =
            (bundle.refusal? request, scene) :=
      fun request refused => Bundle.resolve_of_not_accepts refused scene
    rw [Evaluator.ask, if_pos (by rfl)]
    rcases refused with ⟨unknown, rfl⟩ | ⟨message, known, different, rfl⟩
    · rw [answered _ (by simp [Bundle.accepts, Evaluator.request, unknown])]
      simp [Bundle.refusal?, Evaluator.request, unknown, Evaluator.ask,
        Complaint.outcome]
    · rw [← counted] at different
      rw [answered _
        (by simp [Bundle.accepts, Evaluator.request, known, different])]
      simp only [Bundle.refusal?, Evaluator.request, known, Option.map_some,
        Resolved.flatten,
        Completion.andThen_ready_error, Bundle.countFailure, counted]
      rfl

/--
Complaints about namespaces match what happens at render time, as long as the
registered templates stay as they were when they were checked.  Without a
complaint, no render of a registered template ever makes a call that the
resolver of a bundle declines or fails for the number of arguments: whatever
else is done with such calls, every render takes the same steps to the same
result.  The complaints are those about the expressions of the registered
templates, argument expressions included, and each such expression ends in
not-found, or in the failure of the complaint, once its arguments have settled.
-/
theorem namespaces_checked (state : EngineState) :
    (engine.Confined state.registry.templates →
      (∀ diagnostic ∈ (catalog.validate state).1,
        ¬ diagnostic.complaint.AboutNamespace) →
        ∀ instead : Instead,
          InStep (Engine.SameWhole state.registry.templates) Eq
            catalog.engine.render
              (catalog.watchedEngine engine instead).render) ∧
    (∀ diagnostic : Diagnostic,
      diagnostic ∈ (catalog.validate state).1 ∧
        diagnostic.complaint.AboutNamespace ↔
        ∃ template : Template, template.Registered state.registry.templates ∧
          ∃ expression ∈ template.allExpressions, ∃ complaint,
            catalog.namespaceComplaint? expression = some complaint ∧
              diagnostic = .of expression complaint) ∧
    ∀ expression complaint, catalog.namespaceComplaint? expression =
      some complaint →
      ∀ evaluator : Evaluator, evaluator.engine = catalog.engine → ∀ scopes,
        ∃ part rest, expression.parts = part :: rest ∧
          evaluator.EndsIn scopes expression part
            (complaint.outcome expression) := by
  refine ⟨?_, fun diagnostic => mem_validate_iff, ?_⟩
  · intro confined silent instead
    have heads :
        Engine.HeadsAlike state.registry.templates catalog.engine.namespaces
        (catalog.watchedEngine engine instead).namespaces := by
      apply headsAlike_watched distinct built apart confined _ instead
      exact fun _ registered _ member =>
        namespaceComplaint?_eq_none silent registered member
    rw [watchedEngine_eq, engine_eq built]
    apply (confined.render heads).mono
    exact fun _ _ agree => Comparison.resultsAgree_eq.mp agree
  · intro expression complaint complained evaluator runs scopes
    exact endsIn_of_complaint distinct built apart complained runs scopes

omit distinct built apart in
/-- The call of a message, and one of a message that does not exist. -/
theorem welcome_checked :
    (∀ instead : Instead,
      InStep (Engine.SameWhole welcomeState.registry.templates) Eq
        welcomeCatalog.engine.render
        (welcomeCatalog.watchedEngine (.build [] [] [] [] {}) instead).render) ∧
    ∀ evaluator : Evaluator, evaluator.engine = welcomeCatalog.engine →
      ∀ scopes,
      ∃ part rest,
        (Expression.path (some "shop") [.method "leave" []] ⟨"page", 1⟩).parts =
          part :: rest ∧
        evaluator.EndsIn scopes
          (.path (some "shop") [.method "leave" []] ⟨"page", 1⟩) part
          (.ok .notFound) := by
  have checked := namespaces_checked (by decide) build_welcome
    (List.forall_mem_singleton.mpr (by rfl)) welcomeState
  have silent : (welcomeCatalog.validate welcomeState).1 = [] := by
    decide
  constructor
  · apply checked.1 (Engine.confined_builtIn (List.forall_mem_nil _) {})
    rw [silent]
    exact List.forall_mem_nil _
  · exact checked.2.2 _ (.unknownMessage "shop" "leave") (by rfl)

end Soundness

end Catalog

end Phrasebook
