import Phrasebook.Bundle.Validation
import Phrasebook.Proofs.Comparison.Message
import Phrasebook.Proofs.Evaluation.Program
import Phrasebook.Proofs.Locale.Registration

/-!
# Calls for a locale

A call of a message for a locale is compared with a call without locale, of the
message that speaks the locale.  The data differ in the locale only, which no
template reads and no parameter hides.  So the bodies that two such calls select
have the same source, and a template calls in them, in any part and in arguments
too, what the other one calls.
-/

namespace Phrasebook

open Completion (InStep StartInStep ResultsAgree PartsAgree BothAgree)
open Comparison (ServicesAlike BodiesAlike)
open Nesting (Calls Acyclic Shallow)

/-- Some expression of the template looks a name up in the data of its
render. -/
def Template.Reads (key : String) (template : Template) : Prop :=
  ∃ expression ∈ template.allExpressions, expression.Reads key

/-- Data with a locale, beside the same data without one, neither with computed
bindings. -/
structure RenderData.WithLocale (locale : String) (data data' : RenderData) :
    Prop where
  uncomputed : data.computed = [] ∧ data'.computed = []
  spoken : data.get? localeKey = some (.string locale)
  unspoken : data'.get? localeKey = none
  others : ∀ key, key ≠ localeKey → data.get? key = data'.get? key

theorem Bindings.get?_setAll_of_not_mem
    {key : String} {values : List (String × Json)}
    (absent : key ∉ values.map Prod.fst) (bindings : Bindings) :
    (bindings.setAll values).data.get? key = bindings.data.get? key := by
  induction values generalizing bindings with
  | nil => rfl
  | cons value rest ih =>
      rcases List.ne_and_not_mem_of_not_mem_cons absent with ⟨different, later⟩
      exact (ih later _).trans (Dictionary.get?_insert_of_ne different _ _)

/-- The data of a call for a locale, and those of the call without locale. -/
theorem Message.withLocale_data
    {message message' : Message}
    (parameters : message.parameters = message'.parameters)
    (free : localeKey ∉ message.parameters) (locale : String)
    (arguments : List Json) :
    RenderData.WithLocale locale
      (Bindings.setAll (message.data (some locale) arguments) {}).data
      (Bindings.setAll (message'.data none arguments) {}).data := by
  have plain : message'.data none arguments =
      message.parameters.zip arguments := by
    rw [Message.data, parameters]
    exact List.append_nil _
  have spoken : Bindings.setAll (message.data (some locale) arguments) {} =
      (Bindings.setAll (message.parameters.zip arguments) {}).set localeKey
          (.string locale) := by
    rw [Message.data, Bindings.setAll, List.foldl_append]
    rfl
  rw [plain, spoken]
  constructor
  · exact ⟨Bindings.computed_setAll _ _, Bindings.computed_setAll _ _⟩
  · exact Dictionary.get?_insert_self _ _ _
  · apply Bindings.get?_setAll_of_not_mem
    intro member
    rcases List.mem_map.mp member with ⟨⟨name, value⟩, inside, rfl⟩
    exact free (List.of_mem_zip inside).1
  · exact fun key different => Dictionary.get?_insert_of_ne different _ _

/-- States with the templates of a catalog, and of the one that speaks a
locale. -/
def EngineState.Hold
    (templates templates' : Dictionary Template) (state state' : EngineState) :
    Prop :=
  state.registry.templates = templates ∧ state'.registry.templates = templates'

namespace Comparison

/-- The comparison of evaluations for a locale with those without one, in a
template under another id. -/
def withLocale
    (locale id : String) (templates templates' : Dictionary Template) :
    Comparison where
  ids _ := id
  data := RenderData.WithLocale locale
  states := EngineState.Hold templates templates'
  failures _ _ := True
  logged _ _ registered := registered
  failed _ _ := trivial

variable {locale id : String} {templates templates' : Dictionary Template}

theorem sceneLocale_withLocale
    {scene scene' : Scene}
    (alike : (withLocale locale id templates templates').Scenes scene scene') :
    Bundle.sceneLocale scene = some locale ∧ Bundle.sceneLocale scene' =
      none := by
  rw [Bundle.sceneLocale, Bundle.sceneLocale, alike.data.spoken,
    alike.data.unspoken]
  exact ⟨rfl, rfl⟩

end Comparison

namespace Catalog

/-- Calls of templates of the same source, one for a locale and one without. -/
inductive CallsBeside (locale : String) (called called' : Template → Prop) :
    Template → List (String × Json) → Template → List (String × Json) → Prop
  | intro {template template' : Template} (calls : called template)
      (calls' : called' template') (retold : template.Retold template')
      {message message' : Message}
      (parameters : message.parameters = message'.parameters)
      (free : localeKey ∉ message.parameters) (arguments : List Json) :
      CallsBeside locale called called' template
        (message.data (some locale) arguments)
        template' (message'.data none arguments)

/-- The templates that a template may call by the messages of a catalog. -/
abbrev calledBy (catalog : Catalog) (templates : Dictionary Template) :
    Template → Template → Prop :=
  Calls templates (catalog.callees fun _ _ _ => False)

/-- What an expression of a template calls, the retold expression of the retold
template may call. -/
theorem calledBy_of_retold
    {catalog' : Catalog} {templates' : Dictionary Template}
    {template template' : Template} (retold : template.Retold template')
    {top : Expression} (member : top ∈ template.expressions)
    {expression : Expression} (within : expression ∈ top.withArguments)
    {qualifier : String} (named : expression.qualifier = some qualifier)
    {part : Part} {rest : List Part} (split : expression.parts = part :: rest)
    {id' : String}
    (called' : catalog'.callees (fun _ _ _ => False) qualifier
      (part.rename fun _ => template'.id) id')
    {callee' : Template} (stands' : templates'.get? id' = some callee') :
    catalog'.calledBy templates' template' callee' := by
  refine ⟨top.rename fun _ => template'.id, ?_,
    expression.rename fun _ => template'.id, ?_, qualifier,
    part.rename fun _ => template'.id,
      Expression.renameParts (fun _ => template'.id) rest, id',
    expression.qualifier_rename.trans named, ?_, called', stands'⟩
  · rw [retold.expressions]
    exact List.mem_map_of_mem member
  · rw [Expression.withArguments_rename]
    exact List.mem_map_of_mem within
  · rw [Expression.parts_rename, split]
    rfl

/-- Services that render in step what two templates call. -/
abbrev ServicesBeside
    (locale : String) (templates templates' : Dictionary Template)
    (called called' : Template → Prop) :
    Services → Services → Prop :=
  ServicesAlike (EngineState.Hold templates templates') (fun _ _ => True)
    (CallsBeside locale called called')

namespace Speaks

variable {locale : String} {templates templates' : Dictionary Template}
  {catalog catalog' : Catalog}
  (speaks : catalog.Speaks locale templates templates' catalog')

include speaks

/-- The body that a message without locale calls has the source of one that it
calls for the locale. -/
theorem exists_callee
    {qualifier : String} {part part' : Part} (name : part'.name = part.name)
    {id' : String}
    (called' : catalog'.callees (fun _ _ _ => False) qualifier part' id')
    {callee' : Template} (stands' : templates'.get? id' = some callee') :
    ∃ id callee, catalog.callees (fun _ _ _ => False) qualifier part id ∧
      templates.get? id = some callee ∧ callee.Retold callee' := by
  rcases called' with
    ⟨bundle', inside', rfl, message', known', other, body'⟩ | impossible
  · rcases exists_left_of_mem speaks.bundles inside' with
      ⟨bundle, inside, beside⟩
    have found := beside.byMethod? part.name
    rw [← name, known', name] at found
    revert found
    cases known : bundle.byMethod? part.name with
    | none => nofun
    | some message =>
        rintro (spoke | _)
        have bodies := spoke.body
        rw [← spoke.body_eq_default other, body'] at bodies
        revert bodies
        cases body : message.body (some locale) with
        | constant text => nofun
        | template id =>
            rintro (_ | ⟨stands, beside', retold⟩)
            cases stands'.symm.trans beside'
            exact ⟨id, _,
              .inl ⟨bundle, inside, beside.name, message, known,
                some locale, body⟩,
              stands, retold⟩
  · exact impossible.elim

variable {template template' : Template} (retold : template.Retold template')

include retold

/-- What a template without locale calls has the source of one that the template
for the locale calls. -/
theorem exists_calledBy
    {callee' : Template}
    (calls' : catalog'.calledBy templates' template' callee') :
    ∃ callee, catalog.calledBy templates template callee ∧
      callee.Retold callee' := by
  rcases calls' with
    ⟨top', member', inner', within', qualifier, part', rest', id',
      named', split',
    called', stands'⟩
  rw [retold.expressions] at member'
  rcases List.mem_map.mp member' with ⟨top, member, rfl⟩
  rw [Expression.withArguments_rename] at within'
  rcases List.mem_map.mp within' with ⟨inner, within, rfl⟩
  rw [Expression.qualifier_rename] at named'
  rw [Expression.parts_rename] at split'
  cases split : inner.parts with
  | nil =>
      rw [split] at split'
      cases split'
  | cons part rest =>
      rw [split, Expression.renameParts, List.cons.injEq] at split'
      have name : part'.name = part.name := by
        rw [← split'.1]
        exact part.name_rename
      rcases speaks.exists_callee name called' stands' with
        ⟨id, callee, called, stands, same⟩
      exact ⟨callee,
        ⟨top, member, inner, within, qualifier, part, rest, id, named', split,
          called, stands⟩, same⟩

/-- Templates without locale are no deeper than those for the locale. -/
theorem shallow {bound : Nat}
    (shallow : Shallow templates (catalog.callees fun _ _ _ =>
      False) bound template) :
    Shallow templates' (catalog'.callees fun _ _ _ =>
      False) bound template' := by
  induction bound generalizing template template' with
  | zero =>
      intro callee' calls'
      rcases speaks.exists_calledBy retold calls' with ⟨callee, calls, -⟩
      exact shallow callee calls
  | succ bound ih =>
      intro callee' calls'
      rcases speaks.exists_calledBy retold calls' with ⟨callee, calls, same⟩
      exact ih same (shallow callee calls)

omit retold in
/-- Calls without locale are acyclic when those for the locale are. -/
theorem acyclic
    (acyclic : Acyclic templates (catalog.callees fun _ _ _ => False)) :
    Acyclic templates' (catalog'.callees fun _ _ _ => False) := by
  intro template' cycle
  -- A template on a cycle is called, so it is the body of a message.
  rcases Relation.TransGen.tail'_iff.mp cycle with
    ⟨_, -, top, -, inner, -, qualifier, part, rest, id', -, -, called', stands'⟩
  rcases speaks.exists_callee rfl called' stands' with
    ⟨id, template, -, -, retold⟩
  exact (speaks.shallow retold (acyclic.shallow template)).not_cyclic cycle

end Speaks

namespace Speaks

section Answers

variable {locale id : String} {templates templates' : Dictionary Template}
  {called called' : Template → Prop} {request request' : Request}
  (alike : ServicesBeside locale templates templates' called called'
    request.services request'.services)
  (arguments : request'.arguments = request.arguments) (unrestricted : Bool)
  (expression : Expression)
  {scene scene' : Scene}
  (scenes :
    (Comparison.withLocale locale id templates templates').Scenes scene scene')

include alike arguments scenes

/-- Messages that stand side by side answer calls in step, when what their
bodies render is called. -/
theorem answers_message
    {message message' : Message}
    (spoke :
      message.Speaks locale (Body.SameTemplate templates templates') message')
    (free : localeKey ∉ message.parameters)
    (calls : ∀ id callee, message.body (some locale) = .template id →
      templates.get? id = some callee → called callee)
    (calls' : ∀ id' callee', message'.default = .template id' →
      templates'.get? id' = some callee' → called' callee') :
    let comparison := Comparison.withLocale locale id templates templates'
    comparison.AnswersAlike unrestricted expression
        (Bundle.callMessage message request scene).1
          (Bundle.callMessage message' request' scene').1 ∧
      comparison.Scenes
        (Bundle.callMessage message request scene).2
            (Bundle.callMessage message' request' scene').2 := by
  have locales := Comparison.sceneLocale_withLocale scenes
  have services :
      ServicesAlike
        (Comparison.withLocale locale id templates templates').states
      (fun _ _ => True) (CallsBeside locale called called') request.services
          request'.services := alike
  apply Comparison.callMessage_alike unrestricted services (fun _ _ _ =>
    trivial) scenes
  rw [locales.1, locales.2, spoke.body_eq_default, arguments]
  have bodies := spoke.body
  revert bodies
  cases body : message.body (some locale) <;> cases body' : message'.default
  · rintro (_ | _)
    exact .constant _
  · nofun
  · nofun
  · rintro (_ | ⟨stands, stands', same⟩)
    apply BodiesAlike.template
    · rw [Registry.get_eq_ok, scenes.engine.1]
      exact stands
    · rw [Registry.get_eq_ok, scenes.engine.2]
      exact stands'
    · exact .intro (calls _ _ body stands) (calls' _ _ body' stands') same
        spoke.parameters free _

/-- Bundles that stand side by side answer in step: neither has the message, or
both refuse the number of arguments, or both call the message. -/
theorem answers_bundle
    (name : request'.part.name = request.part.name) {bundle bundle' : Bundle}
    (beside :
      bundle.Speaks locale (Body.SameTemplate templates templates') bundle')
    (free : ∀ message ∈ bundle.messages, localeKey ∉ message.parameters)
    (calls : ∀ id callee, bundle.callees request.part id →
      templates.get? id = some callee →
      called callee)
    (calls' : ∀ id' callee', bundle'.callees request'.part id' →
      templates'.get? id' = some callee' →
      called' callee') :
    let comparison := Comparison.withLocale locale id templates templates'
    Option.Rel (comparison.AnswersAlike unrestricted expression)
        (bundle.resolve request scene).1 (bundle'.resolve request' scene').1 ∧
      comparison.Scenes (bundle.resolve request scene).2
          (bundle'.resolve request' scene').2 := by
  have found :
      Option.Rel
        (Message.Speaks locale (Body.SameTemplate templates templates'))
      (bundle.byMethod? request.part.name)
      (bundle'.byMethod? request'.part.name) := by
    rw [name]
    exact beside.byMethod? request.part.name
  rw [Bundle.resolve, Bundle.resolve]
  revert found
  cases known : bundle.byMethod? request.part.name <;>
    cases known' : bundle'.byMethod? request'.part.name
  · exact fun _ => ⟨.none, scenes⟩
  · rintro ⟨⟩
  · rintro ⟨⟩
  · rintro (spoke | _)
    dsimp only
    rw [← spoke.parameters, arguments]
    split_ifs
    · exact ⟨.some (.ready (.error trivial)), scenes⟩
    · have answered :=
        answers_message alike arguments unrestricted expression scenes spoke
        (free _ (List.mem_of_find?_eq_some known))
        (fun id callee body => calls id callee ⟨_, known, some locale, body⟩)
        (fun id' callee' body' => calls' id' callee'
          ⟨_, known', none, (spoke.body_eq_default none).trans body'⟩)
      exact ⟨.some answered.1, answered.2⟩

end Answers

section Templates

variable {locale : String} {templates templates' : Dictionary Template}
  {catalog catalog' : Catalog}
  (speaks : catalog.Speaks locale templates templates' catalog')
  (free : ∀ bundle ∈ catalog.bundles, ∀ message ∈ bundle.messages,
    localeKey ∉ message.parameters)
  {template template' : Template} (retold : template.Retold template')
  {services services' : Services} {unrestricted : Bool}
  {expression : Expression}

include speaks

/-- The general resolvers are built in and render nothing. -/
theorem chainsAlike_general
    {id : String} (part : Part) (arguments : List Json) (base : Json)
    (topLevel : Bool) :
    (Comparison.withLocale locale id templates templates').ChainsAlike
      unrestricted expression
      ⟨base, part, arguments, topLevel, services⟩
      ⟨base, part.rename fun _ => id, arguments, topLevel, services'⟩
      catalog.engine.resolvers catalog'.engine.resolvers := by
  rw [← speaks.resolvers]
  exact Comparison.chainsAlike_builtIn speaks.builtIn arguments base topLevel
    services services'

variable {top : Expression} (member : top ∈ template.expressions)
  (within : expression ∈ top.withArguments)
  (alike : ServicesBeside locale templates templates'
    (catalog.calledBy templates template)
    (catalog'.calledBy templates' template') services services')

include free retold member within alike

/-- In a namespace the bundles answer that stand side by side, or no resolver on
either side. -/
theorem chainsAlike_named
    {qualifier : String} (named : expression.qualifier = some qualifier)
    {part : Part} {rest : List Part} (split : expression.parts = part :: rest)
    (arguments : List Json) :
    Option.Rel
      ((Comparison.withLocale locale template'.id templates
        templates').ChainsAlike unrestricted expression
        ⟨.null, part, arguments, true, services⟩
        ⟨.null, part.rename fun _ => template'.id, arguments, true, services'⟩)
      (catalog.engine.namespaces.get? qualifier)
      (catalog'.engine.namespaces.get? qualifier) := by
  have served := speaks.namespaces qualifier
  revert served
  generalize catalog.engine.namespaces.get? qualifier = chain
  generalize catalog'.engine.namespaces.get? qualifier = chain'
  rintro (⟨found, found', beside⟩ | _)
  · rcases mem_of_bundle? found with ⟨inside, rfl⟩
    rcases mem_of_bundle? found' with ⟨inside', name⟩
    refine .some (.cons ⟨rfl, fun scene scene' scenes => ?_⟩ .nil)
    apply answers_bundle alike _ _ _ scenes part.name_rename beside
      (free _ inside)
    · intro id callee called stands
      exact ⟨top, member, expression, within, _, part, rest, id, named, split,
        .inl ⟨_, inside, rfl, called⟩, stands⟩
    · intro id' callee' called' stands'
      exact calledBy_of_retold retold member within named
        split (.inl ⟨_, inside', name, called'⟩) stands'
    · rfl
  · exact .none

/-- The expressions of two templates of the same source are resolved alike. -/
theorem resolves
    (unread : ¬ template.Reads localeKey) (suppliers suppliers' : Suppliers) :
    (Comparison.withLocale locale template'.id templates
      templates').ResolvesUnlessLiteral
      ⟨catalog.engine, services, suppliers⟩ ⟨catalog'.engine, services',
        suppliers'⟩ [] expression := by
  intro literal
  constructor
  · intro part rest split
    cases named : expression.qualifier with
    | none =>
        apply Comparison.resolvesPart_root named speaks.config
        · intro property scene scene' scenes
          apply scenes.data.others
          intro same
          apply unread
          refine ⟨expression, List.mem_flatMap.mpr ⟨top, member, within⟩,
            literal, named, ?_⟩
          rw [split, List.head?_cons]
          cases part with
          | property name => exact congrArg (some ∘ Part.property) same
          | method name arguments => cases property
        · intro _ scene scene' scenes
          rw [RenderData.cell?, RenderData.cell?, scenes.data.uncomputed.1,
            scenes.data.uncomputed.2]
          exact .none
        · exact fun arguments _ =>
            speaks.chainsAlike_general part arguments .null true
    | some qualifier =>
        apply Comparison.resolvesPart_named named speaks.config
        exact fun arguments _ =>
          speaks.chainsAlike_named free retold member within alike named
            split arguments
  · intro part _ base
    apply Comparison.resolvesPart_later speaks.config
    exact fun arguments _ =>
      speaks.chainsAlike_general part arguments base false

end Templates

end Speaks

end Catalog

end Phrasebook
