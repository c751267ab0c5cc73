import Phrasebook.Proofs.Locale.Call
import Phrasebook.Proofs.Message.Call

/-!
# A locale reaches every message

Templates of the same source, one rendered for a locale and one without, are
rendered in step as long as the services render in step what the two call.  The
locale is in the data of every nested render, since each call of a message hands
it on; so, by induction on how deep calls lead, the services of the two catalogs
do render alike.  Where calls are acyclic neither side runs out of depth, and a
message for the locale ends in the text that it ends in without locale, in the
catalog that speaks the locale.
-/

namespace Phrasebook

open Completion (InStep StartInStep ResultsAgree PartsAgree BothAgree)
open Nesting (Acyclic Shallow)

/-- Instances of two templates, one with data for a locale and one without. -/
structure Instance.Beside
    (locale : String) (template template' : Template)
    (target target' : Instance) : Prop where
  templates : target.template = template ∧ target'.template = template'
  data : RenderData.WithLocale locale target.bindings.data target'.bindings.data

section Instances

variable {locale : String} {template template' : Template}
  {templates templates' : Dictionary Template}

/-- New instances for two calls of messages with the same parameters. -/
theorem Instance.beside_new
    {message message' : Message}
    (parameters : message.parameters = message'.parameters)
    (free : localeKey ∉ message.parameters) (arguments : List Json) :
    Instance.Beside locale template template'
      (({ template } : Instance).updateBindings
        (Bindings.setAll (message.data (some locale) arguments)))
      (({ template := template' } : Instance).updateBindings
        (Bindings.setAll (message'.data none arguments))) where
  templates := ⟨rfl, rfl⟩
  data := Message.withLocale_data parameters free locale arguments

/-- Two such instances, in states with the templates of the two catalogs. -/
abbrev Engine.WholesBeside
    (locale : String) (template template' : Template)
    (templates templates' : Dictionary Template) :
    Instance × EngineState → Instance × EngineState → Prop :=
  BothAgree (Instance.Beside locale template template')
    (EngineState.Hold templates templates')

theorem Engine.partsAgree_wholesBeside :
    PartsAgree sceneOf withScene
      (WholesBeside locale template template' templates templates')
      (Comparison.withLocale locale template'.id templates
        templates').Scenes where
  parts _ _ related := ⟨related.1.data, related.2⟩
  updates _ _ _ _ scenes related :=
    ⟨⟨related.1.templates, scenes.data⟩, scenes.engine⟩

theorem Engine.wholesBeside_fire
    {whole whole' : Instance × EngineState}
    (related : WholesBeside locale template template' templates templates' whole
      whole') :
    WholesBeside locale template template' templates templates'
      (whole.1.fire whole.2) (whole'.1.fire whole'.2) := by
  refine ⟨⟨related.1.templates, related.1.data⟩, ?_⟩
  rw [EngineState.Hold, Instance.registry_fire, Instance.registry_fire]
  exact related.2

end Instances

namespace Catalog.Speaks

variable {locale : String} {templates templates' : Dictionary Template}
  {catalog catalog' : Catalog}
  (speaks : catalog.Speaks locale templates templates' catalog')
  (free : ∀ bundle ∈ catalog.bundles, ∀ message ∈ bundle.messages,
    localeKey ∉ message.parameters)
  {template template' : Template} (retold : template.Retold template')

include speaks free retold

/-- Templates of the same source are rendered in step when the services render
what they call. -/
theorem renderInstance
    (unread : ¬ template.Reads localeKey) {services services' : Services}
    (alike : ServicesBeside locale templates templates'
      (catalog.calledBy templates template)
      (catalog'.calledBy templates' template') services services')
    {whole whole' : Instance × EngineState}
    (related : Engine.WholesBeside locale template template' templates
      templates' whole whole') :
    StartInStep
      (Engine.WholesBeside locale template template' templates templates')
      (ResultsAgree (fun _ _ => True) Eq)
      (catalog.engine.renderInstance services whole)
      (catalog'.engine.renderInstance services' whole') := by
  have scenes := Engine.partsAgree_wholesBeside.parts _ _ related
  apply Comparison.renderInstance_alike Engine.partsAgree_wholesBeside
    (fun _ _ => Engine.wholesBeside_fire) related
  rw [related.1.templates.1, related.1.templates.2]
  apply Comparison.renderTemplate_alike _ _ _ scenes
  · constructor
    · exact speaks.config
    · exact speaks.unmapped.2.trans speaks.unmapped.1.symm
    · dsimp only
      rw [speaks.unmapped.1]
      exact List.forall_mem_nil _
  · exact ⟨rfl, retold⟩
  · exact fun expression member inner within =>
      speaks.resolves free retold member within alike unread _ _

omit free retold in
theorem wholesBeside_prepared
    {message message' : Message}
    (parameters : message.parameters = message'.parameters)
    (hidden : localeKey ∉ message.parameters) (arguments : List Json)
    {state state' : EngineState}
    (states : EngineState.Hold templates templates' state state') :
    Engine.WholesBeside locale template template' templates templates'
      (catalog.engine.prepared template
        (message.data (some locale) arguments) state)
      (catalog'.engine.prepared template' (message'.data none arguments)
        state') := by
  rw [Engine.prepared, Engine.prepared, Engine.instantiate, Engine.instantiate,
    speaks.uninitialized.1, speaks.uninitialized.2]
  exact ⟨Instance.beside_new parameters hidden arguments, states⟩

/-- What two such templates render nested is in step, for calls of messages with
the same parameters. -/
theorem renderNested
    (unread : ¬ template.Reads localeKey) {services services' : Services}
    (alike : ServicesBeside locale templates templates'
      (catalog.calledBy templates template)
      (catalog'.calledBy templates' template') services services')
    {message message' : Message}
    (parameters : message.parameters = message'.parameters)
    (hidden : localeKey ∉ message.parameters) (arguments : List Json)
    {state state' : EngineState}
    (states : EngineState.Hold templates templates' state state') :
    StartInStep (EngineState.Hold templates templates')
      (ResultsAgree (fun _ _ => True) Eq)
      (catalog.engine.renderNested services template
        (message.data (some locale) arguments) state)
      (catalog'.engine.renderNested services' template'
        (message'.data none arguments) state') := by
  let comparison :=
    Comparison.withLocale locale template'.id templates templates'
  have rendered : ∀ whole whole',
      BothAgree (Instance.Beside locale template template') comparison.states
        whole whole' →
        StartInStep
          (BothAgree (Instance.Beside locale template template')
            comparison.states)
          (ResultsAgree comparison.failures Eq)
          (catalog.engine.renderInstance services whole)
          (catalog'.engine.renderInstance services' whole') :=
    fun _ _ related => speaks.renderInstance free retold unread alike related
  exact Comparison.renderNested_alike rendered
    (speaks.wholesBeside_prepared parameters hidden arguments states)

variable
  (unread : ∀ template : Template, template.Registered templates →
    ¬ template.Reads localeKey)

include unread

/-- At depths that calls do not go beyond, the services render in step what the
templates call. -/
theorem servicesBeside
    {bound bound' : Nat}
    (shallow : Shallow templates (catalog.callees fun _ _ _ =>
      False) bound template)
    (shallow' : Shallow templates' (catalog'.callees fun _ _ _ =>
      False) bound' template')
    {depth depth' : Nat} (deep : bound ≤ depth) (deep' : bound' ≤ depth') :
    ServicesBeside locale templates templates'
      (catalog.calledBy templates template)
      (catalog'.calledBy templates' template') (catalog.engine.services depth)
      (catalog'.engine.services depth') := by
  have config (depth depth' : Nat) :
      (catalog.engine.services depth).config =
          (catalog'.engine.services depth').config := by
    rw [Engine.config_services, Engine.config_services, speaks.config]
  induction bound generalizing template template' bound' depth depth' with
  | zero =>
      refine ⟨config _ _, ?_⟩
      rintro _ _ _ _ ⟨calls, -, -, -, -, -⟩
      exact (shallow _ calls).elim
  | succ bound ih =>
      refine ⟨config _ _, ?_⟩
      rintro callee _ callee' _ ⟨calls, calls', same, parameters, hidden,
        arguments⟩ state state' states
      -- The two bounds differ, but a callee takes one level off either.
      cases bound' with
      | zero => exact (shallow' _ calls').elim
      | succ bound' =>
          rcases Nat.exists_eq_add_of_le' deep with ⟨extra, rfl⟩
          rcases Nat.exists_eq_add_of_le' deep' with ⟨extra', rfl⟩
          have inner := ih same (shallow callee calls) (shallow' callee' calls')
            (Nat.le_add_left bound extra) (Nat.le_add_left bound' extra')
          exact speaks.renderNested free same (unread callee calls.mem) inner
            parameters hidden arguments
            states

variable (acyclic : Acyclic templates (catalog.callees fun _ _ _ => False))

include acyclic

/-- Where calls are acyclic, templates of the same source are rendered in
step. -/
theorem render (registered : template.Registered templates) :
    InStep (Engine.WholesBeside locale template template' templates templates')
      (ResultsAgree (fun _ _ => True) Eq) catalog.engine.render
        catalog'.engine.render := by
  apply Completion.inStep_deferred
  intro whole whole' related
  apply speaks.renderInstance free retold (unread template registered) _ related
  apply speaks.servicesBeside free retold unread (acyclic.shallow template)
    ((speaks.acyclic acyclic).shallow template')
  · rw [Engine.nestingLimit, related.2.1]
    exact Nat.le_add_left _ _
  · rw [Engine.nestingLimit, related.2.2]
    exact Nat.le_add_left _ _

omit retold in
/-- A message with a template ends for the locale as the message without locale
does. -/
theorem renderMessage
    {message message' : Message}
    (parameters : message.parameters = message'.parameters)
    (hidden : localeKey ∉ message.parameters) (arguments : List Json)
    {id id' : String}
    (same : Body.SameTemplate templates templates' (.template id)
      (.template id'))
    {state state' : EngineState}
    (states : EngineState.Hold templates templates' state state') :
    ResultsAgree (fun _ _ => True) Eq
      (catalog.renderMessage message (some locale) arguments id state).1
      (catalog'.renderMessage message' none arguments id' state').1 := by
  rcases same with _ | ⟨stands, stands', retold⟩
  rw [← states.1] at stands
  rw [← states.2] at stands'
  have registered := Registry.registered_of_get (Registry.get_eq_ok.mpr stands)
  rw [states.1] at registered
  have ended := ((speaks.render free retold unread acyclic registered).drive
    (speaks.wholesBeside_prepared parameters hidden arguments states)).1
  rw [renderMessage_of_get (Registry.get_eq_ok.mpr stands),
    renderMessage_of_get (Registry.get_eq_ok.mpr stands')]
  revert ended
  generalize (catalog.engine.render.drive _).1 = result
  generalize (catalog'.engine.render.drive _).1 = result'
  rintro ((_ | rfl) | _)
  · exact .error trivial
  · exact .ok rfl
  · exact .error trivial

omit retold in
/-- A message for the locale and the message without locale both fail, or both
end in the same text. -/
theorem message
    (bundle key : String) (arguments : List Json) {state state' : EngineState}
    (states : EngineState.Hold templates templates' state state') :
    ResultsAgree (fun _ _ => True) Eq
      (catalog.message bundle (some locale) key arguments state).1
      (catalog'.message bundle none key arguments state').1 := by
  have named := rel_bundle? speaks.bundles bundle
  rw [Catalog.message, Catalog.message]
  revert named
  cases found : catalog.bundle? bundle <;> cases catalog'.bundle? bundle
  · exact fun _ => .error trivial
  · rintro ⟨⟩
  · rintro ⟨⟩
  rintro (beside | _)
  have keyed := beside.byKey? key
  dsimp only
  revert keyed
  rename_i one other
  cases known : one.byKey? key <;> cases other.byKey? key
  · exact fun _ => .error trivial
  · rintro ⟨⟩
  · rintro ⟨⟩
  rintro (spoke | _)
  dsimp only
  rw [← spoke.parameters, spoke.body_eq_default]
  split_ifs
  · exact .error trivial
  have hidden :=
    free one (mem_of_bundle? found).1 _ (List.mem_of_find?_eq_some known)
  have bodies := spoke.body
  revert bodies
  generalize Message.body _ _ = body, Message.default _ = body'
  rintro (text | ⟨stands, stands', retold⟩)
  · exact .ok rfl
  · exact speaks.renderMessage free unread acyclic spoke.parameters hidden
      arguments
      (.template stands stands' retold) states

end Catalog.Speaks

namespace Catalog

variable {definitions : List BundleDefinition} {resolvers : List Resolver}
  {config : Config}
  {before after : EngineState} {catalog : Catalog}

/--
A locale reaches every message.  Take the definitions that speak one locale: the
default bundles, with the text for the locale in place of the default text
wherever there is one.  On an engine of built-in resolvers they make a catalog
whenever the full definitions do, and a message that is called there without
locale ends in a text exactly when the message of the full catalog, called for
the locale, ends in it.
-/
theorem locale_propagates
    (distinct : ∀ definition ∈ definitions,
      (definition.messages.map Prod.fst).Nodup)
    (builtIn : ∀ resolver ∈ resolvers, resolver ∈ Resolver.BuiltIn.all)
    (built : build definitions [] (.build resolvers [] [] [] config) before =
      (.ok catalog, after))
    {locale : String} (ids : (templateIds definitions).Nodup)
    (ids' : (templateIds (speaking locale definitions)).Nodup)
    (free : ∀ definition ∈ definitions, definition.localized = false →
      ∀ declared ∈ definition.messages, localeKey ∉ declared.2.parameters)
    (unread : ∀ template : Template,
      template.Registered after.registry.templates →
      ¬ template.Reads localeKey)
    (acyclic : Acyclic after.registry.templates (catalog.callees fun _ _ _ =>
      False)) :
    ∃ catalog' after',
      build (speaking locale definitions) [] (.build resolvers [] [] [] config)
        before =
        (.ok catalog', after') ∧
      ∀ state state',
        EngineState.Hold after.registry.templates after'.registry.templates
          state state' →
          ∀ bundle key arguments text,
            (catalog.message bundle (some locale) key arguments state).1 =
              .ok text ↔
              (catalog'.message bundle none key arguments state').1 =
                .ok text := by
  rcases exists_speaks distinct builtIn built ids ids' with
    ⟨catalog', after', built', speaks⟩
  refine ⟨catalog', after', built',
    fun state state' states bundle key arguments text => ?_⟩
  have hidden : ∀ bundle ∈ catalog.bundles, ∀ message ∈ bundle.messages,
      localeKey ∉ message.parameters := by
    rcases build_ok built with ⟨assembly, accepted, rfl, -⟩
    intro bundle member message among
    rcases Assembly.exists_parameters_of_mem distinct accepted member among
      with ⟨definition, inside, default, declared, listed, parameters⟩
    rw [← parameters]
    exact free definition inside default declared listed
  exact
    (speaks.message hidden unread acyclic bundle key arguments states).eq_ok_iff
    text

/-- The guest is welcomed in German without locale, by the definitions that
speak German: the message is not translated, but it calls one that is. -/
theorem welcome_propagates :
    ∃ catalog' after',
      build (speaking "de" welcomeDefinitions) [] (.build [] [] [] [] {})
        .empty =
        (.ok catalog', after') ∧
      (catalog'.message "shop" none "welcome" [.string "Ada"] after').1 =
        .ok "hallo\x7d" := by
  have unread : ∀ template : Template,
      template.Registered welcomeState.registry.templates →
      ¬ template.Reads localeKey := by
    rintro template registered ⟨expression, member, -, -, read⟩
    rcases List.mem_cons.mp registered with rfl | registered
    · cases member
    rcases List.mem_cons.mp registered with rfl | registered
    · cases member
    rcases List.mem_singleton.mp registered with rfl
    rcases List.mem_cons.mp member with rfl | member
    · cases read
    · rcases List.mem_singleton.mp member with rfl
      exact absurd (Part.property.inj (Option.some.inj read)) (by decide)
  have ids : templateIds welcomeDefinitions =
      ["shop_greet", "shop_welcome", "shop_de_greet"] := by
    cbv
  have ids' : templateIds (speaking "de" welcomeDefinitions) =
      ["shop_greet", "shop_welcome"] := by
    cbv
  rcases locale_propagates (by decide) (List.forall_mem_nil _) build_welcome
      (by rw [ids]; decide)
      (by rw [ids']; decide) (by decide) unread welcome_acyclic
    with ⟨catalog', after', built', same⟩
  refine ⟨catalog', after', built', ?_⟩
  apply (same welcomeState after' ⟨rfl, rfl⟩ "shop" "welcome"
    [.string "Ada"] "hallo\x7d").mp
  -- The evaluation goes as deep as renders may nest.
  set_option maxRecDepth 4000 in cbv

end Catalog

end Phrasebook
