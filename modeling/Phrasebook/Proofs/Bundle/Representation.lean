import Phrasebook.Proofs.Bundle.Acceptance
import Phrasebook.Proofs.Bundle.Registration

/-!
# What bundles stand for

Acceptable definitions are assembled to one bundle for each default definition,
in their order, with one message for each declaration.  The key and the
parameters of a message are those of the default definition, and its body for a
locale is made of the text that some definition declares for exactly that
locale, or else of the default text.  Every lookup of a message finds it.  After
a catalog was built, the registered templates are those of the bodies, beside
the ordinary ones and those from before.
-/

namespace Phrasebook

/-- The body that a text gives to a message of a bundle: the text itself when it
has no closing brace, and otherwise the template with the id of the message for
the locale of the text. -/
def Body.ofText
    (bundle key : String) (locale : Option String) (text : String) : Body :=
  if '\x7d' ∈ text.toList then .template (templateId bundle locale key)
    else .constant text

/-- A message stands for its declaration in a default definition, among all
definitions. -/
structure Message.Represents
    (definitions : List BundleDefinition) (definition : BundleDefinition)
    (one : String × MessageDefinition) (message : Message) : Prop where
  method : message.method = one.1
  key : message.key = definition.declaredKey one
  parameters : message.parameters = one.2.parameters
  spoken : ∀ locale text,
    Declares definitions definition.bundle one.1 locale text →
    message.body locale = .ofText definition.bundle message.key locale text
  unspoken : ∀ locale,
    (∀ text, ¬ Declares definitions definition.bundle one.1 locale text) →
    message.body locale =
      .ofText definition.bundle message.key none one.2.template

/-- A bundle stands for its default definition, among all definitions. -/
structure Bundle.Represents
    (definitions : List BundleDefinition) (definition : BundleDefinition)
    (bundle : Bundle) : Prop where
  name : bundle.name = definition.bundle
  messages : List.Forall₂ (Message.Represents definitions definition)
    definition.messages bundle.messages
  byMethod? : ∀ message ∈ bundle.messages, bundle.byMethod? message.method =
    some message
  byKey? : ∀ message ∈ bundle.messages, bundle.byKey? message.key = some message

theorem Body.ofSource_templateId
    (bundle key : String) (locale : Option String) (text : String) :
    Body.ofSource (templateId bundle locale key) text =
      .ofText bundle key locale text := by
  rw [ofSource, ofText]
  simp only [String.contains_char_eq, decide_eq_true_eq]

namespace Assembly

section Accepted

variable {definitions : List BundleDefinition} {assembly : Assembly}
  (distinct : ∀ definition ∈ definitions,
    (definition.messages.map Prod.fst).Nodup)
  (accepted : ofDefinitions definitions = .ok assembly)

include distinct accepted

theorem represents_message
    {bundle : Bundle} (member : bundle ∈ assembly.bundles) {message : Message}
    (among : message ∈ bundle.messages) {definition : BundleDefinition}
    (inside : definition ∈ definitions) (plain : definition.localized = false)
    (named : bundle.name = definition.bundle) {one : String × MessageDefinition}
    (listed : one ∈ definition.messages)
    (same : message.outline = messageOf definition one) :
    message.Represents definitions definition one := by
  have assembled := assembled_ofDefinitions distinct accepted
  have method : message.method = one.1 := congrArg Message.method same
  constructor
  case method => exact method
  case key =>
    have key : message.key = definition.keyFor one.1 :=
      congrArg Message.key same
    rw [key, keyFor_of_mem (distinct definition inside) listed]
  case parameters =>
    have parameters : message.outline.parameters = one.2.parameters :=
      congrArg Message.parameters same
    exact parameters
  case spoken =>
    intro locale text declared
    rw [← named, ← method] at declared
    have own :=
      assembled.ownBody?_of_declares member among
        (declares_ordered.mpr declared)
    rw [Message.body_of_ownBody? own, Body.ofSource_templateId, named]
  case unspoken =>
    intro locale silent
    rw [← named, ← method] at silent
    have absent := assembled.ownBody?_of_not_declares member among
      fun text declared => silent text (declares_ordered.mp declared)
    have declared : Declares definitions bundle.name message.method none
        one.2.template := by
      rw [named, method]
      exact ⟨definition, inside, rfl, .default plain, one.2, listed, rfl⟩
    have own :=
      assembled.ownBody?_of_declares member among
        (declares_ordered.mpr declared)
    rw [Message.body_of_ownBody?_none absent, Option.some.inj own,
      Body.ofSource_templateId, named]

/-- The bundles of an assembly stand for the default definitions in order. -/
theorem represents_ofDefinitions :
    List.Forall₂ (Bundle.Represents definitions)
      (definitions.filter fun definition => !definition.localized)
        assembly.bundles := by
  have assembled := assembled_ofDefinitions distinct accepted
  have outlines := (outline_ofDefinitions distinct accepted).2.symm
  rw [← List.forall₂_eq_eq_eq, List.forall₂_map_left_iff,
    List.forall₂_map_right_iff] at outlines
  apply forall₂_of_mem outlines
  intro definition inside bundle member same
  rcases mem_defaults.mp inside with ⟨known, plain⟩
  have named : bundle.name = definition.bundle := congrArg Bundle.name same.symm
  have messages := congrArg Bundle.messages same
  rw [Bundle.outline, bundleOf, ← List.forall₂_eq_eq_eq,
    List.forall₂_map_left_iff, List.forall₂_map_right_iff] at messages
  constructor
  case name => exact named
  case messages =>
    apply forall₂_of_mem messages
    intro one listed message among equal
    exact represents_message distinct accepted member among known plain named
      listed equal.symm
  case byMethod? =>
    exact fun message among =>
      (find?_by_iff (assembled.methods bundle member)).mpr ⟨among, rfl⟩
  case byKey? =>
    exact fun message among =>
      (find?_by_iff (assembled.keys bundle member)).mpr ⟨among, rfl⟩

/-- The sources of an assembly have the ids of the bodies. -/
theorem mem_sources_iff {id : String} :
    id ∈ assembly.sources.map Prod.fst ↔
      ∃ bundle ∈ assembly.bundles, ∃ message ∈ bundle.messages, ∃ locale,
        message.body locale = .template id := by
  have assembled := assembled_ofDefinitions distinct accepted
  constructor
  · intro listed
    rcases List.mem_map.mp listed with ⟨entry, member, rfl⟩
    rcases assembled.sources entry member with
      ⟨bundle, inside, message, among, locale, own, -⟩
    exact ⟨bundle, inside, message, among, locale, Message.body_of_ownBody? own⟩
  · rintro ⟨bundle, inside, message, among, locale, body⟩
    rcases message.exists_ownBody?_body locale with ⟨spoken, own⟩
    rw [body] at own
    rcases assembled.bodies bundle inside message among spoken _ own with
      ⟨source, -, -, brought⟩
    exact List.mem_map_of_mem
      (brought (id, source) (List.mem_singleton.mpr rfl))

end Accepted

end Assembly

/--
Assembling definitions.  They are accepted exactly when they are acceptable, in
whatever order they are; then the bundles stand for the default definitions in
order, and after a catalog was built of them, the ids of the registered
templates are those of the bodies, of the ordinary templates and of what was
registered before.
-/
theorem definitions_assemble
    {definitions : List BundleDefinition}
    (distinct : ∀ definition ∈ definitions,
      (definition.messages.map Prod.fst).Nodup) :
    ((∃ assembly, Assembly.ofDefinitions definitions = .ok assembly) ↔
      Acceptable definitions) ∧
    (∀ definitions', definitions.Perm definitions' →
      ((∃ assembly, Assembly.ofDefinitions definitions' = .ok assembly) ↔
        ∃ assembly, Assembly.ofDefinitions definitions = .ok assembly)) ∧
    (∀ assembly, Assembly.ofDefinitions definitions = .ok assembly →
      List.Forall₂ (Bundle.Represents definitions)
        (definitions.filter fun definition => !definition.localized)
          assembly.bundles) ∧
    ∀ templates engine state catalog state',
      Catalog.build definitions templates engine state = (.ok catalog, state') →
        (∃ assembly, Assembly.ofDefinitions definitions = .ok assembly ∧
          catalog.bundles = assembly.bundles) ∧
        ∀ id, id ∈ state'.registry.ids ↔
          id ∈ state.registry.ids ∨
            (∃ bundle ∈ catalog.bundles, ∃ message ∈ bundle.messages, ∃ locale,
              message.body locale = .template id) ∨
            id ∈ templates.map Prod.fst := by
  refine ⟨Assembly.exists_ofDefinitions_iff distinct, ?_, ?_, ?_⟩
  · intro definitions' same
    have distinct' : ∀ definition ∈ definitions',
        (definition.messages.map Prod.fst).Nodup :=
      fun definition member => distinct definition (same.mem_iff.mpr member)
    rw [Assembly.exists_ofDefinitions_iff distinct',
      Assembly.exists_ofDefinitions_iff distinct]
    exact ⟨fun acceptable => acceptable.of_perm same.symm, fun acceptable =>
      acceptable.of_perm same⟩
  · exact fun assembly accepted =>
      Assembly.represents_ofDefinitions distinct accepted
  · intro templates engine state catalog state' built
    rcases Catalog.build_ok built with
      ⟨assembly, accepted, rfl, middle, event, registered, rfl⟩
    refine ⟨⟨assembly, accepted, rfl⟩, fun id => ?_⟩
    show id ∈ middle.registry.ids ↔ _
    rw [EngineState.mem_ids_registerAll registered, List.map_append,
      List.mem_append, Assembly.mem_sources_iff distinct accepted]

/-- The greeting is assembled, also from the override and then the default; its
bundle has both texts, and the template of the override is registered. -/
theorem greeting_assembled :
    Acceptable Catalog.greetingDefinitions ∧
      (∃ assembly, Assembly.ofDefinitions Catalog.greetingDefinitions.reverse =
        .ok assembly) ∧
      List.Forall₂ (Bundle.Represents Catalog.greetingDefinitions)
        [{ bundle := "a", messages := [("m", { template := "one\x7d" })] }]
        [Catalog.greetingBundle] ∧
      "a_de_m" ∈ Catalog.greetingCatalog.2.registry.ids := by
  have distinct :
      ∀ definition ∈ Catalog.greetingDefinitions,
          (definition.messages.map Prod.fst).Nodup := by
    decide
  have accepted := Catalog.ofDefinitions_greeting
  rcases definitions_assemble distinct with
    ⟨acceptance, order, represented, building⟩
  refine ⟨acceptance.mp ⟨_, accepted⟩, ?_, represented _ accepted, ?_⟩
  · exact (order _ (List.reverse_perm _).symm).mpr ⟨_, accepted⟩
  · rcases building _ _ _ _ _ Catalog.build_greeting with ⟨-, ids⟩
    have body : Message.body ⟨"m", "m", [], .template "a_m",
        [("de", .template "a_de_m")]⟩ (some "de") =
        .template "a_de_m" := rfl
    exact (ids "a_de_m").mpr
      (.inr (.inl ⟨_, List.mem_cons_self, _, List.mem_cons_self, _, body⟩))

end Phrasebook
