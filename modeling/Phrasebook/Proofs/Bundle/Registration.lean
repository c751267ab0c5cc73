import Mathlib
import Phrasebook.Catalog
import Phrasebook.Proofs.Bundle.Assembly
import Phrasebook.Proofs.Registry

/-!
# The templates of messages

Registering sources in order leaves under each id the parse of the last source
with that id.  The ids of messages are made of the names of their bundles, their
locales and their keys, with underscores between them, and all of these may have
underscores in them, so that two bodies may get one id.  A body whose id no
other body has keeps its own template; of bodies with one id, all get the
template of the one that was registered last.
-/

namespace Phrasebook

namespace Catalog

open EngineState
  (lastSource? exists_lastSource? mem_of_lastSource? get?_registerAll)

variable {definitions : List BundleDefinition}
  {templates : List (String × String)}
  {engine : Engine} {state state' : EngineState} {catalog : Catalog}

/-- What a catalog that was built is made of. -/
theorem build_ok
    (built : build definitions templates engine state = (.ok catalog, state')) :
    ∃ assembly, Assembly.ofDefinitions definitions = .ok assembly ∧
      catalog =
        ⟨(assembly.bundles.map Bundle.namespaceResolver).foldl
          Engine.addNamespace engine,
          assembly.bundles⟩ ∧
      ∃ middle event,
        state.registerAll (assembly.sources ++ templates) = (.ok (), middle) ∧
          state' = middle.log event := by
  rw [build] at built
  split at built
  · cases built
  · rename_i assembly accepted
    dsimp only at built
    split at built
    · cases built
    · rename_i middle registered
      cases built
      exact ⟨assembly, accepted, rfl, middle, _, registered, rfl⟩

/--
The template of a message body.  The body has one source, and under its id the
engine has the parse of the source of a body with that id; where no other body
has the id, that is the parse of its own source.
-/
theorem registered_of_body
    (distinct : ∀ definition ∈ definitions,
      (definition.messages.map Prod.fst).Nodup)
    (built : build definitions [] engine state = (.ok catalog, state'))
    {bundle : Bundle} (member : bundle ∈ catalog.bundles) {message : Message}
    (among : message ∈ bundle.messages) {locale : Option String} {id : String}
    (own : message.ownBody? locale = some (.template id)) :
    ∃ source template,
      (∀ other, Declares definitions bundle.name message.method locale other ↔
        other = source) ∧
      state'.registry.get id = .ok template ∧
      (∃ bundle' ∈ catalog.bundles, ∃ message' ∈ bundle'.messages,
        ∃ locale' source',
        message'.ownBody? locale' = some (.template id) ∧
          Declares definitions bundle'.name message'.method locale' source' ∧
          TemplateNode.parse id source' = .ok template.nodes) ∧
      ((∀ bundle' ∈ catalog.bundles, ∀ message' ∈ bundle'.messages, ∀ locale',
          message'.ownBody? locale' = some (.template id) →
            bundle' = bundle ∧ message' = message ∧ locale' = locale) →
        TemplateNode.parse id source = .ok template.nodes) := by
  rcases build_ok built with
    ⟨assembly, accepted, rfl, middle, event, registered, rfl⟩
  have assembled := Assembly.assembled_ofDefinitions distinct accepted
  rw [List.append_nil] at registered
  rcases assembled.bodies bundle member message among locale _ own
    with ⟨source, declared, body, brought⟩
  have same : id = templateId bundle.name locale message.key :=
    Assembly.ofSource_eq_template body.symm
  have listed : (id, source) ∈ assembly.sources := by
    apply brought
    exact List.mem_singleton.mpr rfl
  rcases exists_lastSource? listed with ⟨last, found⟩
  have registration := get?_registerAll registered id
  rw [found] at registration
  rcases registration with ⟨template, stands, -, parsed⟩
  rcases assembled.sources _ (mem_of_lastSource? found)
    with ⟨bundle', member', message', among', locale', own', declared'⟩
  refine ⟨source, template, ?_, ?_, ?_, ?_⟩
  · intro other
    constructor
    · intro declaredOther
      exact assembled.single _ _ _ _ _
        (Assembly.declares_ordered.mpr declaredOther) declared
    · rintro rfl
      exact Assembly.declares_ordered.mp declared
  · show middle.registry.get id = _
    rw [Registry.get, stands]
  · exact ⟨bundle', member', message', among', locale', last, own',
      Assembly.declares_ordered.mp declared', parsed⟩
  · intro alone
    rcases alone bundle' member' message' among' locale' own' with
      ⟨rfl, rfl, rfl⟩
    rwa [assembled.single _ _ _ _ _ declared declared']

/-- A message with a template of its own for one locale. -/
def greetingDefinitions : List BundleDefinition :=
  [{ bundle := "a", messages := [("m", { template := "one\x7d" })] },
    { bundle := "a", locale := some "de", localized := true,
      messages := [("m", { template := "eins\x7d" })] }]

/-- The bundle of the greeting. -/
def greetingBundle : Bundle :=
  ⟨"a", none, ["de"],
    [⟨"m", "m", [], .template "a_m", [("de", .template "a_de_m")]⟩]⟩

theorem ofDefinitions_greeting :
    Assembly.ofDefinitions greetingDefinitions =
      .ok ⟨[greetingBundle], [("a_m", "one\x7d"), ("a_de_m", "eins\x7d")]⟩ := by
  cbv

/-- The catalog of the greeting, with the state after it was built. -/
def greetingCatalog : Catalog × EngineState :=
  (⟨Engine.addNamespace (.build [] [] [] [] {})
    greetingBundle.namespaceResolver, [greetingBundle]⟩,
    ((EngineState.registerAll [("a_m", "one\x7d"), ("a_de_m", "eins\x7d")]
      .empty).2.log
      (.builtBundles 1 2)))

theorem build_greeting :
    build greetingDefinitions [] (.build [] [] [] [] {}) .empty =
      (.ok greetingCatalog.1, greetingCatalog.2) := by
  have registered :
      EngineState.registerAll [("a_m", "one\x7d"), ("a_de_m", "eins\x7d")]
        .empty =
        (.ok (),
            (EngineState.registerAll [("a_m", "one\x7d"),
                ("a_de_m", "eins\x7d")] .empty).2) := by
    cbv
  rw [build, ofDefinitions_greeting]
  dsimp only
  rw [List.append_nil, registered]
  rfl

/-- The greeting of the locale is rendered by the template of the locale. -/
theorem greeting_registered :
    ∃ template, greetingCatalog.2.registry.get "a_de_m" = .ok template ∧
      TemplateNode.parse "a_de_m" "eins\x7d" = .ok template.nodes := by
  have distinct :
      ∀ definition ∈ greetingDefinitions,
          (definition.messages.map Prod.fst).Nodup := by
    decide
  rcases registered_of_body distinct build_greeting List.mem_cons_self
    List.mem_cons_self
    (show Message.ownBody? _ (some "de") = some (.template "a_de_m") from rfl)
    with ⟨source, template, only, stands, -, alone⟩
  have declared : Declares greetingDefinitions "a" "m" (some "de") "eins\x7d" :=
    ⟨_, List.mem_cons_of_mem _ List.mem_cons_self, rfl, .localized rfl rfl, _,
      List.mem_cons_self, rfl⟩
  rcases (only "eins\x7d").mp declared with rfl
  refine ⟨template, stands, alone ?_⟩
  intro bundle' member' message' among' locale' own'
  rcases List.mem_singleton.mp member' with rfl
  rcases List.mem_singleton.mp among' with rfl
  refine ⟨rfl, rfl, ?_⟩
  cases locale' with
  | none => exact absurd own' (by decide)
  | some other =>
      rcases List.lookup_eq_some_iff.mp own' with ⟨before, after, split, -⟩
      cases before with
      | nil => exact congrArg some (Prod.mk.inj (List.cons.inj split).1).1.symm
      | cons _ before =>
          cases (List.nil_eq_append_iff.mp (List.cons.inj split).2).2

/-- Every body of the messages that definitions make has the parse of its own
source under its id. -/
def KeepsTemplates (definitions : List BundleDefinition) (engine : Engine)
    (state : EngineState) : Prop :=
  ∀ catalog state', build definitions [] engine state = (.ok catalog, state') →
    ∀ bundle ∈ catalog.bundles, ∀ message ∈ bundle.messages, ∀ locale id,
      message.ownBody? locale = some (.template id) →
        ∀ source,
          Declares definitions bundle.name message.method locale source →
          ∃ template, state'.registry.get id = .ok template ∧
            TemplateNode.parse id source = .ok template.nodes

/-- Two bundles whose messages have the same template id. -/
def collidingDefinitions : List BundleDefinition :=
  [{ bundle := "a", messages :=
    [("m", { template := "one\x7d", key := some "b_c" })] },
    { bundle := "a_b", messages :=
        [("n", { template := "two\x7d", key := some "c" })] }]

/-- The message of the first bundle has lost its template to the one of the
second. -/
theorem collidingDefinitions_lose :
    ¬ KeepsTemplates collidingDefinitions (.build [] [] [] [] {}) .empty := by
  intro keeps
  have assembled :
      Assembly.ofDefinitions collidingDefinitions =
        .ok ⟨[⟨"a", none, [], [⟨"m", "b_c", [], .template "a_b_c", []⟩]⟩,
            ⟨"a_b", none, [], [⟨"n", "c", [], .template "a_b_c", []⟩]⟩],
          [("a_b_c", "one\x7d"), ("a_b_c", "two\x7d")]⟩ := by
    cbv
  have registered :
      EngineState.registerAll [("a_b_c", "one\x7d"), ("a_b_c", "two\x7d")]
        .empty =
        (.ok (), ⟨⟨[("a_b_c", ⟨"a_b_c", "2", [.text "two\x7d"]⟩)], 2⟩,
          [.registeredTemplate "a_b_c", .registeredTemplate "a_b_c"]⟩) := by
    cbv
  have built := keeps _ _ (by
    rw [build, assembled]
    dsimp only
    rw [List.append_nil, registered])
  have declared : Declares collidingDefinitions "a" "m" none "one\x7d" :=
    ⟨_, List.mem_cons_self, rfl, .default rfl, _, List.mem_cons_self, rfl⟩
  rcases built _ List.mem_cons_self _ List.mem_cons_self none "a_b_c" rfl
    "one\x7d" declared
    with ⟨template, stands, parsed⟩
  cases stands
  have own : TemplateNode.parse "a_b_c" "one\x7d" = .ok [.text "one\x7d"] := by
    cbv
  rw [own] at parsed
  have texts := TemplateNode.text.inj (List.cons.inj (Except.ok.inj parsed)).1
  exact absurd texts (by decide)

end Catalog

end Phrasebook
