import Phrasebook.Proofs.Bundle.Addition

/-!
# Assembled bundles

What a successful assembly is made of.  Names of bundles are valid; they, and
methods and keys within a bundle, are each used once; and the bodies of the
messages are exactly the declared texts, each under its template id among the
sources.  Both ways to add a definition keep this invariant.
-/

namespace Phrasebook

/-- The locale that the bodies of a definition are for: none for a default
bundle. -/
inductive BundleDefinition.Serves (definition : BundleDefinition) :
    Option String → Prop where
  | default : definition.localized = false → Serves definition none
  | localized {locale : String} :
    definition.localized = true → definition.locale = some locale →
      Serves definition (some locale)

/-- Definitions declare a source text for a method of a bundle, for a locale or
by default. -/
def Declares (definitions : List BundleDefinition) (bundle method : String)
    (locale : Option String)
    (source : String) : Prop :=
  ∃ definition ∈ definitions, definition.bundle = bundle ∧
    definition.Serves locale ∧
    ∃ message, (method, message) ∈ definition.messages ∧
      message.template = source

namespace Assembly

/-- The invariant of an assembly of definitions. -/
structure Assembled
    (definitions : List BundleDefinition) (assembly : Assembly) : Prop where
  valid : ∀ bundle ∈ assembly.bundles, isBundleName bundle.name = true
  names : (assembly.bundles.map Bundle.name).Nodup
  methods : ∀ bundle ∈ assembly.bundles,
    (bundle.messages.map Message.method).Nodup
  keys : ∀ bundle ∈ assembly.bundles, (bundle.messages.map Message.key).Nodup
  locales : ∀ bundle ∈ assembly.bundles, ∀ message ∈ bundle.messages,
    ∀ locale body,
    message.ownBody? (some locale) = some body → locale ∈ bundle.locales
  bodies : ∀ bundle ∈ assembly.bundles, ∀ message ∈ bundle.messages,
    ∀ locale body,
    message.ownBody? locale = some body →
      ∃ source, Declares definitions bundle.name message.method locale source ∧
        body = .ofSource (templateId bundle.name locale message.key) source ∧
        ∀ entry ∈ sourceOf body source, entry ∈ assembly.sources
  declared : ∀ name method locale source,
    Declares definitions name method locale source →
    ∃ bundle ∈ assembly.bundles, bundle.name = name ∧
      ∃ message ∈ bundle.messages, message.method = method ∧
        ∃ body, message.ownBody? locale = some body
  single : ∀ name method locale source source',
    Declares definitions name method locale source →
    Declares definitions name method locale source' → source = source'
  sources : ∀ entry ∈ assembly.sources, ∃ bundle ∈ assembly.bundles,
    ∃ message ∈ bundle.messages,
    ∃ locale, message.ownBody? locale = some (.template entry.1) ∧
      Declares definitions bundle.name message.method locale entry.2

section Declarations

variable {definitions : List BundleDefinition} {definition : BundleDefinition}
  {bundle method source source' : String} {locale : Option String}

theorem declares_append :
    Declares (definitions ++ [definition]) bundle method locale source ↔
      Declares definitions bundle method locale source ∨
        Declares [definition] bundle method locale source := by
  simp only [Declares, List.mem_append, or_and_right, exists_or]

theorem declares_singleton :
    Declares [definition] bundle method locale source ↔
      definition.bundle = bundle ∧ definition.Serves locale ∧
        ∃ message, (method, message) ∈ definition.messages ∧
          message.template = source := by
  simp only [Declares, List.mem_singleton, exists_eq_left]

/-- A definition declares one source only for a method. -/
theorem declares_single (distinct : (definition.messages.map Prod.fst).Nodup)
    (declared : Declares [definition] bundle method locale source)
    (declared' : Declares [definition] bundle method locale source') :
    source = source' := by
  rcases declares_singleton.mp declared with ⟨-, -, message, member, rfl⟩
  rcases declares_singleton.mp declared' with ⟨-, -, message', member', rfl⟩
  have same :=
    (get?_of_mem distinct member).symm.trans (get?_of_mem distinct member')
  rw [Option.some.inj same]

theorem serves_default
    (plain : definition.localized = false) (serves : definition.Serves locale) :
    locale = none := by
  cases serves with
  | default => rfl
  | localized localized =>
      rw [plain] at localized
      cases localized

theorem serves_localized
    {spoken : String} (localized : definition.localized = true)
    (speaks : definition.locale = some spoken)
    (serves : definition.Serves locale) :
    locale = some spoken := by
  cases serves with
  | default plain =>
      rw [localized] at plain
      cases plain
  | localized _ same => exact same.symm.trans speaks

end Declarations

namespace Assembled

variable {definitions : List BundleDefinition} {definition : BundleDefinition}
  {assembly assembly' : Assembly}

theorem empty : Assembled [] {} := by
  have nothing : ∀ {name method locale source},
      ¬ Declares [] name method locale source := by
    rintro name method locale source ⟨_, member, -⟩
    exact List.not_mem_nil member
  constructor
  case names => exact List.nodup_nil
  case declared => exact fun _ _ _ _ declared => (nothing declared).elim
  case single => exact fun _ _ _ _ _ declared => (nothing declared).elim
  all_goals exact List.forall_mem_nil _

section Steps

variable (assembled : Assembled definitions assembly)

include assembled

/-- A declared text is in the body of the message. -/
theorem ownBody?_of_declares
    {bundle : Bundle} (member : bundle ∈ assembly.bundles)
    {message : Message} (among : message ∈ bundle.messages)
    {locale : Option String} {source : String}
    (declared : Declares definitions bundle.name message.method locale source) :
    message.ownBody? locale =
      some (.ofSource (templateId bundle.name locale message.key) source) := by
  rcases assembled.declared _ _ _ _ declared with
    ⟨bundle', member', named, message', among', called, body, own⟩
  rcases List.inj_on_of_nodup_map assembled.names member' member named with rfl
  rcases List.inj_on_of_nodup_map (assembled.methods bundle' member) among'
    among called with rfl
  rcases assembled.bodies bundle' member message' among locale body own with
    ⟨other, declared', rfl, -⟩
  rw [assembled.single _ _ _ _ _ declared declared']
  exact own

/-- Without a declared text there is no body. -/
theorem ownBody?_of_not_declares
    {bundle : Bundle} (member : bundle ∈ assembly.bundles) {message : Message}
    (among : message ∈ bundle.messages) {locale : Option String}
    (silent : ∀ source,
      ¬ Declares definitions bundle.name message.method locale source) :
    message.ownBody? locale = none := by
  cases own : message.ownBody? locale with
  | none => rfl
  | some body =>
      rcases assembled.bodies bundle member message among locale body own with
        ⟨source, declared, -⟩
      exact (silent source declared).elim

/-- What was assembled before has its sources and declarations after another
definition. -/
theorem body_append
    (extra : List (String × String)) {bundle : Bundle}
    (member : bundle ∈ assembly.bundles) {message : Message}
    (among : message ∈ bundle.messages) {locale : Option String} {body : Body}
    (own : message.ownBody? locale = some body) :
    ∃ source,
      Declares (definitions ++ [definition]) bundle.name message.method locale
        source ∧
      body = .ofSource (templateId bundle.name locale message.key) source ∧
      ∀ entry ∈ sourceOf body source, entry ∈ assembly.sources ++ extra := by
  rcases assembled.bodies bundle member message among locale body own
    with ⟨source, declared, equal, brought⟩
  exact ⟨source, declares_append.mpr (.inl declared), equal,
    fun entry among => List.mem_append_left _ (brought entry among)⟩

/-- A definition that declares nothing anew keeps the sources single. -/
theorem single_append
    (distinct : (definition.messages.map Prod.fst).Nodup)
    (apart : ∀ name method locale source source',
      Declares definitions name method locale source →
      ¬ Declares [definition] name method locale source')
    (name method : String) (locale : Option String) (source source' : String)
    (declared :
      Declares (definitions ++ [definition]) name method locale source)
    (declared' :
      Declares (definitions ++ [definition]) name method locale source') :
    source = source' := by
  rcases declares_append.mp declared with old | new
  · rcases declares_append.mp declared' with old' | new'
    · exact assembled.single _ _ _ _ _ old old'
    · exact (apart _ _ _ _ _ old new').elim
  · rcases declares_append.mp declared' with old' | new'
    · exact (apart _ _ _ _ _ old' new).elim
    · exact declares_single distinct new new'

/-- A default bundle joins the assembly. -/
theorem addDefault
    (plain : definition.localized = false)
    (distinct : (definition.messages.map Prod.fst).Nodup)
    (added : assembly.addDefault definition = .ok assembly') :
    Assembled (definitions ++ [definition]) assembly' := by
  rcases addDefault_ok added with ⟨valid, fresh, keys, rfl⟩
  have newDeclares :
      ∀ one ∈ definition.messages,
        Declares (definitions ++ [definition]) definition.bundle one.1 none
            one.2.template := by
    intro one member
    exact declares_append.mpr
      (.inr (declares_singleton.mpr ⟨rfl, .default plain, one.2, member, rfl⟩))
  constructor
  case valid =>
    exact List.forall_mem_append.mpr ⟨assembled.valid,
      List.forall_mem_singleton.mpr valid⟩
  case names =>
    rw [List.map_append]
    refine List.nodup_append.mpr ⟨assembled.names, List.nodup_singleton _, ?_⟩
    rintro name member other only rfl
    rcases List.mem_singleton.mp only with rfl
    exact fresh member
  case methods =>
    refine List.forall_mem_append.mpr ⟨assembled.methods,
      List.forall_mem_singleton.mpr ?_⟩
    rw [bundleOf, List.map_map]
    exact distinct
  case keys =>
    exact List.forall_mem_append.mpr ⟨assembled.keys,
      List.forall_mem_singleton.mpr keys⟩
  case locales =>
    refine List.forall_mem_append.mpr ⟨assembled.locales,
      List.forall_mem_singleton.mpr ?_⟩
    intro message member locale body own
    rcases List.mem_map.mp member with ⟨one, -, rfl⟩
    cases own
  case bodies =>
    refine List.forall_mem_append.mpr ⟨?_, List.forall_mem_singleton.mpr ?_⟩
    · intro bundle inside message member locale body own
      exact assembled.body_append _ inside member own
    · intro message member locale body own
      rcases List.mem_map.mp member with ⟨one, inside, rfl⟩
      cases locale with
      | none =>
          cases own
          refine ⟨one.2.template, newDeclares one inside, rfl, ?_⟩
          intro entry among
          exact List.mem_append_right _
            (List.mem_flatMap.mpr ⟨one, inside, among⟩)
      | some locale => cases own
  case declared =>
    intro name method locale source declared
    rcases declares_append.mp declared with old | new
    · rcases assembled.declared _ _ _ _ old with ⟨bundle, member, found⟩
      exact ⟨bundle, List.mem_append_left _ member, found⟩
    · rcases declares_singleton.mp new with ⟨rfl, serves, message, member, rfl⟩
      rcases serves_default plain serves with rfl
      refine ⟨bundleOf definition, List.mem_append_right _ List.mem_cons_self,
        rfl, ?_⟩
      exact ⟨_, List.mem_map_of_mem member, rfl, _, rfl⟩
  case single =>
    refine assembled.single_append distinct ?_
    intro name method locale source source' old new
    rcases assembled.declared _ _ _ _ old with ⟨bundle, member, rfl, -⟩
    rw [(declares_singleton.mp new).1] at fresh
    exact fresh (List.mem_map_of_mem member)
  case sources =>
    refine List.forall_mem_append.mpr ⟨?_, ?_⟩
    · intro entry member
      rcases assembled.sources entry member with
        ⟨bundle, inside, message, among, locale, own, declared⟩
      exact ⟨bundle, List.mem_append_left _ inside, message, among, locale, own,
        declares_append.mpr (.inl declared)⟩
    · intro entry member
      rcases List.mem_flatMap.mp member with ⟨one, inside, brought⟩
      rcases mem_sourceOf.mp brought with ⟨template, rfl⟩
      refine ⟨bundleOf definition, List.mem_append_right _ List.mem_cons_self,
        messageOf definition one, List.mem_map_of_mem inside, none,
          congrArg some template,
        newDeclares one inside⟩

section Merging

variable {locale : String} {target : Bundle} {extra : List (String × String)}
  (localized : definition.localized = true)
  (distinct : (definition.messages.map Prod.fst).Nodup)
  (merges : Merges assembly definition locale target extra)

/-- The bundle has no body for the locale of the override yet. -/
theorem ownBody?_ne_of_merges
    (merges : Merges assembly definition locale target extra)
    {message : Message} (among : message ∈ target.messages) (body : Body) :
    message.ownBody? (some locale) ≠ some body :=
  fun own =>
    merges.unspoken
      (assembled.locales target merges.inside message among locale body own)

include localized merges in
omit assembled in
theorem declares_of_merges
    {one : String × MessageDefinition} (member : one ∈ definition.messages) :
    Declares (definitions ++ [definition]) target.name one.1
      (some locale) one.2.template :=
  declares_append.mpr
    (.inr (declares_singleton.mpr
      ⟨merges.named.symm, .localized localized merges.speaks, one.2,
        member, rfl⟩))

include localized merges

theorem bodies_of_merges
    {bundle : Bundle}
    (member : bundle ∈
      mergedInto target locale definition.messages assembly.bundles)
    {message : Message} (among : message ∈ bundle.messages)
    {other : Option String} {body : Body}
    (own : message.ownBody? other = some body) :
    ∃ source,
      Declares (definitions ++ [definition]) bundle.name message.method other
        source ∧
      body = .ofSource (templateId bundle.name other message.key) source ∧
      ∀ entry ∈ sourceOf body source, entry ∈ assembly.sources ++ extra := by
  rcases mem_of_mem_mergedInto member with rfl | old
  · rcases List.mem_map.mp among with ⟨message, before, rfl⟩
    rw [method_overridden, key_overridden]
    by_cases same : other = some locale
    · rcases same with rfl
      rcases exists_of_ownBody?_overridden
        (assembled.ownBody?_ne_of_merges merges before) own
        with ⟨one, declared, rfl⟩
      refine ⟨one.template, declares_of_merges localized merges declared,
        rfl, ?_⟩
      intro entry brought
      exact List.mem_append_right _
        ((merges.members entry).mpr ⟨_, declared, message, before, rfl,
          brought⟩)
    · rw [ownBody?_overridden same] at own
      exact assembled.body_append extra merges.inside before own
  · exact assembled.body_append extra old among own

include distinct

/-- After a merge everything that has been declared is the body of a message. -/
theorem declared_of_merges
    {name method source : String} {other : Option String}
    (declared :
      Declares (definitions ++ [definition]) name method other source) :
    ∃ bundle ∈ mergedInto target locale definition.messages assembly.bundles,
      bundle.name = name ∧
      ∃ message ∈ bundle.messages, message.method = method ∧
        ∃ body, message.ownBody? other = some body := by
  rcases declares_append.mp declared with old | new
  · rcases assembled.declared _ _ _ _ old with
      ⟨bundle, member, rfl, message, among, rfl, body, own⟩
    have different : bundle = target → other ≠ some locale := by
      rintro rfl rfl
      exact assembled.ownBody?_ne_of_merges merges among body own
    rcases exists_mem_mergedInto
        (fun named method found =>
          named = bundle.name ∧ method = message.method ∧ found = some body)
      assembled.names merges.inside member among different ⟨rfl, rfl, own⟩
      with ⟨bundle', member', message', among', same, same', own'⟩
    exact ⟨bundle', member', same, message', among', same', body, own'⟩
  · rcases declares_singleton.mp new with ⟨rfl, serves, one, member, rfl⟩
    rcases serves_localized localized merges.speaks serves with rfl
    rcases merges.present _ member with ⟨message, among, rfl⟩
    have own :
        (overridden target.name locale definition.messages message).ownBody?
          (some locale) =
          some
              (.ofSource (templateId target.name (some locale) message.key)
                  one.template) :=
      localized_overridden_self (get?_of_mem distinct member)
    exact ⟨_, merged_mem_mergedInto merges.inside, merges.named, _,
      List.mem_map_of_mem among,
      method_overridden, _, own⟩

theorem single_of_merges
    (name method : String) (other : Option String) (source source' : String)
    (declared : Declares (definitions ++ [definition]) name method other source)
    (declared' :
      Declares (definitions ++ [definition]) name method other source') :
    source = source' := by
  refine assembled.single_append distinct ?_ name method other source source'
    declared declared'
  intro name method other source source' old new
  rcases declares_singleton.mp new with ⟨rfl, serves, -⟩
  rcases serves_localized localized merges.speaks serves with rfl
  rcases assembled.declared _ _ _ _ old with
    ⟨bundle, member, same, message, among, -, body, own⟩
  rcases List.inj_on_of_nodup_map assembled.names member merges.inside
    (same.trans merges.named.symm)
    with rfl
  exact assembled.ownBody?_ne_of_merges merges among body own

theorem sources_of_merges
    {entry : String × String} (member : entry ∈ assembly.sources ++ extra) :
    ∃ bundle ∈ mergedInto target locale definition.messages assembly.bundles,
      ∃ message ∈ bundle.messages, ∃ other,
        message.ownBody? other = some (.template entry.1) ∧
        Declares (definitions ++ [definition]) bundle.name message.method other
          entry.2 := by
  rcases List.mem_append.mp member with before | added
  · rcases assembled.sources entry before with
      ⟨bundle, old, message, among, other, own, declared⟩
    have different : bundle = target → other ≠ some locale := by
      rintro rfl rfl
      exact assembled.ownBody?_ne_of_merges merges among _ own
    rcases exists_mem_mergedInto
        (fun named method found =>
          found = some (.template entry.1) ∧
            Declares (definitions ++ [definition]) named method other entry.2)
      assembled.names merges.inside old among different
        ⟨own, declares_append.mpr (.inl declared)⟩
      with ⟨bundle', member', message', among', own', declared'⟩
    exact ⟨bundle', member', message', among', other, own', declared'⟩
  · rcases (merges.members entry).mp added with
      ⟨one, declared, message, among, same, brought⟩
    rcases mem_sourceOf.mp brought with ⟨template, rfl⟩
    refine ⟨_, merged_mem_mergedInto merges.inside, _,
      List.mem_map_of_mem among, some locale, ?_, ?_⟩
    · rw [← template]
      refine localized_overridden_self ?_
      rw [same]
      exact get?_of_mem distinct declared
    · rw [method_overridden, same]
      exact declares_of_merges localized merges declared

end Merging

/-- A localized override is merged into its bundle. -/
theorem addLocalized
    (localized : definition.localized = true)
    (distinct : (definition.messages.map Prod.fst).Nodup)
    (added : assembly.addLocalized definition = .ok assembly') :
    Assembled (definitions ++ [definition]) assembly' := by
  rcases addLocalized_ok added assembled.methods distinct with
    ⟨locale, target, extra, merges, rfl⟩
  constructor
  case valid =>
    intro bundle member
    rcases mem_of_mem_mergedInto member with rfl | old
    · exact assembled.valid target merges.inside
    · exact assembled.valid bundle old
  case names =>
    rw [names_mergedInto]
    exact assembled.names
  case methods =>
    intro bundle member
    rcases mem_of_mem_mergedInto member with rfl | old
    · rw [methods_merged]
      exact assembled.methods target merges.inside
    · exact assembled.methods bundle old
  case keys =>
    intro bundle member
    rcases mem_of_mem_mergedInto member with rfl | old
    · rw [keys_merged]
      exact assembled.keys target merges.inside
    · exact assembled.keys bundle old
  case locales =>
    intro bundle member message among other body own
    rcases mem_of_mem_mergedInto member with rfl | old
    · rcases List.mem_map.mp among with ⟨message, before, rfl⟩
      by_cases same : other = locale
      · exact List.mem_append_right _ (List.mem_singleton.mpr same)
      · rw [ownBody?_overridden fun equal => same (Option.some.inj equal)]
          at own
        exact List.mem_append_left _
          (assembled.locales target merges.inside message before other body own)
    · exact assembled.locales bundle old message among other body own
  case bodies =>
    intro bundle member message among other body own
    exact assembled.bodies_of_merges localized merges member among own
  case declared =>
    intro name method other source declared
    exact assembled.declared_of_merges localized distinct merges declared
  case single => exact assembled.single_of_merges localized distinct merges
  case sources =>
    intro entry member
    exact assembled.sources_of_merges localized distinct merges member

end Steps

/-- Adding one definition after the other keeps the invariant. -/
theorem foldlM
    {add : Assembly → BundleDefinition → Except BundleError Assembly}
    {rest : List BundleDefinition}
    (step : ∀ {definitions definition assembly assembly'}, definition ∈ rest →
      Assembled definitions assembly → add assembly definition = .ok assembly' →
        Assembled (definitions ++ [definition]) assembly')
    (assembled : Assembled definitions assembly)
    (added : rest.foldlM add assembly = .ok assembly') :
    Assembled (definitions ++ rest) assembly' := by
  induction rest generalizing definitions assembly with
  | nil =>
      cases added
      rwa [List.append_nil]
  | cons definition rest ih =>
      rw [List.foldlM_cons] at added
      cases first : add assembly definition with
      | error error =>
          rw [first] at added
          cases added
      | ok next =>
          rw [first] at added
          rw [List.append_cons]
          refine ih (fun member => step (List.mem_cons_of_mem _ member))
            ?_ added
          exact step List.mem_cons_self assembled first

end Assembled

/-- What definitions are assembled to, when they are, keeps the invariant. -/
theorem assembled_ofDefinitions
    {definitions : List BundleDefinition} {assembly : Assembly}
    (distinct : ∀ definition ∈ definitions,
      (definition.messages.map Prod.fst).Nodup)
    (accepted : ofDefinitions definitions = .ok assembly) :
    Assembled
      ((definitions.filter fun definition => !definition.localized) ++
        definitions.filter BundleDefinition.localized)
      assembly := by
  rw [ofDefinitions] at accepted
  cases defaults : (definitions.filter fun definition =>
    !definition.localized).foldlM addDefault {} with
  | error error =>
      rw [defaults] at accepted
      cases accepted
  | ok middle =>
      rw [defaults] at accepted
      have half : Assembled (definitions.filter fun definition =>
        !definition.localized) middle := by
        refine Assembled.foldlM ?_ Assembled.empty defaults
        intro _ definition _ _ member assembled added
        rcases List.mem_filter.mp member with ⟨inside, plain⟩
        exact assembled.addDefault (Bool.not_eq_true' _ |>.mp plain)
          (distinct _ inside) added
      refine Assembled.foldlM ?_ half accepted
      intro _ definition _ _ member assembled added
      rcases List.mem_filter.mp member with ⟨inside, localized⟩
      exact assembled.addLocalized localized (distinct _ inside) added

/-- The order of definitions does not matter to what they declare. -/
theorem declares_ordered
    {definitions : List BundleDefinition} {bundle method source : String}
    {locale : Option String} :
    Declares
        ((definitions.filter fun definition => !definition.localized) ++
          definitions.filter BundleDefinition.localized)
        bundle method locale source ↔
      Declares definitions bundle method locale source := by
  have same :
      ∀ definition,
        definition ∈
            (definitions.filter fun definition => !definition.localized) ++
            definitions.filter BundleDefinition.localized ↔
          definition ∈ definitions := by
    intro definition
    rw [List.mem_append, List.mem_filter, List.mem_filter, ← and_or_left]
    cases definition.localized <;> simp
  simp only [Declares, same]

end Assembly

end Phrasebook
