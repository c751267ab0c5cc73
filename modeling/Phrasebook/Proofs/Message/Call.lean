import Phrasebook.Proofs.Comparison.Message
import Phrasebook.Proofs.Message.Catalog
import Phrasebook.Proofs.Message.Source
import Phrasebook.Proofs.Nesting.Outcome

/-!
# Calls of messages

There are two ways to a message: the catalog is asked for it by its key, or a
template calls it by its method.  The first one renders the body in an instance
of its own.  The second one evaluates the arguments, finds the message in the
namespace of its bundle, renders the body as a nested template, takes the text
off the handle of the answer, and writes it.  Both give the same text or the
same error.
-/

namespace Phrasebook

open Completion (driven driveOn driveOn_same driven_andThen)
open Grammar (Name callTree callSource)

/-- The data have arguments under names, each one under the name at its
position. -/
def RenderData.Holds
    (names : List Name) (arguments : List Json) (data : RenderData) : Prop :=
  List.Forall₂ (fun name argument => data.get? name.text = some argument) names
    arguments

namespace Evaluator

variable {evaluator : Evaluator} {scene : Scene}

/-- The last part of an expression is resolved with the values of its
arguments. -/
theorem evaluateParts_last
    {scopes : List (Dictionary Json)} {part : Part} {arguments : List Json}
    (started :
      evaluator.startArguments scopes part scene =
        (arguments.map fun argument => .ready (.ok argument), scene))
    (expression : Expression) (base : Option Json) :
    evaluator.evaluateParts scopes expression base [part] scene =
      (evaluator.resolvePart scopes expression part arguments base
        scene).1.andThen
        (fun settled scene => (.ready (.ok settled), scene))
        (evaluator.resolvePart scopes expression part arguments base
          scene).2 := by
  rw [evaluateParts, started]
  dsimp only
  rw [Completion.all_ready_values]
  dsimp only
  rw [Completion.andThen_ready_ok]
  simp only [List.isEmpty_nil, Bool.or_true, if_true]

/-- The name of an argument evaluates to what the data have under the name. -/
theorem evaluate_name
    {name : Name} {argument : Json}
    (held : scene.data.get? name.text = some argument) (origin : Origin) :
    evaluator.evaluate [] (name.expression origin) scene =
      (.ready (.ok (.value argument)), scene) := by
  have found : scene.data.get? (Part.property name.text).name = some argument :=
    held
  have looked :
      evaluator.resolvePart [] (name.expression origin) (.property name.text)
        [] none scene =
        (.ready (.ok (.value argument)), scene) := by
    rw [resolvePart, resolveFirst]
    dsimp only [Name.expression, Expression.path, Expression.qualifier]
    rw [lookupScopes]
    simp [Part.isMethod, found]
  have started :
      evaluator.startArguments [] (.property name.text) scene =
        (([] : List Json).map fun argument => .ready (.ok argument),
            scene) := by
    rw [startArguments]
    rfl
  rw [Name.expression, Expression.path] at looked
  rw [Name.expression, Expression.path, evaluate]
  dsimp only [Expression.literalValue?]
  rw [evaluateParts_last started, looked]
  rfl

theorem startAll_names
    {names : List Name} {arguments : List Json}
    (held : scene.data.Holds names arguments) (origin : Origin) :
    evaluator.startAll [] (names.map (Name.expression origin)) scene =
      (arguments.map fun argument => .ready (.ok argument), scene) := by
  induction held with
  | nil => rfl
  | cons first _ ih =>
      rw [List.map_cons, startAll, evaluate_name first]
      dsimp only
      rw [ih, Completion.map_ready]
      rfl

/-- A call settles to what the resolvers of the namespace settle to. -/
theorem driven_evaluate_call
    {names : List Name} {arguments : List Json}
    (held : scene.data.Holds names arguments)
    (origin : Origin) {bundle method : Name} {chain : Chain}
    (asked : evaluator.engine.namespaces.get? bundle.text = some chain) :
    (driven
      (evaluator.evaluate [] ((callTree bundle method names).value origin)
        scene)).1 =
      (driven (evaluator.ask ((callTree bundle method names).value origin)
        (evaluator.request
          (.method method.text (names.map (Name.expression origin))) arguments
          .null true)
        chain scene)).1 := by
  have started :
      evaluator.startArguments []
          (.method method.text (names.map (Name.expression origin))) scene =
        (arguments.map fun argument => .ready (.ok argument), scene) := by
    rw [startArguments, startAll_names held]
  have resolved :
      evaluator.resolvePart [] ((callTree bundle method names).value origin)
          (.method method.text (names.map (Name.expression origin))) arguments
            none scene =
        evaluator.ask ((callTree bundle method names).value origin)
          (evaluator.request
            (.method method.text (names.map (Name.expression origin))) arguments
            .null true) chain scene := by
    rw [Grammar.value_callTree, resolvePart, resolveFirst]
    dsimp only [Expression.path, Expression.qualifier]
    rw [asked]
  rw [← resolved, Grammar.value_callTree, Expression.path, evaluate]
  dsimp only [Expression.literalValue?]
  rw [evaluateParts_last started, driven_andThen, driveOn_same fun _ _ =>
    ⟨_, rfl⟩, driven]

/-- An answer of the first resolver that settles to a text is what a chain
settles to. -/
theorem driven_ask_cons
    {resolver : Resolver} {request : Request}
    (applies : resolver.applies request = true)
    {answer : Resolved Scene} {after : Scene}
    (said : resolver.resolve request scene = (some answer, after))
    {expression : Expression} {outcome : Option (Except EngineError String)}
    (text :
      ((answer.flatten expression
        evaluator.engine.config.unrestrictedAsyncValues).drive after).1 =
        outcome.map (Except.map .ofText))
    (rest : Chain) :
    (driven (evaluator.ask expression request (resolver :: rest) scene)).1 =
      outcome.map (Except.map .ofText) := by
  rw [ask, if_pos applies, said]
  dsimp only
  rw [driven_andThen]
  revert text
  generalize (answer.flatten expression _).drive after = settled
  rcases settled with ⟨settled, final⟩
  rintro rfl
  rcases outcome with _ | error | text
  case none => rfl
  case some.error => rfl
  case some.ok =>
    show (driven (Completion.ready _, final)).1 = _
    rw [driven, Completion.drive_ready]
    rfl

end Evaluator

/-- What a message ends in, called in a state: a fixed body in its text, and a
template in what its render ends in. -/
def Engine.messageOutcome
    (engine : Engine) (message : Message) (locale : Option String)
    (arguments : List Json)
    (state : EngineState) : Option (Except EngineError String) :=
  match message.body locale with
  | .constant text => some (.ok text)
  | .template id =>
    match state.registry.get id with
    | .error error => some (.error error)
    | .ok template =>
      Evaluator.outcome ⟨engine, engine.servicesIn state, .none⟩ template
        ⟨Engine.dataOf (message.data locale arguments), state⟩

namespace Bundle

variable {message : Message} {request : Request} {scene : Scene}
  {engine : Engine}

/-- The answer of a message with a template settles to the text of the template,
rendered with the arguments and the locale for data. -/
theorem drive_callMessage_template
    {id : String} (selected : message.body (sceneLocale scene) = .template id)
    {template : Template} (found : scene.engine.registry.get id = .ok template)
    (uninitialized : engine.initializers = [])
    {depth : Nat} (services : request.services = engine.services (depth + 1))
    (expression : Expression) (unrestricted : Bool) :
    (((callMessage message request scene).1.flatten expression
      unrestricted).drive
        (callMessage message request scene).2).1 =
      ((Evaluator.outcome ⟨engine, engine.services depth, .none⟩ template
        ⟨Engine.dataOf (message.data (sceneLocale scene) request.arguments),
          scene.engine⟩).map
          (Except.mapError (.handOn expression))).map (Except.map .ofText) := by
  rw [callMessage, selected]
  dsimp only
  rw [found]
  dsimp only
  rw [Resolved.drive_ofRender, services, Engine.services, Option.map_map,
    ← Engine.drive_renderNested engine (engine.services depth) uninitialized]
  rfl

variable {templates : Dictionary Template}
  {callees : String → Part → String → Prop}
  (callsOnly : engine.CallsOnly templates callees)
  (acyclic : Nesting.Acyclic templates callees)
  {state : EngineState}

include callsOnly acyclic

/-- The answer of a message settles to what the message ends in: rendered one
level deeper, a template ends alike, and its error is handed on as it is. -/
theorem drive_callMessage
    (agree : state.Agree templates scene.engine)
    (registered : ∀ id, message.body (sceneLocale scene) = .template id →
      id ∈ state.registry.ids)
    (services : request.services = engine.servicesIn state)
    (expression : Expression) (unrestricted : Bool) :
    (((callMessage message request scene).1.flatten expression
      unrestricted).drive
        (callMessage message request scene).2).1 =
      (engine.messageOutcome message (sceneLocale scene) request.arguments
        state).map
        (Except.map .ofText) := by
  rw [Engine.messageOutcome]
  cases selected : message.body (sceneLocale scene) with
  | constant text =>
      rw [callMessage, selected]
      dsimp only
      rw [Resolved.flatten, Completion.drive_ready]
      rfl
  | template id =>
      rcases Registry.exists_get_of_mem (registered id selected) with
        ⟨template, found⟩
      rcases engine.exists_depth state with ⟨depth, limit, deep⟩
      have stands : scene.engine.registry.get id = .ok template := by
        rw [← agree.registry, found]
      have entered :
          Scene.Agree templates
            ⟨Engine.dataOf (message.data (sceneLocale scene) request.arguments),
              state⟩
            ⟨Engine.dataOf (message.data (sceneLocale scene) request.arguments),
                scene.engine⟩ :=
        ⟨rfl, agree⟩
      rw [agree.registered] at deep
      -- The direct render starts at the full depth, the nested one a level
      -- below it.
      have same :=
        callsOnly.outcome_agree acyclic template (Nat.le_succ_of_le deep)
          deep entered
      rw [drive_callMessage_template selected stands callsOnly.uninitialized
        (services.trans limit),
        handOn_of_same same]
      dsimp only
      rw [found, limit]

/-- A template that calls a message ends in what the message ends in. -/
theorem outcome_call
    (present : state.registry.templates = templates)
    {bundle : Bundle} {qualifier method : Name} {rest : Chain}
    (asked :
      engine.namespaces.get? qualifier.text =
        some (bundle.namespaceResolver.resolver :: rest))
    (known : bundle.byMethod? method.text = some message) {data : RenderData}
    (registered :
      ∀ id, message.body (sceneLocale ⟨data, state⟩) = .template id →
        id ∈ state.registry.ids)
    {names : List Name} {arguments : List Json}
    (held : data.Holds names arguments)
    (counted : arguments.length = message.parameters.length)
    {origin : Origin} {template : Template}
    (single : template.nodes =
      [.placeholder ((callTree qualifier method names).value origin)])
    (suppliers : Suppliers) :
    Evaluator.outcome ⟨engine, engine.servicesIn state, suppliers⟩ template
      ⟨data, state⟩ =
      engine.messageOutcome message (sceneLocale ⟨data, state⟩) arguments
        state := by
  refine Evaluator.outcome_placeholder callsOnly.unmapped single ?_
  let expression := (callTree qualifier method names).value origin
  -- What the start of a render writes into the journal changes neither data nor
  -- registry.
  let entered : Scene :=
    (Scene.log (.renderingTemplate template.id) ⟨data, state⟩).log
      (.resolveStarted expression)
  have values : entered.data.Holds names arguments := held
  rw [Evaluator.driven_evaluate_call values origin asked]
  refine Evaluator.driven_ask_cons rfl (resolve_known known counted) ?_ rest
  have agree : state.Agree templates entered.engine := ⟨rfl, present⟩
  exact drive_callMessage callsOnly acyclic agree registered rfl _ _

end Bundle

namespace Catalog

variable {catalog : Catalog}

/-- The direct call of a message renders it in an instance of its own. -/
theorem message_eq_messageOutcome
    (uninitialized : catalog.engine.initializers = []) {bundle : Bundle}
    (named : catalog.bundle? bundle.name = some bundle) {message : Message}
    (keyed : bundle.byKey? message.key = some message) {arguments : List Json}
    (counted : arguments.length = message.parameters.length)
    (locale : Option String) (state : EngineState) :
    (catalog.message bundle.name locale message.key arguments state).1 =
      (((catalog.engine.messageOutcome message locale arguments state).getD
        (.error Engine.stuck)).mapError .afterWaiting).mapError .engine := by
  rw [Catalog.message, named]
  dsimp only
  rw [keyed]
  dsimp only
  rw [if_neg (not_not.mpr counted.symm), Engine.messageOutcome]
  cases message.body locale with
  | constant text => rfl
  | template id =>
      dsimp only
      rw [renderMessage, Registry.get]
      cases state.registry.templates.get? id with
      | none => rfl
      | some template =>
          dsimp only
          rw [Engine.instantiate, uninitialized]
          dsimp only [List.foldl_nil]
          rw [Engine.renderBlocking_eq, Instance.suppliers_new]
          rfl

variable {definitions : List BundleDefinition}
  {sources : List (String × String)}
  {resolvers : List Resolver} {others : List NamespaceResolver}
  {config : Config}
  {before after : EngineState}

/--
The direct call of a message and its call from a template agree.  The engine has
built-in resolvers, the namespaces of the bundles, and other namespaces whose
resolvers render known templates; no other resolver answers in the namespace of
the bundle, and no template leads back to itself.  Then the template of a single
placeholder that calls the message by its method is rendered, on every instance
that has the arguments under the names and the locale under its key, to the text
or the error that the catalog gives for the key of the message.
-/
theorem message_eq_call
    (distinct : ∀ definition ∈ definitions,
      (definition.messages.map Prod.fst).Nodup)
    (built :
      build definitions sources (.build resolvers others [] [] config) before =
        (.ok catalog, after))
    (builtIn : ∀ resolver ∈ resolvers, resolver ∈ Resolver.BuiltIn.all)
    {bundle : Bundle} (member : bundle ∈ catalog.bundles)
    (apart : ∀ one ∈ others, one.qualifier ≠ bundle.name) {message : Message}
    (among : message ∈ bundle.messages) {state : EngineState}
    (registered : ∀ id ∈ after.registry.ids, id ∈ state.registry.ids)
    {elsewhere : String → Part → String → Prop}
    (known : ∀ one ∈ others, ∀ part,
      one.resolver.RendersOnly state.registry.templates part fun template =>
        ∃ id, elsewhere one.qualifier part id ∧
          state.registry.templates.get? id = some template)
    (acyclic :
      Nesting.Acyclic state.registry.templates (catalog.callees elsewhere))
    {method : Name} (called : method.text = message.method) {names : List Name}
    (properties : ∀ name ∈ names, name.IsProperty) {arguments : List Json}
    (counted : arguments.length = message.parameters.length)
    (locale : Option String) (id : String) :
    ∃ nodes,
      TemplateNode.parse id
        (callSource bundle.name message.method (names.map Name.text)) =
          .ok nodes ∧
      ∀ target : Instance,
        target.template.nodes = nodes →
        target.bindings.data.Holds names arguments →
        Bundle.sceneLocale ⟨target.bindings.data, state⟩ = locale →
          (catalog.message bundle.name locale message.key arguments state).1 =
            (catalog.engine.renderBlocking target state).1.mapError
              .engine := by
  rcases Grammar.exists_name_of_isBundleName
    (isBundleName_of_mem built distinct member)
    with ⟨qualifier, spelled, leads⟩
  rcases exists_chain built distinct member apart with ⟨rest, asked⟩
  have callsOnly := callsOnly built builtIn known
  have named := bundle?_of_mem built distinct member
  have keyed := byKey?_of_mem built distinct member among
  have answers := byMethod?_of_mem built distinct member among
  rw [← spelled] at asked
  rw [← called] at answers
  rw [message_eq_messageOutcome callsOnly.uninitialized named keyed
    counted, ← spelled, ← called]
  refine ⟨_, Grammar.parse_callSource leads properties id, ?_⟩
  rintro target single held rfl
  have bodies :
      ∀ body, message.body (Bundle.sceneLocale ⟨target.bindings.data, state⟩) =
        .template body →
        body ∈ state.registry.ids :=
    fun body selected =>
      registered body (mem_ids_of_body built distinct member among selected)
  rw [Engine.renderBlocking_eq,
    Bundle.outcome_call callsOnly acyclic rfl asked answers bodies held
      counted single]

/-- A message that calls another one, which has a template of its own for one
locale. -/
def welcomeDefinitions : List BundleDefinition :=
  [{ bundle := "shop", messages := [
      ("greet", { template := "hello\x7d", parameters := ["name"] }),
      ("welcome",
        { template := "\x7bshop:greet(name)\x7d", parameters := ["name"] })] },
    { bundle := "shop", locale := some "de", localized := true,
      messages := [("greet", { template := "hallo\x7d" })] }]

def welcomeBundle : Bundle :=
  ⟨"shop", none, ["de"],
    [⟨"greet", "greet", ["name"], .template "shop_greet",
      [("de", .template "shop_de_greet")]⟩,
      ⟨"welcome", "welcome", ["name"], .template "shop_welcome", []⟩]⟩

/-- The template of a call with a name. -/
def welcomeTemplate (id generatedId : String) : Template :=
  ⟨id, generatedId,
    [.placeholder
      (.path (some "shop")
        [.method "greet" [.path none [.property "name"] ⟨id, 1⟩]] ⟨id, 1⟩)]⟩

/-- The state after the catalog has been built. -/
def welcomeState : EngineState :=
  ⟨⟨[("shop_de_greet", ⟨"shop_de_greet", "3", [.text "hallo\x7d"]⟩),
      ("shop_greet", ⟨"shop_greet", "1", [.text "hello\x7d"]⟩),
      ("shop_welcome", welcomeTemplate "shop_welcome" "2")], 3⟩,
    [.builtBundles 1 3, .registeredTemplate "shop_de_greet",
      .registeredTemplate "shop_welcome",
      .registeredTemplate "shop_greet"]⟩

def welcomeCatalog : Catalog :=
  ⟨Engine.addNamespace (.build [] [] [] [] {}) welcomeBundle.namespaceResolver,
    [welcomeBundle]⟩

/-- The name of an argument. -/
def guestName : Name :=
  ⟨"name".toList, by decide, List.all_eq_true.mp rfl⟩

theorem guestName_isProperty : guestName.IsProperty := by
  refine ⟨Grammar.stops_cons (by decide), ?_⟩
  rintro word same
  have characters := congrArg Name.characters same
  cases word <;> exact absurd characters (by decide)

theorem build_welcome :
    build welcomeDefinitions [] (.build [] [] [] [] {}) .empty =
      (.ok welcomeCatalog, welcomeState) := by
  have assembled :
      Assembly.ofDefinitions welcomeDefinitions =
        .ok ⟨[welcomeBundle], [("shop_greet", "hello\x7d"),
          ("shop_welcome", "\x7bshop:greet(name)\x7d"),
              ("shop_de_greet", "hallo\x7d")]⟩ := by
    cbv
  have english : TemplateNode.parse "shop_greet" "hello\x7d" =
      .ok [.text "hello\x7d"] := by
    cbv
  have german : TemplateNode.parse "shop_de_greet" "hallo\x7d" =
      .ok [.text "hallo\x7d"] := by
    cbv
  have call :
      TemplateNode.parse "shop_welcome" (callSource "shop" "greet" ["name"]) =
        .ok (welcomeTemplate "shop_welcome" "2").nodes := by
    let shop : Name := ⟨"shop".toList, by decide, List.all_eq_true.mp rfl⟩
    let greet : Name := ⟨"greet".toList, by decide, List.all_eq_true.mp rfl⟩
    have leads : shop.Leads := Grammar.stops_cons (by decide)
    have parsed : TemplateNode.parse "shop_welcome"
        (callSource shop.text greet.text _) = _ :=
      Grammar.parse_callSource leads
        (List.forall_mem_singleton.mpr guestName_isProperty) _
    rw [Grammar.value_callTree] at parsed
    exact parsed
  have source : callSource "shop" "greet" ["name"] =
      "\x7bshop:greet(name)\x7d" := by
    decide
  rw [source] at call
  rw [build, assembled]
  simp only [List.append_nil, EngineState.registerAll, EngineState.register,
    Registry.register, Registry.issue, Registry.parseAs, english, german, call]
  rfl

theorem welcome_acyclic :
    Nesting.Acyclic welcomeState.registry.templates
      (welcomeCatalog.callees fun _ _ _ => False) := by
  refine Nesting.acyclic_of_rank (fun template =>
    if template.id = "shop_welcome" then 1 else 0) ?_
  rintro template member callee
    ⟨expression, inside, inner, within, qualifier, part, rest, id, named, parts,
      calls, found⟩
  have welcomes : template = welcomeTemplate "shop_welcome" "2" := by
    rcases List.mem_cons.mp member with rfl | member
    · cases inside
    · rcases List.mem_cons.mp member with rfl | member
      · cases inside
      · exact List.mem_singleton.mp member
  subst welcomes
  rcases List.mem_singleton.mp inside with rfl
  rcases List.mem_cons.mp within with rfl | within
  · cases parts
    rcases calls with
      ⟨bundle, among, -, message, known, locale, body⟩ | impossible
    · rcases List.mem_singleton.mp among with rfl
      cases known
      have greeting : id = "shop_greet" ∨ id = "shop_de_greet" := by
        cases locale with
        | none => exact .inl (Body.template.inj body).symm
        | some spoken =>
            rw [Message.body, Option.bind_some, Dictionary.get?,
              List.lookup_cons] at body
            cases german : spoken == "de" with
            | false =>
                rw [german] at body
                exact .inl (Body.template.inj body).symm
            | true =>
                rw [german] at body
                exact .inr (Body.template.inj body).symm
      rcases greeting with rfl | rfl <;> cases found <;> decide
    · exact impossible.elim
  · rcases List.mem_singleton.mp within with rfl
    cases named

/-- The message that calls another one is rendered alike in both ways, for the
locale as well. -/
theorem welcome_eq_call :
    ∃ nodes, TemplateNode.parse "page" "\x7bshop:welcome(name)\x7d" =
      .ok nodes ∧
      (welcomeCatalog.message "shop" (some "de") "welcome"
        [.string "Ada"] welcomeState).1 =
        (welcomeCatalog.engine.renderBlocking
          { template := ⟨"page", "4", nodes⟩,
            bindings :=
  Bindings.setAll [("_locale", .string "de"), ("name", .string "Ada")] {} }
          welcomeState).1.mapError .engine := by
  let welcome : Name := ⟨"welcome".toList, by decide, List.all_eq_true.mp rfl⟩
  rcases message_eq_call (by decide) build_welcome nofun
      List.mem_cons_self nofun
      (List.mem_cons_of_mem _ List.mem_cons_self) (fun _ listed =>
        listed) nofun welcome_acyclic
      (show welcome.text = "welcome" by decide)
      (List.forall_mem_singleton.mpr guestName_isProperty)
      (show [Json.string "Ada"].length = 1 from rfl) (some "de") "page"
    with ⟨nodes, parsed, same⟩
  have source : callSource "shop" "welcome" ["name"] =
      "\x7bshop:welcome(name)\x7d" := by
    decide
  rw [← source]
  exact ⟨nodes, parsed, same _ rfl (.cons rfl .nil) rfl⟩

end Catalog

end Phrasebook
