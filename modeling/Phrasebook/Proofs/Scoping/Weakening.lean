import Phrasebook.Proofs.Scoping.Level

/-!
# Scopes and evaluation

An evaluation uses the scopes around it, and the namespaces, bindings and data
it can reach, only to resolve parts, those of its expression and those of the
argument expressions inside it, at any depth.  Whatever resolves these parts the
same evaluates the expression the same.

A namespaced first part is answered by the chain of its namespace and a later
part by the general chain, whatever the scopes and all else are.  And one more
scope, anywhere between the others, changes nothing when it binds none of the
names that are looked up and the resolvers decline its object.
-/

namespace Phrasebook

open Completion (driven driven_ready)

/-- A resolver has no answer to a request and does nothing. -/
def Resolver.Declines (resolver : Resolver) (request : Request) : Prop :=
  resolver.applies request = true → ∀ scene, resolver.resolve request scene =
    (none, scene)

namespace Evaluator

variable {evaluator evaluator' : Evaluator}
  {scopes scopes' : List (Dictionary Json)} {expression : Expression}

section Congruence

/-- The parts of an expression are resolved the same, unless it is a literal,
which is not resolved. -/
def ResolvesSame
    (evaluator evaluator' : Evaluator) (scopes scopes' : List (Dictionary Json))
    (expression : Expression) : Prop :=
  expression.literalValue? = none →
    (∀ part, expression.parts.head? = some part → ∀ arguments,
      evaluator.resolvePart scopes expression part arguments none =
        evaluator'.resolvePart scopes' expression part arguments none) ∧
    ∀ part arguments base,
      evaluator.resolvePart scopes expression part arguments (some base) =
        evaluator'.resolvePart scopes' expression part arguments (some base)

mutual

/-- An expression is evaluated the same when its parts and those of the
expressions inside it are resolved the same. -/
theorem evaluate_congr
    (expression : Expression)
    (same : ∀ inner ∈ expression.withArguments,
      ResolvesSame evaluator evaluator' scopes scopes' inner) :
    evaluator.evaluate scopes expression =
      evaluator'.evaluate scopes' expression := by
  match expression with
  | .mk qualifier parts constant origin =>
      rw [Expression.withArguments] at same
      rcases List.forall_mem_cons.mp same with ⟨own, inside⟩
      cases literal :
          (Expression.mk qualifier parts constant origin).literalValue? with
      | some value => rw [evaluate_literal literal, evaluate_literal literal]
      | none =>
          rw [evaluate_path literal, evaluate_path literal]
          refine evaluateParts_congr _ none parts ?_ (own literal).2 inside
          rintro part rest rfl
          exact (own literal).1 part rfl

/-- The rest of the parts is evaluated alike once the first of them is resolved
alike. -/
theorem evaluateParts_congr
    (expression : Expression) (base : Option Json) (parts : List Part)
    (first : ∀ part rest, parts = part :: rest → ∀ arguments,
      evaluator.resolvePart scopes expression part arguments base =
        evaluator'.resolvePart scopes' expression part arguments base)
    (later : ∀ part arguments base,
      evaluator.resolvePart scopes expression part arguments (some base) =
        evaluator'.resolvePart scopes' expression part arguments (some base))
    (same : ∀ inner ∈ Expression.argumentsOfParts parts,
      ResolvesSame evaluator evaluator' scopes scopes' inner) :
    evaluator.evaluateParts scopes expression base parts =
      evaluator'.evaluateParts scopes' expression base parts := by
  match parts with
  | [] => rw [evaluateParts_nil, evaluateParts_nil]
  | part :: rest =>
      have split :
          (∀ inner ∈ Expression.argumentsOfAll part.arguments,
            ResolvesSame evaluator evaluator' scopes scopes' inner) ∧
          ∀ inner ∈ Expression.argumentsOfParts rest,
            ResolvesSame evaluator evaluator' scopes scopes' inner := by
        cases part with
        | property name => exact ⟨List.forall_mem_nil _, same⟩
        | method name arguments => exact List.forall_mem_append.mp same
      have others (settled : Settled) :
          evaluator.goOn scopes expression rest settled =
              evaluator'.goOn scopes' expression rest settled := by
        funext scene
        rw [goOn, goOn]
        rw [evaluateParts_congr expression (some settled.toValue) rest
          (fun part _ _ arguments => later part arguments _) later split.2]
      rw [evaluateParts_cons, evaluateParts_cons,
        partPrograms_congr part split.1]
      congr 1
      funext values
      rw [first part rest rfl values, funext others]

theorem partPrograms_congr
    (part : Part)
    (same : ∀ inner ∈ Expression.argumentsOfAll part.arguments,
      ResolvesSame evaluator evaluator' scopes scopes' inner) :
    evaluator.argumentPrograms scopes part.arguments =
      evaluator'.argumentPrograms scopes' part.arguments := by
  match part with
  | .property _ => rfl
  | .method _ arguments => exact argumentPrograms_congr arguments same

theorem argumentPrograms_congr
    (arguments : List Expression)
    (same : ∀ inner ∈ Expression.argumentsOfAll arguments,
      ResolvesSame evaluator evaluator' scopes scopes' inner) :
    evaluator.argumentPrograms scopes arguments =
      evaluator'.argumentPrograms scopes' arguments := by
  match arguments with
  | [] => rfl
  | argument :: rest =>
      rw [Expression.argumentsOfAll] at same
      rcases List.forall_mem_append.mp same with ⟨inside, others⟩
      rw [argumentPrograms, argumentPrograms, List.map_cons, List.map_cons,
        evaluate_congr argument inside]
      exact congrArg _ (argumentPrograms_congr rest others)

end

end Congruence

section Resolution

variable {part : Part} {arguments : List Json}

/-- Evaluators that ask resolvers in the same way, whatever resolvers, bindings
and data they have. -/
structure AsksAs (evaluator evaluator' : Evaluator) : Prop where
  services : evaluator.services = evaluator'.services
  unrestricted : evaluator.engine.config.unrestrictedAsyncValues =
    evaluator'.engine.config.unrestrictedAsyncValues

theorem AsksAs.ask
    (asks : AsksAs evaluator evaluator') (expression : Expression) (part : Part)
    (arguments : List Json) (base : Json) (topLevel : Bool) (chain : Chain) :
    evaluator.ask expression
      (evaluator.request part arguments base topLevel) chain =
      evaluator'.ask expression
        (evaluator'.request part arguments base topLevel) chain := by
  rw [request, request, asks.services]
  induction chain with
  | nil =>
      funext scene
      rw [Evaluator.ask, Evaluator.ask]
  | cons resolver rest ih =>
      funext scene
      rw [Evaluator.ask, Evaluator.ask, ih, asks.unrestricted]

/-- A namespaced first part is asked of the chain of its namespace. -/
theorem resolveFirst_registered
    {qualifier : String} {chain : Chain}
    (namespaced : expression.qualifier = some qualifier)
    (registered : evaluator.engine.namespaces.get? qualifier = some chain) :
    evaluator.resolveFirst scopes expression part arguments =
      evaluator.ask expression (evaluator.request part arguments .null true)
        chain := by
  funext scene
  rw [resolveFirst, namespaced]
  dsimp only
  rw [registered]

theorem resolveFirst_unregistered
    {qualifier : String} (namespaced : expression.qualifier = some qualifier)
    (unregistered : evaluator.engine.namespaces.get? qualifier = none) :
    evaluator.resolveFirst scopes expression part arguments =
      fun scene =>
        (failed (.namespaceUnresolved qualifier) expression, scene) := by
  funext scene
  rw [resolveFirst, namespaced]
  dsimp only
  rw [unregistered]

theorem resolveFirst_unqualified (unqualified : expression.qualifier = none) :
    evaluator.resolveFirst scopes expression part arguments =
      evaluator.lookupScopes expression part arguments scopes := by
  funext scene
  rw [resolveFirst, unqualified]

/-- A namespaced first part is resolved the same in all scopes and by all
evaluators with the same chain for its namespace. -/
theorem AsksAs.resolveFirst
    (asks : AsksAs evaluator evaluator') {qualifier : String}
    (namespaced : expression.qualifier = some qualifier)
    (same : evaluator.engine.namespaces.get? qualifier =
      evaluator'.engine.namespaces.get? qualifier) :
    evaluator.resolveFirst scopes expression part arguments =
      evaluator'.resolveFirst scopes' expression part arguments := by
  cases registered : evaluator.engine.namespaces.get? qualifier with
  | none =>
      rw [resolveFirst_unregistered namespaced registered,
        resolveFirst_unregistered namespaced (same.symm.trans registered)]
  | some chain =>
      rw [resolveFirst_registered namespaced registered,
        resolveFirst_registered namespaced (same.symm.trans registered),
          asks.ask]

/-- A later part is resolved the same in all scopes and by all evaluators with
the same general resolvers. -/
theorem AsksAs.resolvePart
    (asks : AsksAs evaluator evaluator')
    (same : evaluator.engine.resolvers = evaluator'.engine.resolvers)
    (base : Json) :
    evaluator.resolvePart scopes expression part arguments (some base) =
      evaluator'.resolvePart scopes' expression part arguments (some base) := by
  funext scene
  rw [Evaluator.resolvePart, Evaluator.resolvePart, asks.ask, same]

end Resolution

section Weakening

variable {part : Part} {arguments : List Json} {bindings : Dictionary Json}
  {inner outer : List (Dictionary Json)}

theorem ask_declined
    {request : Request} {chain : Chain}
    (declined : ∀ resolver ∈ chain, resolver.Declines request) (scene : Scene) :
    evaluator.ask expression request chain scene =
      (.ready (.ok .notFound), scene) := by
  induction chain with
  | nil => rw [ask]
  | cons resolver rest ih =>
      rcases List.forall_mem_cons.mp declined with ⟨own, others⟩
      rw [ask]
      split_ifs with applies
      · rw [own applies]
        exact ih others
      · exact ih others

/-- All resolvers decline the object of a scope at the top level. -/
def Ignores (evaluator : Evaluator) (bindings : Dictionary Json) : Prop :=
  ∀ resolver ∈ evaluator.engine.resolvers, ∀ part arguments,
    resolver.Declines (evaluator.request part arguments (.object bindings) true)

/-- Built-in resolvers decline whatever is asked at the top level. -/
theorem ignores_of_builtIn
    (builtIn : ∀ resolver ∈ evaluator.engine.resolvers,
      resolver ∈ Resolver.BuiltIn.all)
    (bindings : Dictionary Json) : evaluator.Ignores bindings := by
  intro resolver member part arguments applies
  rw [Resolver.applies_builtIn (builtIn resolver member) rfl] at applies
  cases applies

/-- A scope without a binding of the name, and whose object is declined, is
passed over. -/
theorem lookupScopes_insert
    (ignored : evaluator.Ignores bindings)
    (absent : (if part.isMethod then none else bindings.get? part.name) =
      none) :
    evaluator.lookupScopes expression part arguments
      (inner ++ bindings :: outer) =
      evaluator.lookupScopes expression part arguments (inner ++ outer) := by
  induction inner with
  | nil =>
      rw [List.nil_append, List.nil_append, lookupScopes_cons absent]
      funext scene
      rw [Program.bind, ask_declined fun resolver member =>
        ignored resolver member part arguments]
      rfl
  | cons first inner ih =>
      funext scene
      rw [List.cons_append, List.cons_append, lookupScopes, lookupScopes, ih]

/-- One more scope changes nothing for an expression that looks none of its
names up. -/
theorem evaluate_insert
    (ignored : evaluator.Ignores bindings)
    (unread : ∀ one ∈ expression.withArguments, ∀ name, one.Reads name →
      bindings.get? name = none) :
    evaluator.evaluate (inner ++ bindings :: outer) expression =
      evaluator.evaluate (inner ++ outer) expression := by
  apply evaluate_congr
  intro one member path
  refine ⟨fun part head arguments => ?_, fun part arguments base =>
    AsksAs.resolvePart ⟨rfl, rfl⟩ rfl base⟩
  show evaluator.resolveFirst _ one part arguments =
    evaluator.resolveFirst _ one part arguments
  cases qualified : one.qualifier with
  | some qualifier => exact AsksAs.resolveFirst ⟨rfl, rfl⟩ qualified rfl
  | none =>
      rw [resolveFirst_unqualified qualified,
        resolveFirst_unqualified qualified]
      apply lookupScopes_insert ignored
      cases part with
      | property name => exact unread one member name ⟨path, qualified, head⟩
      | method name arguments => rfl

end Weakening

/--
How the parts of expressions are looked up.

A first part without namespace ends with what the first level gives that finds
something or fails, from the innermost scope outwards to the root.  A namespaced
one is asked of the chain of its namespace with base null, in all scopes, and
fails when there is none; all else that an evaluator has makes no difference.  A
later part is asked of the general chain, and again all else makes no
difference.  The arguments of a part are evaluated in the scopes of the part,
joined, and then the part is resolved.  And one more scope between the others,
which binds none of the names that an expression looks up at any depth and whose
object the resolvers decline, does not change its evaluation.
-/
theorem parts_looked_up (evaluator : Evaluator) :
    (∀ scopes expression part arguments scene outcome after,
      expression.qualifier = none →
      (driven (evaluator.resolveFirst scopes expression part arguments scene) =
        (some outcome, after) ↔
        ∃ inner level outer middle, levels scopes = inner ++ level :: outer ∧
          evaluator.Passes expression part arguments inner scene middle ∧
          evaluator.Gives expression part arguments level middle outcome after ∧
          (outcome = .ok .notFound → outer = []))) ∧
    (∀ scopes expression part arguments qualifier,
      expression.qualifier = some qualifier →
      (∀ chain, evaluator.engine.namespaces.get? qualifier = some chain →
        evaluator.resolveFirst scopes expression part arguments =
          evaluator.ask expression (evaluator.request part arguments .null true)
            chain) ∧
      (evaluator.engine.namespaces.get? qualifier = none → ∀ scene,
        evaluator.resolveFirst scopes expression part arguments scene =
          (.ready
            (.error
              (.render (.of (.namespaceUnresolved qualifier) expression))),
              scene)) ∧
      ∀ evaluator' scopes', AsksAs evaluator evaluator' →
        evaluator.engine.namespaces.get? qualifier =
          evaluator'.engine.namespaces.get? qualifier →
          evaluator.resolveFirst scopes expression part arguments =
            evaluator'.resolveFirst scopes' expression part arguments) ∧
    (∀ scopes expression part arguments base,
      evaluator.resolvePart scopes expression part arguments (some base) =
        evaluator.ask expression (evaluator.request part arguments base false)
          evaluator.engine.resolvers ∧
      ∀ evaluator' scopes', AsksAs evaluator evaluator' →
        evaluator.engine.resolvers = evaluator'.engine.resolvers →
        evaluator.resolvePart scopes expression part arguments (some base) =
          evaluator'.resolvePart scopes' expression part arguments
            (some base)) ∧
    (∀ scopes expression, expression.literalValue? = none →
      evaluator.evaluate scopes expression =
        evaluator.evaluateParts scopes expression none expression.parts ∧
      ∀ base part rest,
        evaluator.evaluateParts scopes expression base (part :: rest) =
        (Program.joinEach
          (part.arguments.map fun argument =>
            Program.map Settled.toValue
              (evaluator.evaluate scopes argument))).bind
            fun values =>
              Program.bind
                (match base with
                  | none => evaluator.resolveFirst scopes expression part values
                  | some base =>
                      evaluator.resolvePart scopes expression part values
                        (some base))
                (evaluator.goOn scopes expression rest)) ∧
    ∀ inner outer bindings expression, evaluator.Ignores bindings →
      (∀ one ∈ expression.withArguments, ∀ name, one.Reads name →
        bindings.get? name = none) →
        evaluator.evaluate (inner ++ bindings :: outer) expression =
          evaluator.evaluate (inner ++ outer) expression := by
  refine ⟨?_, ?_, ?_, ?_, ?_⟩
  · intro scopes expression part arguments scene outcome after unqualified
    rw [resolveFirst_unqualified unqualified]
    exact driven_lookupScopes_iff
  · intro scopes expression part arguments qualifier namespaced
    refine ⟨
      fun chain registered => resolveFirst_registered namespaced registered,
      fun unregistered scene => ?_, ?_⟩
    · rw [resolveFirst_unregistered namespaced unregistered]
      rfl
    · exact fun evaluator' scopes' asks same =>
        asks.resolveFirst namespaced same
  · intro scopes expression part arguments base
    exact ⟨rfl, fun evaluator' scopes' asks same => asks.resolvePart same base⟩
  · intro scopes expression path
    refine ⟨evaluate_path path scopes, fun base part rest => ?_⟩
    rw [evaluateParts_cons]
    cases base <;> rfl
  · exact fun inner outer bindings expression ignored unread =>
      evaluate_insert ignored unread

/-- The evaluator of the built-in resolvers. -/
def builtInEvaluator : Evaluator :=
  ⟨.build Resolver.BuiltIn.all [] [] [] {},
    ⟨{}, fun _ _ state => (.ready (.ok ""), state)⟩, .none⟩

/-- The name x, perhaps in a namespace. -/
def nameX (qualifier : Option String) : Expression :=
  .path qualifier [.property "x"] ⟨"t", 1⟩

/-- A root with a value of x. -/
def sceneX : Scene :=
  ⟨RenderData.empty.set "x" (.string "outer"), .empty⟩

/-- A resolver that registers x while it is asked, and has no answer. -/
def registeringEvaluator : Evaluator where
  engine := {
    resolvers := [{
      resolve := fun _ scene =>
        (none, { scene with data := scene.data.setComputed "x" "late" }) }]
    namespaces := []
    mappers := []
    initializers := []
    config := {} }
  services := builtInEvaluator.services
  suppliers := fun name _ _ _ scene => (.value (.string name), scene)

/-- A scope in which x is bound to null, inside a root with a value of x and
around a scope without x: the null is found, the inner scope makes no
difference, and x in a namespace fails.  And a binding that is registered when a
scope is asked for x is found at the root. -/
theorem nameX_bound_to_null :
    driven (builtInEvaluator.resolveFirst [[("y", .string "inner")],
      [("x", .null)]] (nameX none) (.property "x") []
        sceneX) = (some (.ok (.value .null)), sceneX) ∧
      builtInEvaluator.evaluate [[("y", .string "inner")], [("x", .null)]]
        (nameX none) =
        builtInEvaluator.evaluate [[("x", .null)]] (nameX none) ∧
      builtInEvaluator.resolveFirst [[("x", .null)]] (nameX (some "n"))
        (.property "x") [] sceneX =
        (.ready
          (.error
            (.render (.of (.namespaceUnresolved "n") (nameX (some "n"))))),
            sceneX) ∧
      ∃ after,
        driven (registeringEvaluator.resolveFirst [[("y", .null)]] (nameX none)
          (.property "x") [] default) =
        (some (.ok (.value (.string "late"))), after) := by
  rcases parts_looked_up builtInEvaluator with
    ⟨levelled, namespaced, -, -, weakening⟩
  have ignored (bindings : Dictionary Json) :
      builtInEvaluator.Ignores bindings :=
    ignores_of_builtIn (fun _ member => List.mem_mergeSort.mp member) bindings
  refine ⟨?_, ?_, ?_, ?_⟩
  · have nothing : builtInEvaluator.Gives (nameX none) (.property "x") []
        (.scope [("y", .string "inner")]) sceneX
        (.ok .notFound) sceneX := by
      refine .asked (.inr rfl) ?_
      rw [ask_declined fun resolver member => ignored _ resolver member _ _,
        driven_ready]
    exact (levelled _ _ _ _ _ _ _ rfl).mpr
      ⟨_, .scope [("x", .null)], [.root], sceneX, rfl, .cons nothing .nil,
        .bound rfl rfl, nofun⟩
  · refine weakening [] _ _ _ (ignored _) ?_
    rintro one member name ⟨-, -, read⟩
    rcases List.mem_singleton.mp member with rfl
    cases read
    rfl
  · exact (namespaced _ _ _ _ _ rfl).2.1 rfl sceneX
  · have passes :
        registeringEvaluator.Gives (nameX none) (.property "x") []
          (.scope [("y", .null)]) default (.ok .notFound)
          { (default : Scene) with
            data := RenderData.empty.setComputed "x" "late" } :=
      .asked (.inr rfl) rfl
    exact ⟨_, ((parts_looked_up registeringEvaluator).1 _ _ _ _ _ _ _ rfl).mpr
      ⟨_, .root, [], _, rfl, .cons passes .nil,
        .computed rfl rfl rfl rfl, nofun⟩⟩

end Evaluator

end Phrasebook
