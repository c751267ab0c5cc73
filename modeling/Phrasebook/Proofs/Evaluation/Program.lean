import Phrasebook.Engine.Render
import Phrasebook.Proofs.Completion.Program

/-!
# Evaluations as programs

Evaluating an expression is a program, put together from those of its parts: the
arguments of a part are joined, then the part is resolved, and then come the
parts after it.  A lookup asks the resolvers of one scope and then goes on to
the enclosing one.
-/

namespace Phrasebook

/-- The expression looks a name up in the data of its render. -/
def Expression.Reads (key : String) (expression : Expression) : Prop :=
  expression.literalValue? = none ∧ expression.qualifier = none ∧
    expression.parts.head? = some (.property key)

/-- Built-in resolvers do not apply to the first part of an expression. -/
theorem Resolver.applies_builtIn
    {resolver : Resolver} (builtIn : resolver ∈ BuiltIn.all) {request : Request}
    (first : request.topLevel = true) : resolver.applies request = false := by
  simp only [BuiltIn.all, List.mem_cons, List.not_mem_nil, or_false] at builtIn
  rcases builtIn with rfl | rfl | rfl | rfl
  · simp [BuiltIn.objects, ofValue, BuiltIn.asksObject, first]
  · simp [BuiltIn.arrays, ofValue, BuiltIn.asksArray, first]
  · simp [BuiltIn.texts, ofValue, BuiltIn.asksText, first]
  · simp [BuiltIn.logic, ofValue, first]

namespace Evaluator

variable {evaluator : Evaluator} {expression : Expression}

section FirstParts

variable {part : Part} {arguments : List Json} {scene : Scene}

/-- At the root a method is asked of the resolvers, whatever the data. -/
theorem lookupScopes_method (method : part.isMethod = true) :
    evaluator.lookupScopes expression part arguments [] =
      evaluator.ask expression (evaluator.request part arguments .null true)
        evaluator.engine.resolvers := by
  funext scene
  rw [lookupScopes, method]
  rfl

theorem lookupScopes_explicit
    {value : Json} (property : part.isMethod = false)
    (found : scene.data.get? part.name = some value) :
    evaluator.lookupScopes expression part arguments [] scene =
      (.ready (.ok (.value value)), scene) := by
  simp [lookupScopes, property, found]

theorem lookupScopes_bound
    {cell : Cell} (property : part.isMethod = false)
    (absent : scene.data.get? part.name = none)
    (bound : scene.data.cell? part.name = some cell) :
    evaluator.lookupScopes expression part arguments [] scene =
      evaluator.lookupComputed expression cell scene := by
  simp [lookupScopes, property, absent, bound]

/-- At the root resolvers are asked for a property that is neither explicit nor
bound. -/
theorem lookupScopes_unbound
    (property : part.isMethod = false)
    (absent : scene.data.get? part.name = none)
    (unbound : scene.data.cell? part.name = none) :
    evaluator.lookupScopes expression part arguments [] scene =
      evaluator.ask expression (evaluator.request part arguments .null true)
        evaluator.engine.resolvers
        scene := by
  simp [lookupScopes, property, absent, unbound]

/-- A lookup in an enclosing scope that has no binding of the name. -/
theorem lookupScopes_cons
    {bindings : Dictionary Json} {outer : List (Dictionary Json)}
    (absent : (if part.isMethod then none else bindings.get? part.name) =
      none) :
    evaluator.lookupScopes expression part arguments (bindings :: outer) =
      Program.bind
        (evaluator.ask expression
          (evaluator.request part arguments (.object bindings) true)
          evaluator.engine.resolvers)
        fun settled scene =>
          if settled.isNotFound
            then evaluator.lookupScopes expression part arguments outer scene
          else (.ready (.ok settled), scene) := by
  funext scene
  rw [lookupScopes, absent]
  rfl

end FirstParts

section Expressions

/-- The programs of some argument expressions. -/
def argumentPrograms (evaluator : Evaluator) (scopes : List (Dictionary Json))
    (arguments : List Expression) :
    List (Program Scene Json) :=
  arguments.map fun argument =>
    Program.map Settled.toValue (evaluator.evaluate scopes argument)

/-- Starting arguments is starting their programs one after the other. -/
theorem startAll_eq
    (scopes : List (Dictionary Json)) (arguments : List Expression)
    (scene : Scene) :
    evaluator.startAll scopes arguments scene =
      Program.startEach (evaluator.argumentPrograms scopes arguments)
        scene := by
  induction arguments generalizing scene with
  | nil =>
      rw [startAll]
      rfl
  | cons argument rest ih =>
      rw [startAll, argumentPrograms, List.map_cons, Program.startEach]
      dsimp only
      rw [ih]
      rfl

theorem startArguments_eq
    (scopes : List (Dictionary Json)) (part : Part) (scene : Scene) :
    evaluator.startArguments scopes part scene =
      Program.startEach (evaluator.argumentPrograms scopes part.arguments)
        scene := by
  cases part with
  | property name =>
      rw [startArguments]
      rfl
  | method name arguments =>
      rw [startArguments]
      exact startAll_eq scopes arguments scene

/-- A literal is its value, in every scene. -/
theorem evaluate_literal
    {value : Json} (literal : expression.literalValue? = some value)
    (scopes : List (Dictionary Json)) :
    evaluator.evaluate scopes expression = fun scene =>
      (.ready (.ok (.value value)), scene) := by
  funext scene
  cases expression
  rw [evaluate, literal]

theorem evaluate_path
    (path : expression.literalValue? = none) (scopes : List (Dictionary Json)) :
    evaluator.evaluate scopes expression =
      evaluator.evaluateParts scopes expression none expression.parts := by
  funext scene
  cases expression
  rw [evaluate, path]
  rfl

theorem evaluateParts_nil
    (scopes : List (Dictionary Json)) (expression : Expression)
    (base : Option Json) :
    evaluator.evaluateParts scopes expression base [] = fun scene =>
      (.ready (.ok .notFound), scene) := by
  funext scene
  rw [evaluateParts]

/-- Goes on to the parts after one that has settled to something found. -/
def goOn
    (evaluator : Evaluator) (scopes : List (Dictionary Json))
    (expression : Expression) (rest : List Part)
    (settled : Settled) : Program Scene Settled :=
  fun scene =>
    if settled.isNotFound || rest.isEmpty then (.ready (.ok settled), scene)
    else evaluator.evaluateParts scopes expression (some settled.toValue)
      rest scene

/-- The arguments of a part are joined, then the part is resolved, then come the
other parts. -/
theorem evaluateParts_cons
    (scopes : List (Dictionary Json)) (expression : Expression)
    (base : Option Json) (part : Part) (rest : List Part) :
    evaluator.evaluateParts scopes expression base (part :: rest) =
      (Program.joinEach (evaluator.argumentPrograms scopes part.arguments)).bind
        fun values =>
        (Program.bind (evaluator.resolvePart scopes expression part values base)
          (evaluator.goOn scopes expression rest)) := by
  funext scene
  rw [evaluateParts, startArguments_eq]
  rfl

end Expressions

/-- Starting nodes is starting their programs one after the other. -/
theorem startNodes_eq (nodes : List TemplateNode) (scene : Scene) :
    evaluator.startNodes nodes scene =
      Program.startEach (nodes.map evaluator.startNode) scene := by
  induction nodes generalizing scene with
  | nil => rfl
  | cons node rest ih =>
      rw [startNodes, List.map_cons, Program.startEach]
      dsimp only
      rw [ih]

end Evaluator

end Phrasebook
