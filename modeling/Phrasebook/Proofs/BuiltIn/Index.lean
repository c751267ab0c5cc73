import Phrasebook.Proofs.BuiltIn.Order
import Phrasebook.Proofs.Grammar.Acceptance
import Phrasebook.Proofs.Grammar.Natural
import Phrasebook.Proofs.Message.Call

/-!
# Indexing arrays

An item of an array is named by its index, as a property, or got by it, as the
argument of a method.  The property is a name, which the resolver of arrays
reads as an index; the argument is a number, which is an index only while it is
an integer.  Both give the item, and nothing for an index that is too large,
whether or not it fits in 64 bits.
-/

namespace Phrasebook

open Completion (driven driveOn driven_andThen driven_ready)
open Grammar

/-- The outcome is a value that was found. -/
def Settled.Finds (value : Json) (settled : Settled) : Prop :=
  settled.isNotFound = false ∧ settled.toValue = value

namespace Evaluator

/-- A name stands for a value, in the explicit data or in a scope around the
expression, or by a computed binding that ends with the value; looking the name
up leads from one scene to another. -/
inductive Stands (evaluator : Evaluator) (name : String) (value : Json) :
    List (Dictionary Json) → Scene → Scene → Prop
  | explicit {scene : Scene} (held : scene.data.get? name = some value) :
      Stands evaluator name value [] scene scene
  | computed {cell : Cell} {scene after : Scene}
      (inexplicit : scene.data.get? name = none)
      (registered : scene.data.cell? name = some cell)
      (ends : ∀ expression : Expression, ∃ settled : Settled,
        settled.Finds value ∧
        driven (evaluator.lookupComputed expression cell scene) =
          (some (.ok settled), after)) :
      Stands evaluator name value [] scene after
  | innermost {bindings : Dictionary Json} {outer : List (Dictionary Json)}
      {scene : Scene} (bound : bindings.get? name = some value) :
      Stands evaluator name value (bindings :: outer) scene scene
  | outer {bindings : Dictionary Json} {outer : List (Dictionary Json)}
      {scene after : Scene} (unbound : bindings.get? name = none)
      (stands : Stands evaluator name value outer scene after) :
      Stands evaluator name value (bindings :: outer) scene after

/-- What a text ends with when it is parsed and evaluated. -/
def outcomeOfText (evaluator : Evaluator) (scopes : List (Dictionary Json))
    (scene : Scene) (origin : Origin) (source : String) :
    Except ExpressionError (Option (Except EngineError Settled) × Scene) :=
  (Expression.parse source origin).map fun expression =>
    driven (evaluator.evaluate scopes expression scene)

end Evaluator

namespace Resolver.BuiltIn

variable {evaluator : Evaluator} {scopes : List (Dictionary Json)}
  {expression : Expression} {scene after : Scene}

theorem ofResolvers_all : Chain.ofResolvers all = all := by
  simp [Chain.ofResolvers, all, List.mergeSort, objects, arrays, texts, logic,
    ofValue]

section Asking

/-- At top level the built-in resolvers give nothing. -/
theorem ask_first {request : Request} (first : request.topLevel = true) :
    evaluator.ask expression request all scene =
      (.ready (.ok .notFound), scene) := by
  have silent : ∀ resolver ∈ all, resolver.applies request = false :=
    fun _ builtIn => applies_builtIn builtIn first
  revert silent
  generalize all = chain
  intro silent
  induction chain with
  | nil => rfl
  | cons resolver rest ih =>
      rcases List.forall_mem_cons.mp silent with ⟨declines, others⟩
      simp only [Evaluator.ask, declines, Bool.false_eq_true, if_false,
        ih others]

/-- An array is asked for a part.  Where the other resolvers do not know the
part, its own resolver decides. -/
theorem ask_array {request : Request} {items : List Json}
    (inner : request.topLevel = false) (base : request.base = .array items)
    (silent : ofAny request = none) :
    evaluator.ask expression request all scene =
      (.ready (.ok ((ofItems items request).elim .notFound .value)),
        scene) := by
  cases answer : ofItems items request with
  | none => simp [Evaluator.ask, all, objects, arrays, texts, logic, ofValue,
      asksObject, asksArray, asksText, inner,
      base, silent, answer]
  | some value =>
      simp [Evaluator.ask, all, objects, arrays, ofValue, asksObject, asksArray,
        inner, base, answer,
      Resolved.flatten, Completion.andThen, Settled.isNotFound]

end Asking

/-- A name that stands for a value is looked up with success. -/
theorem exists_lookup
    (builtIn : evaluator.engine.resolvers = Chain.ofResolvers all)
    {name : String} {value : Json}
    (stands : evaluator.Stands name value scopes scene after)
    (expression : Expression) :
    ∃ settled : Settled, settled.Finds value ∧
      driven (evaluator.lookupScopes expression (.property name)
        [] scopes scene) = (some (.ok settled), after) := by
  have property : (Part.property name).isMethod = false := rfl
  induction stands with
  | explicit held =>
      refine ⟨.value value, ⟨rfl, rfl⟩, ?_⟩
      rw [Evaluator.lookupScopes_explicit property held, driven_ready]
  | computed inexplicit supplied ends =>
      rw [Evaluator.lookupScopes_bound property inexplicit supplied]
      exact ends expression
  | innermost bound =>
      refine ⟨.value value, ⟨rfl, rfl⟩, ?_⟩
      simp [Evaluator.lookupScopes, Part.isMethod, Part.name, bound,
        driven_ready]
  | outer unbound _ ih =>
      rcases ih with ⟨settled, finds, looked⟩
      refine ⟨settled, finds, ?_⟩
      have absent :
          (if (Part.property name).isMethod then none else Dictionary.get?
              (Part.property name).name _) = none :=
        unbound
      rw [Evaluator.lookupScopes_cons absent, Program.bind, builtIn,
        ofResolvers_all, ask_first rfl]
      exact looked

/-- The expression of a part of what a name stands for. -/
def member (name : Name) (part : Part) (origin : Origin) : Expression :=
  .path none [.property name.text, part] origin

/-- A part of an array that only the resolver of arrays knows. -/
theorem driven_evaluate_member
    (builtIn : evaluator.engine.resolvers = Chain.ofResolvers all) {name : Name}
    {items : List Json}
    (stands : evaluator.Stands name.text (.array items) scopes scene after)
    {part : Part} {arguments : List Json}
    (started : evaluator.startArguments scopes part after =
      (arguments.map fun argument => .ready (.ok argument), after))
    (silent : ofAny (evaluator.request part arguments (.array items) false) =
      none) (origin : Origin) :
    driven (evaluator.evaluate scopes (member name part origin) scene) =
      (some
        (.ok
          ((ofItems items
            (evaluator.request part arguments (.array items) false)).elim
            .notFound .value)),
        after) := by
  rcases exists_lookup builtIn stands (member name part origin) with
    ⟨settled, ⟨found, value⟩, looked⟩
  have goesOn :
      driven
        (evaluator.goOn scopes (member name part origin) [part] settled after) =
        (some
          (.ok
            ((ofItems items
              (evaluator.request part arguments (.array items) false)).elim
              .notFound .value)),
          after) := by
    rw [Evaluator.goOn, found, value]
    simp only [List.isEmpty_cons, Bool.or_false, Bool.false_eq_true, if_false]
    rw [Evaluator.evaluateParts_last started, Evaluator.resolvePart, builtIn,
      ofResolvers_all, ask_array rfl rfl silent, driven_andThen,
      Completion.drive_ready, driveOn, driven_ready]
  have path : (member name part origin).literalValue? = none := rfl
  have parts : (member name part origin).parts = [.property name.text, part] :=
    rfl
  have nothing : evaluator.startArguments scopes (.property name.text) scene =
      ([], scene) := by
    rw [Evaluator.startArguments]
  have resolved :
      evaluator.resolvePart scopes (member name part origin)
        (.property name.text) [] none scene =
        evaluator.lookupScopes (member name part origin) (.property name.text)
            [] scopes scene :=
    rfl
  rw [Evaluator.evaluate_path path, parts, Evaluator.evaluateParts, nothing]
  change driven
    ((evaluator.resolvePart scopes (member name part origin)
      (.property name.text) [] none scene).1.andThen
    (evaluator.goOn scopes (member name part origin) [part]) _) = _
  rw [resolved, driven_andThen]
  change driveOn _
    (driven
      (evaluator.lookupScopes (member name part origin) (.property name.text)
        [] scopes scene)) = _
  rw [looked, driveOn, goesOn]

section Parts

/-- A text with a character that is no digit is not the name of a natural
number. -/
theorem text_ofNat_ne
    {text : String} (other : ¬ text.toList.all Char.isDigit = true)
    (index : Nat) :
    (Name.ofNat index).text ≠ text := by
  rintro rfl
  apply other
  rw [Name.text, String.toList_ofList]
  exact List.all_eq_true.mpr (Digits.ofNat index).digital

/-- No resolver but that of arrays knows numbers. -/
theorem ofAny_ofNat
    {request : Request} {index : Nat}
    (part : request.part = .property (Name.ofNat index).text) :
    ofAny request = none := by
  have different {text : String} (other : ¬ text.toList.all Char.isDigit =
      true) : request.part.name ≠ text := by
    rw [part]
    exact text_ofNat_ne other index
  rw [ofAny]
  split
  · exact absurd ‹_› (different (by decide))
  · exact absurd ‹_› (different (by decide))
  · exact absurd ‹_› (different (by decide))
  · exact absurd ‹_› (different (by decide))
  · rfl

/-- As a property a number is an index as long as it fits in 64 bits, and no
name of anything else. -/
theorem ofItems_ofNat
    {request : Request} {index : Nat}
    (part : request.part = .property (Name.ofNat index).text)
    (items : List Json) :
    ofItems items request = if index < 2 ^ 64 then items[index]? else none := by
  have different {text : String} (other : ¬ text.toList.all Char.isDigit =
      true) : request.part.name ≠ text := by
    rw [part]
    exact text_ofNat_ne other index
  have read :
      (if request.part.isMethod then none else indexOfName? request.part.name) =
      if index < 2 ^ 64 then some index else none := by
    rw [part]
    exact indexOfName?_ofNat index
  rw [ofItems, read]
  split_ifs
  · rfl
  · dsimp only
    split
    · exact absurd ‹_› (different (by decide))
    · exact absurd ‹_› (different (by decide))
    · exact absurd ‹_› (different (by decide))
    · exact absurd ‹_› (different (by decide))
    · exact absurd ‹_› (different (by decide))
    · exact absurd ‹_› (different (by decide))
    · rfl

theorem ofItems_get
    {request : Request} {arguments : List Expression}
    (part : request.part = .method "get" arguments) {number : Number}
    (only : request.arguments = [.number number]) (items : List Json) :
    ofItems items request = number.index?.bind fun index => items[index]? := by
  rw [ofItems]
  simp only [part, only, Part.isMethod, Part.name, if_true]

end Parts

section Texts

/-- The names of the method that gets an item, and of the first and the last
item. -/
def getName : Name := ⟨['g', 'e', 't'], nofun, List.all_eq_true.mp rfl⟩

def firstName :
    Name := ⟨['f', 'i', 'r', 's', 't'], nofun, List.all_eq_true.mp rfl⟩

def lastName : Name := ⟨['l', 'a', 's', 't'], nofun, List.all_eq_true.mp rfl⟩

variable {name : Name} (leads : name.Leads) (origin : Origin)

include leads

theorem parse_member
    {tail : Tail} (valid : tail.Valid) {first : Char} {rest : List Char}
    (continues : tail.text = first :: rest)
    {source : String} (split : source.toList = name.characters ++ tail.text) :
    Expression.parse source origin =
      .ok (.path none (tail.parts origin name.text) origin) := by
  have unfinished : tail.text ≠ [] := by
    rw [continues]
    exact List.cons_ne_nil first rest
  let derivation : Derivation :=
    ⟨.absent, .path none name tail, .absent, leads,
      fun _ finished => absurd finished unfinished, valid⟩
  have text : derivation.text = source.toList := by
    change [] ++ ((name.characters ++ tail.text) ++ []) = source.toList
    rw [List.nil_append, List.append_nil, split]
  exact derivation.parse_text text

theorem parse_property (property : Name) :
    Expression.parse (name.text ++ "." ++ property.text) origin =
      .ok (member name (.property property.text) origin) := by
  have valid : (Tail.dot property .done).Valid := trivial
  have split : (name.text ++ "." ++ property.text).toList =
      name.characters ++ (Tail.dot property .done).text := by
    simp [Name.text, Tail.text]
  exact parse_member leads origin valid rfl split

theorem parse_get
    {form : NumberForm} {number : Number}
    (held : Number.ofNumeral? form.numeral = some number) :
    Expression.parse (name.text ++ ".get(" ++ String.ofList form.text ++ ")")
      origin =
      .ok
        (member name (.method "get" [.literal (.number number) origin])
          origin) := by
  let call : Tail :=
    .dot getName (.call (.some (.last .absent (.numeral form number) .absent)))
  have valid : call.Valid := held
  have split : (name.text ++ ".get(" ++ String.ofList form.text ++ ")").toList =
      name.characters ++ call.text := by
    simp [call, Name.text, Tail.text, Arguments.text, Items.text, Tree.text,
      getName, Blanks.absent]
  exact parse_member leads origin valid rfl split

end Texts

section Outcomes

variable {name : Name} {items : List Json}
  (builtIn : evaluator.engine.resolvers = Chain.ofResolvers all)
  (leads : name.Leads)
  (stands : evaluator.Stands name.text (.array items) scopes scene after)
  (origin : Origin)

include builtIn leads stands

/-- A property of an array that only the resolver of arrays knows. -/
theorem outcome_property
    (property : Name) {found : Option Json}
    (silent : ∀ request : Request, request.part = .property property.text →
      ofAny request = none)
    (answer : ∀ request : Request, request.part = .property property.text →
      request.arguments = [] →
      ofItems items request = found) :
    evaluator.outcomeOfText scopes scene origin
      (name.text ++ "." ++ property.text) =
      .ok (some (.ok (found.elim .notFound .value)), after) := by
  have started :
      evaluator.startArguments scopes (.property property.text) after =
      (([] : List Json).map fun argument => .ready (.ok argument), after) := by
    rw [Evaluator.startArguments]
    rfl
  have evaluated :=
    driven_evaluate_member builtIn stands started (silent _ rfl) origin
  rw [answer _ rfl rfl] at evaluated
  rw [Evaluator.outcomeOfText, parse_property leads origin property, Except.map,
    evaluated]

/-- A number below `10^308` is read by the parser; it gets the item while it is
an index. -/
theorem outcome_get {index : Nat} (below : index < 10 ^ 308) :
    evaluator.outcomeOfText scopes scene origin
      (name.text ++ ".get(" ++ toString index ++ ")") =
      .ok
        (some
          (.ok
            ((if index < 2 ^ 64 then items[index]? else none).elim .notFound
              .value)), after) := by
  rcases exists_ofNumeral?_ofNat below with ⟨number, held, read⟩
  have digits : toString index =
      String.ofList (NumberForm.ofNat index).text := by
    rw [NumberForm.text_ofNat, Nat.toString_eq_repr,
      Nat.repr_eq_ofList_toDigits]
  have started : evaluator.startArguments scopes
      (.method "get" [.literal (.number number) origin]) after =
      ([.number number].map fun argument => .ready (.ok argument), after) := by
    simp only [Evaluator.startArguments, Evaluator.startAll,
      Evaluator.evaluate_literal
        (show (Expression.literal (.number number) origin).literalValue? =
          _ from rfl)]
    rfl
  have evaluated := driven_evaluate_member builtIn stands started rfl origin
  have answer :
      ofItems items
        (evaluator.request (.method "get" [.literal (.number number) origin])
          [.number number]
      (.array items) false) = if index < 2 ^ 64 then items[index]?
      else none := by
    rw [ofItems_get rfl rfl, read]
    split_ifs <;> rfl
  rw [answer] at evaluated
  rw [Evaluator.outcomeOfText, digits, parse_get leads origin held, Except.map,
    evaluated]

end Outcomes

section Ends

theorem ofItems_first
    {request : Request} (part : request.part = .property "first")
    (only : request.arguments = [])
    (items : List Json) : ofItems items request = items[0]? := by
  have unnumbered : indexOfName? "first" = none := by decide
  rw [ofItems]
  simp only [part, only, Part.isMethod, Part.name, unnumbered,
    Bool.false_eq_true, if_false]
  exact List.head?_eq_getElem?

theorem ofItems_last
    {request : Request} (part : request.part = .property "last")
    (only : request.arguments = [])
    (items : List Json) : ofItems items request = items[items.length - 1]? := by
  have unnumbered : indexOfName? "last" = none := by decide
  rw [ofItems]
  simp only [part, only, Part.isMethod, Part.name, unnumbered,
    Bool.false_eq_true, if_false]
  exact List.getLast?_eq_getElem?

end Ends

/-- An index in an array that can be addressed fits in 64 bits. -/
theorem getElem?_addressable
    {items : List Json} (addressable : items.length ≤ 2 ^ 64) (index : Nat) :
    (if index < 2 ^ 64 then items[index]? else none) = items[index]? := by
  split_ifs with fits
  · rfl
  · rw [List.getElem?_eq_none (by omega)]

/-- Both ways of indexing an array agree, with the built-in resolvers.  Let a
name stand for an array that can be addressed with 64 bits.  For any number
below `10^308` in decimal, its property and the method that gets it are parsed,
and both end with the item at the index, or with not-found where the array is
too short, however large the index is.  The first and the last item of an array
with items are those at the indices zero and one below the size, and an array
without items has neither. -/
theorem index_property_eq_get
    {name : Name} {items : List Json}
    (builtIn : evaluator.engine.resolvers = Chain.ofResolvers all)
    (leads : name.Leads)
    (stands : evaluator.Stands name.text (.array items) scopes scene after)
    (addressable : items.length ≤ 2 ^ 64) (origin : Origin) :
    (∀ index : Nat, index < 10 ^ 308 →
      evaluator.outcomeOfText scopes scene origin
        (name.text ++ "." ++ toString index) =
          .ok (some (.ok (items[index]?.elim .notFound .value)), after) ∧
        evaluator.outcomeOfText scopes scene origin
          (name.text ++ ".get(" ++ toString index ++ ")") =
          .ok (some (.ok (items[index]?.elim .notFound .value)), after)) ∧
    (items ≠ [] →
      evaluator.outcomeOfText scopes scene origin
        (name.text ++ "." ++ "first") =
          evaluator.outcomeOfText scopes scene origin
            (name.text ++ ".get(" ++ toString 0 ++ ")") ∧
        evaluator.outcomeOfText scopes scene origin
          (name.text ++ "." ++ "last") =
          evaluator.outcomeOfText scopes scene origin
            (name.text ++ ".get(" ++ toString (items.length - 1) ++ ")")) ∧
    (items = [] →
      evaluator.outcomeOfText scopes scene origin
        (name.text ++ "." ++ "first") =
          .ok (some (.ok .notFound), after) ∧
        evaluator.outcomeOfText scopes scene origin
          (name.text ++ "." ++ "last") =
          .ok (some (.ok .notFound), after)) := by
  have get {index : Nat} (below : index < 10 ^ 308) :
      evaluator.outcomeOfText scopes scene origin
        (name.text ++ ".get(" ++ toString index ++ ")") =
        .ok (some (.ok (items[index]?.elim .notFound .value)), after) := by
    rw [outcome_get builtIn leads stands origin below,
      getElem?_addressable addressable]
  have first :
      evaluator.outcomeOfText scopes scene origin
        (name.text ++ "." ++ "first") =
        .ok (some (.ok (items[0]?.elim .notFound .value)), after) := by
    apply outcome_property builtIn leads stands origin firstName
    · intro request part
      simp [ofAny, part, Part.name, Name.text, firstName]
    · intro request part only
      exact ofItems_first part only items
  have last :
      evaluator.outcomeOfText scopes scene origin (name.text ++ "." ++ "last") =
        .ok (some (.ok (items[items.length - 1]?.elim .notFound .value)),
            after) := by
    apply outcome_property builtIn leads stands origin lastName
    · intro request part
      simp [ofAny, part, Part.name, Name.text, lastName]
    · intro request part only
      exact ofItems_last part only items
  refine ⟨?indices, ?ends, ?empty⟩
  case indices =>
    intro index below
    refine ⟨?_, get below⟩
    rw [← Name.text_ofNat]
    apply outcome_property builtIn leads stands origin
    · exact fun _ part => ofAny_ofNat part
    · intro request part _
      rw [ofItems_ofNat part, getElem?_addressable addressable]
  case ends =>
    intro _
    have small : items.length - 1 < 10 ^ 308 := by
      exact lt_of_le_of_lt ((Nat.sub_le _ _).trans addressable) two_pow_lt
    exact ⟨first.trans (get (Nat.pow_pos (by decide))).symm,
      last.trans (get small).symm⟩
  case empty =>
    rintro rfl
    exact ⟨first, last⟩

/-- An evaluator with the built-in resolvers and nothing else. -/
def plain : Evaluator where
  engine := .build all [] [] [] {}
  services := ⟨{}, fun _ _ state => (.ready (.ok ""), state)⟩
  suppliers := .none

/-- A name, and a scene in which it stands for an array. -/
def listName : Name := ⟨['x'], nofun, List.all_eq_true.mp rfl⟩

def listScene : Scene where
  data := RenderData.empty.set "x" (.array [.bool true, .null])
  engine := .empty

theorem plain_property_eq_get :
    plain.outcomeOfText [[]] listScene default
      (listName.text ++ "." ++ toString 1) =
        .ok (some (.ok (.value .null)), listScene) ∧
      plain.outcomeOfText [[]] listScene default
        (listName.text ++ ".get(" ++ toString (2 ^ 64) ++ ")") =
        .ok (some (.ok .notFound), listScene) ∧
      plain.outcomeOfText [[]] listScene default
        (listName.text ++ "." ++ "last") =
        plain.outcomeOfText [[]] listScene default
          (listName.text ++ ".get(" ++ toString 1 ++ ")") := by
  have leads : listName.Leads := stops_cons (by decide)
  have stands : plain.Stands listName.text (.array [.bool true, .null])
      [[]] listScene listScene :=
    .outer rfl (.explicit rfl)
  have agrees := index_property_eq_get rfl leads stands (by decide) default
  exact ⟨(agrees.1 1 (Nat.one_lt_pow (by decide) (by decide))).1,
    (agrees.1 (2 ^ 64) two_pow_lt).2, (agrees.2.1 nofun).2⟩

end Resolver.BuiltIn

end Phrasebook
