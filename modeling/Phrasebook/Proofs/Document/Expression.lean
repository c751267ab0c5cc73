import Phrasebook.Expression.Document
import Phrasebook.Proofs.Document.Value

/-!
# Expressions read back from documents

Every expression is written as a document that has a data value, and both the
document and the data value are read again, in whatever order the fields of
their records stand.  What is read is the expression without the constants that
are null, for nothing tells these from constants that are not there.  So an
expression comes back equal exactly when none of the expressions in it is a null
constant.
-/

namespace Phrasebook

namespace Document

/-- A field lies deeper than its record. -/
theorem nesting_lt_ofNamed
    {fields : List (String × Document)} {field : String × Document}
    (member : field ∈ fields) :
    field.2.nesting < (ofNamed fields).nesting := by
  rw [ofNamed, nesting, Nat.lt_succ_iff]
  induction fields with
  | nil => cases member
  | cons first rest ih =>
      rw [List.map_cons, entriesNesting]
      rcases List.mem_cons.mp member with rfl | later
      · exact le_max_left _ _
      · exact le_max_of_le_right (ih later)

theorem normalizes_string
    (text : String) : Normalizes (.string text) (.string text) :=
  ⟨.string text, rfl, rfl⟩

end Document

/-- An order of the fields of records, which adds none and leaves none out. -/
structure FieldOrder where
  arrange : List (String × Document) → List (String × Document)
  perm : ∀ fields, (fields.map Prod.fst).Nodup → (arrange fields).Perm fields

namespace FieldOrder

/-- Fields as they were written. -/
def written : FieldOrder :=
  ⟨id, fun _ _ => .refl _⟩

/-- Fields in the order of their names. -/
def byName : FieldOrder :=
  ⟨Dictionary.ofList, fun _ => Dictionary.ofList_perm⟩

/-- The record with fields in this order. -/
def record (order : FieldOrder) (fields : List (String × Document)) :
    Document :=
  .ofNamed (order.arrange fields)

variable {fields normals : List (String × Document)}

/-- A record normalizes to the record by name whatever its order is, when its
fields normalize. -/
theorem normalizes_record
    (order : FieldOrder) (normalize : Document.FieldsNormalize fields normals)
    (nodup : (fields.map Prod.fst).Nodup) :
    (order.record fields).Normalizes (byName.record normals) :=
  normalize.ofNamed (order.perm fields nodup) nodup

/-- A record is read field by field, in any order. -/
theorem ofDocument?_record
    (order : FieldOrder) (names : List String)
    (nodup : (fields.map Prod.fst).Nodup) :
    Record.ofDocument? names (order.record fields) =
      some ⟨false, names.map fun name => Dictionary.get? name fields⟩ :=
  Record.ofDocument?_ofNamed (order.perm fields nodup) nodup

/-- A field nests less deeply than its record. -/
theorem nesting_lt_record
    (order : FieldOrder) (nodup : (fields.map Prod.fst).Nodup)
    {field : String × Document} (member : field ∈ fields) :
    field.2.nesting < (order.record fields).nesting :=
  Document.nesting_lt_ofNamed ((order.perm fields nodup).mem_iff.mpr member)

end FieldOrder

namespace Expression

open Document (FieldsNormalize Normalizes)

/-- The document of a namespace that may be absent. -/
def qualifierDocument : Option String → Document
  | some name => .string name
  | none => .null

/-- The document of a constant that may be absent. -/
def constantDocument : Option Json → Document
  | some value => .ofValue value
  | none => .null

def originFields (origin : Origin) : List (String × Document) :=
  [("template_id", .string origin.template),
    ("line", .number (.integer origin.line))]

theorem nodup_originFields
    (origin : Origin) : ((originFields origin).map Prod.fst).Nodup :=
  (by decide : ["template_id", "line"].Nodup)

/-- The fields of an expression, with the documents of its parts and of its
origin. -/
def headFields
    (qualifier : Option String) (parts : List Document) (constant : Option Json)
    (origin : Document) : List (String × Document) :=
  [("namespace", qualifierDocument qualifier), ("parts", .sequence parts),
    ("literal", constantDocument constant), ("origin", origin)]

theorem nodup_headFields
    (qualifier : Option String) (parts : List Document) (constant : Option Json)
    (origin : Document) :
    ((headFields qualifier parts constant origin).map Prod.fst).Nodup :=
  (by decide : fieldNames.Nodup)

def propertyFields (name : String) : List (String × Document) :=
  [("kind", .string "property"), ("name", .string name)]

theorem nodup_propertyFields
    (name : String) : ((propertyFields name).map Prod.fst).Nodup :=
  (by decide : ["kind", "name"].Nodup)

/-- The fields of a method, with the documents of its arguments. -/
def methodFields (name : String) (arguments : List Document) :
    List (String × Document) :=
  [("kind", .string "virtual_method"), ("name", .string name),
    ("parameters", .sequence arguments)]

theorem nodup_methodFields (name : String) (arguments : List Document) :
    ((methodFields name arguments).map Prod.fst).Nodup :=
  (by decide : ["kind", "name", "parameters"].Nodup)

section Arranged

variable (order : FieldOrder)

mutual

/-- The document of an expression with the fields of each record in a given
order. -/
def arranged : Expression → Document
  | .mk qualifier parts constant origin =>
    order.record
      (headFields qualifier (arrangedParts parts) constant
        (order.record (originFields origin)))

def arrangedPart : Part → Document
  | .property name => order.record (propertyFields name)
  | .method name arguments =>
    order.record (methodFields name (arrangedAll arguments))

def arrangedParts : List Part → List Document
  | [] => []
  | part :: rest => arrangedPart part :: arrangedParts rest

def arrangedAll : List Expression → List Document
  | [] => []
  | expression :: rest => arranged expression :: arrangedAll rest

end

end Arranged

mutual

/-- Arranged as it is written, an expression is its own document. -/
theorem arranged_written :
    (expression : Expression) →
      expression.arranged .written = expression.toDocument
  | .mk qualifier parts constant _ => by
    rw [arranged, arrangedParts_written parts]
    cases qualifier <;> cases constant <;> rfl

theorem arrangedPart_written :
    (part : Part) → arrangedPart .written part = partDocument part
  | .property _ => rfl
  | .method _ arguments => by
    rw [arrangedPart, arrangedAll_written arguments]
    rfl

theorem arrangedParts_written :
    (parts : List Part) → arrangedParts .written parts = partDocuments parts
  | [] => rfl
  | part :: rest => by
    rw [arrangedParts, partDocuments, arrangedPart_written part,
      arrangedParts_written rest]

theorem arrangedAll_written :
    (expressions : List Expression) →
      arrangedAll .written expressions = documents expressions
  | [] => rfl
  | expression :: rest => by
    rw [arrangedAll, documents, arranged_written expression,
      arrangedAll_written rest]

end

theorem argumentsOfParts_cons (part : Part) (rest : List Part) :
    argumentsOfParts (part :: rest) =
      argumentsOfAll part.arguments ++ argumentsOfParts rest := by
  cases part <;> rfl

/-- The constant of an expression is a data value: the keys of its objects are
in order. -/
def ConstantSorted (expression : Expression) : Prop :=
  ∀ value, expression.constant = some value → value.Sorted

variable (order : FieldOrder)

theorem normalizes_qualifier (qualifier : Option String) :
    (qualifierDocument qualifier).Normalizes (qualifierDocument qualifier) := by
  cases qualifier with
  | none => exact ⟨.null, rfl, rfl⟩
  | some name => exact ⟨.string name, rfl, rfl⟩

theorem normalizes_constant
    {constant : Option Json}
    (sorted : ∀ value, constant = some value → value.Sorted) :
    (constantDocument constant).Normalizes (constantDocument constant) := by
  cases constant with
  | none => exact ⟨.null, rfl, rfl⟩
  | some value =>
      exact ⟨value, Document.value?_ofValue value (sorted value rfl), rfl⟩

theorem normalizes_origin (origin : Origin) :
    (order.record (originFields origin)).Normalizes
      (FieldOrder.byName.record (originFields origin)) := by
  refine order.normalizes_record ?_ (nodup_originFields origin)
  exact .cons ⟨rfl, Document.normalizes_string _⟩
    (.cons ⟨rfl, .number (.integer origin.line), rfl, rfl⟩ .nil)

mutual

/-- The document of an expression has a data value, in which the fields of each
record are in the order of their names. -/
theorem normalizes_arranged :
    (expression : Expression) →
      (∀ inner ∈ expression.withArguments, inner.ConstantSorted) →
      (expression.arranged order).Normalizes (expression.arranged .byName)
  | .mk qualifier parts constant origin, sorted => by
    rcases List.forall_mem_cons.mp sorted with ⟨own, inside⟩
    refine order.normalizes_record ?_ (nodup_headFields _ _ _ _)
    exact .cons ⟨rfl, normalizes_qualifier qualifier⟩
      (.cons ⟨rfl,
        Document.normalizes_sequence (normalizes_arrangedParts parts inside)⟩
        (.cons ⟨rfl, normalizes_constant own⟩
          (.cons ⟨rfl, normalizes_origin order origin⟩ .nil)))

/-- The document of a part normalizes to the one by name. -/
theorem normalizes_arrangedPart :
    (part : Part) →
      (∀ inner ∈ argumentsOfAll part.arguments, inner.ConstantSorted) →
      (arrangedPart order part).Normalizes (arrangedPart .byName part)
  | .property name, _ => by
    refine order.normalizes_record ?_ (nodup_propertyFields name)
    exact .cons ⟨rfl, Document.normalizes_string _⟩
      (.cons ⟨rfl, Document.normalizes_string _⟩ .nil)
  | .method name arguments, sorted => by
    refine order.normalizes_record ?_ (nodup_methodFields name _)
    exact .cons ⟨rfl, Document.normalizes_string _⟩
      (.cons ⟨rfl, Document.normalizes_string _⟩
      (.cons ⟨rfl,
        Document.normalizes_sequence (normalizes_arrangedAll arguments sorted)⟩
        .nil))

theorem normalizes_arrangedParts :
    (parts : List Part) →
      (∀ inner ∈ argumentsOfParts parts, inner.ConstantSorted) →
      List.Forall₂ Normalizes (arrangedParts order parts)
        (arrangedParts .byName parts)
  | [], _ => .nil
  | part :: rest, sorted => by
    rw [argumentsOfParts_cons, List.forall_mem_append] at sorted
    exact .cons (normalizes_arrangedPart part sorted.1)
      (normalizes_arrangedParts rest sorted.2)

theorem normalizes_arrangedAll :
    (expressions : List Expression) →
      (∀ inner ∈ argumentsOfAll expressions, inner.ConstantSorted) →
      List.Forall₂ Normalizes (arrangedAll order expressions)
        (arrangedAll .byName expressions)
  | [], _ => .nil
  | expression :: rest, sorted => by
    rcases List.forall_mem_append.mp sorted with ⟨first, others⟩
    exact .cons (normalizes_arranged expression first)
      (normalizes_arrangedAll rest others)

end

/-- A constant, unless it is null. -/
def unlessNull : Json → Option Json
  | .null => none
  | value => some value

mutual

/-- An expression without the constants in it that are null. -/
def withoutNulls : Expression → Expression
  | .mk qualifier parts constant origin =>
    .mk qualifier (partsWithoutNulls parts) (constant.bind unlessNull) origin

def partWithoutNulls : Part → Part
  | .property name => .property name
  | .method name arguments => .method name (allWithoutNulls arguments)

def partsWithoutNulls : List Part → List Part
  | [] => []
  | part :: rest => partWithoutNulls part :: partsWithoutNulls rest

def allWithoutNulls : List Expression → List Expression
  | [] => []
  | expression :: rest => withoutNulls expression :: allWithoutNulls rest

end

section Reading

/-- The qualifier is read back. -/
theorem read_qualifier (qualifier : Option String) :
    (qualifierDocument qualifier).nullOr? Document.string? =
      some qualifier := by
  cases qualifier <;> rfl

/-- A sorted constant is read back, except that null reads as none. -/
theorem read_constant
    {constant : Option Json}
    (sorted : ∀ value, constant = some value → value.Sorted) :
    (constantDocument constant).nullOr? Document.value? =
      some (constant.bind unlessNull) := by
  cases constant with
  | none => rfl
  | some value =>
      have reads := Document.value?_ofValue value (sorted value rfl)
      cases value with
      | null => rfl
      | bool _ | number _ | string _ => rfl
      | array _ | object _ => exact congrArg (Option.map some) reads

/-- An origin is read back in any order of its fields. -/
theorem read_origin (origin : Origin) :
    Origin.ofDocument? (order.record (originFields origin)) = some origin := by
  rw [Origin.ofDocument?,
    order.ofDocument?_record _ (nodup_originFields origin)]
  have line : (Number.integer origin.line).index? = some origin.line := by
    simp [Number.index?]
  show (Number.integer origin.line).index?.bind (fun line =>
    some ⟨origin.template, line⟩) = some origin
  rw [line]
  rfl

/-- A part is read by the kind that its record names and by its other fields. -/
theorem split?_record
    (nested : Bool) (kind : PartKind) {name : String}
    {fields : List (String × Document)}
    (named : PartKind.ofDocument? nested (.string name) = some kind)
    (nodup : ((("kind", .string name) :: fields).map Prod.fst).Nodup) :
    ∃ rest,
      PartKind.split? nested (order.record (("kind", .string name) :: fields)) =
      some (kind, .ofNamed rest) ∧ rest.Perm fields := by
  have perm := order.perm _ nodup
  have absent : ∀ field ∈ fields, field.1 ≠ "kind" := fun field member same =>
    (List.nodup_cons.mp nodup).1 (List.mem_map.mpr ⟨field, member, same⟩)
  have own : (order.arrange (("kind", .string name) :: fields)).filter
      (fun field => field.1 == "kind") =
      [("kind", .string name)] := by
    have others : fields.filter (fun field => field.1 == "kind") = [] :=
      List.filter_eq_nil_iff.mpr fun field member => by
        simpa using absent field member
    refine List.perm_singleton.mp ((perm.filter _).trans ?_)
    rw [List.filter_cons, if_pos (beq_self_eq_true "kind"), others]
  have rest : (("kind", Document.string name) :: fields).filter (fun field =>
    field.1 != "kind") = fields := by
    rw [List.filter_cons, if_neg (by simp), List.filter_eq_self]
    intro field member
    simpa using absent field member
  refine ⟨_, ?_,
    (perm.filter fun field => field.1 != "kind").trans (.of_eq rest)⟩
  show (Document.named? ((order.arrange _).map fun field =>
    (.string field.1, field.2))).bind _ = _
  rw [Document.named?_ofNamed, Option.bind_some, own]
  exact congrArg (Option.map _) named

/-- The parts of an expression lie deeper than its document. -/
theorem partsNesting_lt (expression : Expression) :
    Document.itemsNesting (arrangedParts order expression.parts) + 1 <
      (expression.arranged order).nesting := by
  rcases expression with ⟨qualifier, parts, constant, origin⟩
  exact order.nesting_lt_record
    (nodup_headFields qualifier (arrangedParts order parts) constant _)
    (List.mem_cons_of_mem _ List.mem_cons_self)

mutual

/-- An expression is read from its document, without the constants that are
null.  The nesting of its parts bounds the depth of its arguments. -/
theorem read?_arranged :
    (expression : Expression) →
      (∀ inner ∈ expression.withArguments, inner.ConstantSorted) →
      ∀ (fuel : Nat) (nested : Bool),
        Document.itemsNesting (arrangedParts order expression.parts) < fuel →
        read? (fuel + 1) nested (expression.arranged order) =
          some expression.withoutNulls
  | .mk qualifier parts constant origin, sorted, fuel, nested, enough => by
    rcases List.forall_mem_cons.mp sorted with ⟨own, inside⟩
    have parts := readAll?_arrangedParts parts inside fuel nested enough
    have reads : (constantDocument constant).nullOr? Document.value? =
        some (constant.bind unlessNull) :=
      read_constant own
    rw [arranged, read?, order.ofDocument?_record _ (nodup_headFields _ _ _ _),
      withoutNulls]
    show ((qualifierDocument qualifier).nullOr? Document.string?).bind
        (fun qualifier =>
      (Document.readAll? (readPart? fuel nested) _).bind fun parts =>
        ((constantDocument constant).nullOr? Document.value?).bind
            fun constant =>
          (Origin.ofDocument? (order.record (originFields origin))).bind
            fun origin => some _) = _
    rw [read_qualifier, parts, reads, read_origin]
    rfl

/-- A part is read back from its document, in any order of the fields. -/
theorem readPart?_arranged :
    (part : Part) →
      (∀ inner ∈ argumentsOfAll part.arguments, inner.ConstantSorted) →
      ∀ (fuel : Nat) (nested : Bool), (arrangedPart order part).nesting ≤ fuel →
        readPart? (fuel + 1) nested (arrangedPart order part) =
          some (partWithoutNulls part)
  | .property name, sorted, fuel, nested, _ => by
    rcases normalizes_arrangedPart order (.property name) sorted with
      ⟨value, reads, -⟩
    rcases split?_record order nested .property rfl (nodup_propertyFields name)
      with ⟨rest, split, perm⟩
    rw [readPart?, reads, arrangedPart, propertyFields, split]
    show (Record.ofDocument? ["name"] (.ofNamed rest)).bind _ = _
    rw [Record.ofDocument?_ofNamed perm (List.nodup_singleton _)]
    rfl
  | .method name arguments, sorted, fuel, nested, enough => by
    rcases normalizes_arrangedPart order (.method name arguments) sorted with
      ⟨value, reads, -⟩
    rcases split?_record order nested .method rfl (nodup_methodFields name _)
      with ⟨rest, split, perm⟩
    have deeper : Document.itemsNesting (arrangedAll order arguments) + 1 <
        fuel + 1 :=
      (order.nesting_lt_record
        (nodup_methodFields name (arrangedAll order arguments))
        (List.mem_cons_of_mem _
          (List.mem_cons_of_mem _ List.mem_cons_self))).trans_le
          (enough.trans (Nat.le_succ _))
    rcases Nat.exists_eq_succ_of_ne_zero
      (Nat.ne_zero_of_lt (Nat.lt_of_succ_lt_succ deeper))
      with ⟨less, rfl⟩
    have arguments := readAll?_arrangedAll arguments sorted less true (by omega)
    rw [readPart?, reads, arrangedPart, methodFields, split]
    show (Record.ofDocument? ["name", "parameters"] (.ofNamed rest)).bind _ = _
    rw [Record.ofDocument?_ofNamed perm
      (by decide : ["name", "parameters"].Nodup)]
    show (Document.readAll? (read? (less + 1) true) _).bind (fun arguments =>
      some (Part.method name arguments)) = _
    rw [arguments]
    rfl

theorem readAll?_arrangedParts :
    (parts : List Part) →
      (∀ inner ∈ argumentsOfParts parts, inner.ConstantSorted) →
      ∀ (fuel : Nat) (nested : Bool),
        Document.itemsNesting (arrangedParts order parts) < fuel →
        Document.readAll? (readPart? fuel nested) (arrangedParts order parts) =
          some (partsWithoutNulls parts)
  | [], _, _, _, _ => rfl
  | part :: rest, sorted, fuel, nested, enough => by
    rw [argumentsOfParts_cons, List.forall_mem_append] at sorted
    rw [arrangedParts, Document.itemsNesting, Nat.max_lt] at enough
    rcases Nat.exists_eq_succ_of_ne_zero (Nat.ne_zero_of_lt enough.1) with
      ⟨less, rfl⟩
    rw [arrangedParts, Document.readAll?,
      readPart?_arranged part sorted.1 less nested
        (Nat.lt_succ_iff.mp enough.1),
      readAll?_arrangedParts rest sorted.2 (less + 1) nested enough.2]
    rfl

theorem readAll?_arrangedAll :
    (expressions : List Expression) →
      (∀ inner ∈ argumentsOfAll expressions, inner.ConstantSorted) →
      ∀ (fuel : Nat) (nested : Bool),
        Document.itemsNesting (arrangedAll order expressions) ≤ fuel →
        Document.readAll? (read? (fuel + 1) nested)
          (arrangedAll order expressions) =
          some (allWithoutNulls expressions)
  | [], _, _, _, _ => rfl
  | expression :: rest, sorted, fuel, nested, enough => by
    rcases List.forall_mem_append.mp sorted with ⟨first, others⟩
    rw [arrangedAll, Document.itemsNesting, Nat.max_le] at enough
    have deeper := partsNesting_lt order expression
    rw [arrangedAll, Document.readAll?,
      read?_arranged expression first fuel nested (by omega),
      readAll?_arrangedAll rest others fuel nested enough.2]
    rfl

end

/-- The document of an expression is read in whatever order its fields stand. -/
theorem ofDocument?_arranged
    {expression : Expression}
    (sorted : ∀ inner ∈ expression.withArguments, inner.ConstantSorted) :
    ofDocument? (expression.arranged order) = some expression.withoutNulls := by
  have parts :
      partsNesting (expression.arranged order) =
        Document.itemsNesting (arrangedParts order expression.parts) + 1 := by
    rcases expression with ⟨qualifier, parts, constant, origin⟩
    rw [partsNesting, arranged,
      order.ofDocument?_record _ (nodup_headFields _ _ _ _)]
    rfl
  rw [ofDocument?, parts]
  exact read?_arranged order expression sorted _ false (Nat.lt_succ_self _)

end Reading

end Expression

namespace Json

theorem same_number (number : Number) : number.same number = true := by
  cases number with
  | integer value => exact beq_self_eq_true value
  | float value => simp [Number.same, Binary64.sameValue]

mutual

theorem same_self : (value : Json) → value.same value = true
  | .null => rfl
  | .bool value => beq_self_eq_true value
  | .number value => same_number value
  | .string value => beq_self_eq_true value
  | .array items => sameItems_self items
  | .object entries => sameEntries_self entries

theorem sameItems_self : (items : List Json) → sameItems items items = true
  | [] => rfl
  | item :: rest => by
    rw [sameItems, same_self item, sameItems_self rest, Bool.and_self]

theorem sameEntries_self :
    (entries : List (String × Json)) → sameEntries entries entries = true
  | [] => rfl
  | entry :: rest => by
    rw [sameEntries, beq_self_eq_true, same_self entry.2, sameEntries_self rest,
      Bool.and_self, Bool.and_self]

end

end Json

namespace Expression

/-- Constants are equal when both are absent, or both are there with equal
values. -/
def sameConstant : Option Json → Option Json → Bool
  | none, none => true
  | some value, some value' => value.same value'
  | _, _ => false

/-- Expressions are the same when their fields are. -/
theorem same_mk
    (qualifier qualifier' : Option String) (parts parts' : List Part)
    (constant constant' : Option Json) (origin origin' : Origin) :
    same (.mk qualifier parts constant origin)
      (.mk qualifier' parts' constant' origin') =
      (qualifier == qualifier' && sameParts parts parts' &&
        sameConstant constant constant' &&
        origin == origin') := by
  cases constant <;> cases constant' <;> simp [same, sameConstant]

/-- A constant is the same after a round trip exactly when it is not null. -/
theorem sameConstant_unlessNull (constant : Option Json) :
    sameConstant constant (constant.bind unlessNull) = true ↔
      constant ≠ some .null := by
  cases constant with
  | none => exact iff_of_true rfl nofun
  | some value =>
      cases value with
      | null => exact iff_of_false nofun fun different => different rfl
      | bool value | number value | string value | array value | object value =>
          exact iff_of_true (Json.same_self _) nofun

mutual

/-- An expression is equal to what is left of it without nulls exactly when
nothing was left out. -/
theorem same_withoutNulls :
    (expression : Expression) →
      (expression.same expression.withoutNulls = true ↔
        ∀ inner ∈ expression.withArguments, inner.constant ≠ some .null)
  | .mk qualifier parts constant origin => by
    rw [withoutNulls, same_mk, withArguments, List.forall_mem_cons,
      ← sameParts_withoutNulls parts, beq_self_eq_true, beq_self_eq_true,
      Bool.true_and, Bool.and_true, Bool.and_eq_true, sameConstant_unlessNull,
      and_comm]
    rfl

/-- A part is the same without null constants exactly when none of its arguments
has one. -/
theorem samePart_withoutNulls :
    (part : Part) →
      (samePart part (partWithoutNulls part) = true ↔
        ∀ inner ∈ argumentsOfAll part.arguments, inner.constant ≠ some .null)
  | .property name => by
    rw [partWithoutNulls, samePart, beq_self_eq_true]
    exact iff_of_true rfl (List.forall_mem_nil _)
  | .method name arguments => by
    rw [partWithoutNulls, samePart, beq_self_eq_true, Bool.true_and,
      sameAll_withoutNulls arguments]
    rfl

theorem sameParts_withoutNulls :
    (parts : List Part) →
      (sameParts parts (partsWithoutNulls parts) = true ↔
        ∀ inner ∈ argumentsOfParts parts, inner.constant ≠ some .null)
  | [] =>
      iff_of_true (by rw [partsWithoutNulls, sameParts]) (List.forall_mem_nil _)
  | part :: rest => by
    rw [partsWithoutNulls, sameParts, Bool.and_eq_true,
      samePart_withoutNulls part, sameParts_withoutNulls rest,
      argumentsOfParts_cons, List.forall_mem_append]

theorem sameAll_withoutNulls :
    (expressions : List Expression) →
      (sameAll expressions (allWithoutNulls expressions) = true ↔
        ∀ inner ∈ argumentsOfAll expressions, inner.constant ≠ some .null)
  | [] => iff_of_true (by rw [allWithoutNulls, sameAll]) (List.forall_mem_nil _)
  | expression :: rest => by
    rw [allWithoutNulls, sameAll, Bool.and_eq_true,
      same_withoutNulls expression,
      sameAll_withoutNulls rest, argumentsOfAll, List.forall_mem_append]

end

mutual

/-- An expression without null constants stays as it is when they are taken
out. -/
theorem withoutNulls_eq :
    (expression : Expression) →
      (∀ inner ∈ expression.withArguments, inner.constant ≠ some .null) →
        expression.withoutNulls = expression
  | .mk qualifier parts constant origin, free => by
    rcases List.forall_mem_cons.mp free with ⟨own, inside⟩
    have kept : constant.bind unlessNull = constant := by
      cases constant with
      | none => rfl
      | some value => cases value <;> first | rfl | exact absurd rfl own
    rw [withoutNulls, partsWithoutNulls_eq parts inside, kept]

theorem partWithoutNulls_eq :
    (part : Part) →
      (∀ inner ∈ argumentsOfAll part.arguments, inner.constant ≠ some .null) →
      partWithoutNulls part = part
  | .property _, _ => rfl
  | .method _ arguments, free => by
    rw [partWithoutNulls, allWithoutNulls_eq arguments free]

theorem partsWithoutNulls_eq :
    (parts : List Part) →
      (∀ inner ∈ argumentsOfParts parts, inner.constant ≠ some .null) →
      partsWithoutNulls parts = parts
  | [], _ => rfl
  | part :: rest, free => by
    rw [argumentsOfParts_cons, List.forall_mem_append] at free
    rw [partsWithoutNulls, partWithoutNulls_eq part free.1,
      partsWithoutNulls_eq rest free.2]

theorem allWithoutNulls_eq :
    (expressions : List Expression) →
      (∀ inner ∈ argumentsOfAll expressions, inner.constant ≠ some .null) →
        allWithoutNulls expressions = expressions
  | [], _ => rfl
  | expression :: rest, free => by
    rcases List.forall_mem_append.mp free with ⟨first, others⟩
    rw [allWithoutNulls, withoutNulls_eq expression first,
      allWithoutNulls_eq rest others]

end

/-- The document of an expression, and the document of its data value. -/
theorem exists_value_toDocument
    {expression : Expression}
    (sorted : ∀ inner ∈ expression.withArguments, inner.ConstantSorted) :
    ∃ value, expression.toDocument.value? = some value ∧
      Document.ofValue value = expression.arranged .byName := by
  have normalizes := normalizes_arranged .written expression sorted
  rwa [arranged_written] at normalizes

/-- None of the expressions in an expression, at any depth, is a null
constant. -/
def NullFree (expression : Expression) : Prop :=
  ∀ inner ∈ expression.withArguments, inner.constant ≠ some .null

/--
Writing an expression as a document and reading it back.  The document of every
expression has a data value, and both the document and that data value are read
as the same expression.  It is equal to the one that was written exactly when
none of the expressions in that one is a null constant; then it is the same in
all respects, and in particular the literals and the names that are looked up in
the data of a render are the same at every depth.
-/
theorem reads_back_iff_nullFree
    (expression : Expression)
    (sorted : ∀ inner ∈ expression.withArguments, inner.ConstantSorted) :
    ∃ value, expression.toDocument.value? = some value ∧
      ∀ document, document = expression.toDocument ∨
        document = Document.ofValue value →
        ∃ read, ofDocument? document = some read ∧
          (expression.same read = true ↔ expression.NullFree) ∧
          (expression.NullFree → read = expression ∧
            read.withArguments.map literalValue? =
              expression.withArguments.map literalValue? ∧
            read.withArguments.map topLevelName? =
              expression.withArguments.map topLevelName?) := by
  rcases exists_value_toDocument sorted with ⟨value, written, rewritten⟩
  refine ⟨value, written, ?_⟩
  intro document isDocument
  refine ⟨expression.withoutNulls, ?reads, same_withoutNulls expression, ?kept⟩
  case reads =>
    rcases isDocument with rfl | rfl
    · rw [← arranged_written]
      exact ofDocument?_arranged .written sorted
    · rw [rewritten]
      exact ofDocument?_arranged .byName sorted
  case kept =>
    intro free
    rw [withoutNulls_eq expression free]
    exact ⟨rfl, rfl, rfl⟩

/-- A method whose arguments are an object with a null in it and a constant. -/
def sampleCall (constant : Json) : Expression :=
  .path (some "msg")
    [.method "hello"
      [.literal (.object [("age", .null), ("name", .string "Ada")])
        ⟨"letter", 3⟩,
        .literal constant ⟨"letter", 3⟩]]
    ⟨"letter", 3⟩

theorem sampleCall_sorted {constant : Json} (sorted : constant.Sorted) :
    ∀ inner ∈ (sampleCall constant).withArguments, inner.ConstantSorted := by
  have person :
      (Json.object [("age", .null), ("name", .string "Ada")]).Sorted :=
    ⟨(by decide : List.Pairwise (· < ·) ["age", "name"]), trivial, trivial,
      trivial⟩
  refine List.forall_mem_cons.mpr ⟨nofun,
    List.forall_mem_cons.mpr ⟨?_, List.forall_mem_singleton.mpr ?_⟩⟩
  · rintro _ ⟨⟩
    exact person
  · rintro _ ⟨⟩
    exact sorted

/-- Null inside a constant is kept, a null constant is not. -/
theorem sampleCall_reads_back :
    ((sampleCall (.bool true)).NullFree ∧
      ∃ read, ofDocument? (sampleCall (.bool true)).toDocument = some read ∧
        read = sampleCall (.bool true)) ∧
    ¬(sampleCall .null).NullFree ∧
      ∃ read, ofDocument? (sampleCall .null).toDocument = some read ∧
        (sampleCall .null).same read = false := by
  have free : (sampleCall (.bool true)).NullFree :=
    List.forall_mem_cons.mpr ⟨nofun,
      List.forall_mem_cons.mpr ⟨nofun, List.forall_mem_singleton.mpr nofun⟩⟩
  have lost : ¬(sampleCall .null).NullFree := fun free =>
    free (literal .null ⟨"letter", 3⟩) (.tail _ (.tail _ (.head _))) rfl
  rcases reads_back_iff_nullFree (sampleCall (.bool true))
    (sampleCall_sorted trivial)
    with ⟨_, _, reads⟩
  rcases reads _ (.inl rfl) with ⟨read, isRead, _, kept⟩
  rcases reads_back_iff_nullFree (sampleCall .null)
    (sampleCall_sorted trivial) with ⟨_, _, reads'⟩
  rcases reads' _ (.inl rfl) with ⟨read', isRead', same', _⟩
  exact ⟨⟨free, read, isRead, (kept free).1⟩, lost, read', isRead',
    Bool.eq_false_iff.mpr fun same => lost (same'.mp same)⟩

end Expression

end Phrasebook
