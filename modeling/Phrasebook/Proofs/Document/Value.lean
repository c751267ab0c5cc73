import Mathlib.Data.List.Nodup
import Mathlib.Data.List.Perm.Basic
import Phrasebook.Document.Record
import Phrasebook.Proofs.Dictionary

/-!
# Documents that write data values

The document of a data value is read as that value, for the keys of its objects
are in order already.  A mapping with texts for keys has a value as soon as its
fields have; the document of that value has the same fields, in the order of
their keys.  A record is read from such a mapping, in whatever order its fields
stand.
-/

namespace Phrasebook

namespace Json

mutual

/-- The keys of every object in a value are in ascending order, each once. -/
def Sorted : Json → Prop
  | .array items => ItemsSorted items
  | .object entries => Dictionary.Sorted entries ∧ EntriesSorted entries
  | _ => True

/-- Every item of a list is sorted. -/
def ItemsSorted : List Json → Prop
  | [] => True
  | item :: rest => Sorted item ∧ ItemsSorted rest

/-- The value of every entry of a list is sorted. -/
def EntriesSorted : List (String × Json) → Prop
  | [] => True
  | entry :: rest => Sorted entry.2 ∧ EntriesSorted rest

end

end Json

namespace Document

theorem ofEntries_eq (entries : List (String × Json)) :
    ofEntries entries = entries.map fun entry =>
      (.string entry.1, ofValue entry.2) := by
  induction entries with
  | nil => rfl
  | cons entry rest ih => rw [ofEntries, ih, List.map_cons]

mutual

/-- The document of a value is read as that value. -/
theorem value?_ofValue :
    (value : Json) → value.Sorted → (ofValue value).value? = some value
  | .null, _ => rfl
  | .bool _, _ => rfl
  | .number _, _ => rfl
  | .string _, _ => rfl
  | .array items, sorted => by
    rw [ofValue, value?, itemValues?_ofItems items sorted, Option.map_some]
  | .object entries, sorted => by
    rw [ofValue, value?, entryValues?_ofEntries entries sorted.2,
      Option.map_some, Json.ofPairs, Dictionary.ofList_of_sorted sorted.1]

/-- Sorted items are read back from their documents. -/
theorem itemValues?_ofItems :
    (items : List Json) → Json.ItemsSorted items →
      itemValues? (ofItems items) = some items
  | [], _ => rfl
  | item :: rest, sorted => by
    rw [ofItems, itemValues?, value?_ofValue item sorted.1,
      itemValues?_ofItems rest sorted.2]
    rfl

theorem entryValues?_ofEntries :
    (entries : List (String × Json)) → Json.EntriesSorted entries →
      entryValues? (ofEntries entries) = some entries
  | [], _ => rfl
  | entry :: rest, sorted => by
    rw [ofEntries, entryValues?, value?_ofValue entry.2 sorted.1,
      entryValues?_ofEntries rest sorted.2]
    rfl

end

/-- A document that has a value, and the document of that value. -/
def Normalizes (document normal : Document) : Prop :=
  ∃ value, document.value? = some value ∧ ofValue value = normal

section Records

variable {fields normals : List (String × Document)}

theorem named?_ofNamed (fields : List (String × Document)) :
    named? (fields.map fun field => (.string field.1, field.2)) =
      some fields := by
  induction fields with
  | nil => rfl
  | cons field rest ih =>
      rw [List.map_cons, named?, ih]
      rfl

/-- Two lists of fields with the same names, where each of the second is what
the first one normalizes to. -/
abbrev FieldsNormalize (fields normals : List (String × Document)) : Prop :=
  List.Forall₂ (fun field normal => field.1 = normal.1 ∧
    field.2.Normalizes normal.2) fields normals

/-- Fields that normalize are the documents of pairs. -/
theorem FieldsNormalize.exists_pairs
    (normalize : FieldsNormalize fields normals) :
    ∃ pairs, entryValues? (fields.map fun field => (.string field.1, field.2)) =
      some pairs ∧
      pairs.map (fun pair => (pair.1, ofValue pair.2)) = normals := by
  induction normalize with
  | nil => exact ⟨[], rfl, rfl⟩
  | @cons field normal fields normals first _ ih =>
      rcases field with ⟨name, document⟩
      rcases normal with ⟨_, normal⟩
      rcases first with ⟨rfl, value, reads, rfl⟩
      rcases ih with ⟨pairs, others, rfl⟩
      refine ⟨(name, value) :: pairs, ?_, rfl⟩
      rw [List.map_cons, entryValues?, reads, others]
      rfl

theorem FieldsNormalize.names (normalize : FieldsNormalize fields normals) :
    fields.map Prod.fst = normals.map Prod.fst := by
  induction normalize with
  | nil => rfl
  | cons first _ ih => rw [List.map_cons, List.map_cons, first.1, ih]

/-- A record normalizes to the record of its normalized fields in the order of
their names, in whatever order they stood. -/
theorem FieldsNormalize.ofNamed
    (normalize : FieldsNormalize fields normals)
    {arranged : List (String × Document)}
    (perm : arranged.Perm fields) (nodup : (fields.map Prod.fst).Nodup) :
    (ofNamed arranged).Normalizes (ofNamed (Dictionary.ofList normals)) := by
  rcases List.perm_comp_forall₂ perm normalize with
    ⟨rearranged, normalize', perm'⟩
  have nodup' : (Dictionary.keys rearranged).Nodup := by
    rw [Dictionary.keys, ← FieldsNormalize.names normalize']
    exact (perm.map Prod.fst).nodup_iff.mpr nodup
  rw [← Dictionary.ofList_congr perm' nodup']
  rcases FieldsNormalize.exists_pairs normalize' with ⟨pairs, reads, rfl⟩
  refine ⟨Json.ofPairs pairs, ?_, ?_⟩
  · rw [Document.ofNamed, value?, reads, Option.map_some]
  · rw [Json.ofPairs, ofValue, ofEntries_eq, ← Dictionary.map_ofList,
      Document.ofNamed, List.map_map]
    rfl

end Records

/-- A sequence normalizes item by item. -/
theorem normalizes_sequence {items normals : List Document}
    (normalize : List.Forall₂ Normalizes items normals) :
    (sequence items).Normalizes (sequence normals) := by
  have values : ∃ values, itemValues? items = some values ∧
      ofItems values = normals := by
    induction normalize with
    | nil => exact ⟨[], rfl, rfl⟩
    | cons first _ ih =>
        rcases first with ⟨value, reads, rfl⟩
        rcases ih with ⟨values, others, rfl⟩
        refine ⟨value :: values, ?_, rfl⟩
        rw [itemValues?, reads, others]
        rfl
  rcases values with ⟨values, reads, rfl⟩
  exact ⟨.array values, by rw [value?, reads, Option.map_some], rfl⟩

end Document

namespace Record

/-- A record is read from the fields of a mapping, in whatever order they
stand. -/
theorem ofDocument?_ofNamed
    {names : List String} {fields arranged : List (String × Document)}
    (perm : arranged.Perm fields) (nodup : (fields.map Prod.fst).Nodup) :
    ofDocument? names (.ofNamed arranged) =
      some ⟨false, names.map fun name => Dictionary.get? name fields⟩ := by
  have nodup' : (arranged.map Prod.fst).Nodup :=
    (perm.map Prod.fst).nodup_iff.mpr nodup
  have once : ∀ name,
      (arranged.filter fun field => field.1 == name).length ≤ 1 := by
    intro name
    have count := List.nodup_iff_count_le_one.mp nodup' name
    rwa [List.count, List.countP_map, List.countP_eq_length_filter] at count
  have lookups :
      (names.map fun name => Dictionary.get? name arranged) =
        names.map fun name => Dictionary.get? name fields :=
    List.map_congr_left fun name _ => Dictionary.get?_perm perm nodup' name
  show ofEntries? names (arranged.map fun field => (.string field.1, field.2)) =
    _
  rw [ofEntries?, Document.named?_ofNamed, ← lookups]
  exact if_pos (List.all_eq_true.mpr fun name _ => decide_eq_true (once name))

end Record

end Phrasebook
