import Mathlib.Data.List.Induction
import Mathlib.Data.String.Basic
import Phrasebook.Proofs.Scene

/-!
# The order of dictionaries

Setting a key keeps a dictionary sorted and adds the key to its keys.  So the
dictionary of a list of pairs is sorted and gives the last value of each key; it
has the same entries where no key is repeated, and is the list itself where the
list is sorted already.
-/

namespace Phrasebook

namespace Dictionary

variable {α β : Type}

/-- The keys are in ascending order, each once. -/
def Sorted (dictionary : Dictionary α) : Prop :=
  dictionary.keys.Pairwise (· < ·)

theorem keys_cons (entry : String × α) (rest : Dictionary α) :
    keys (entry :: rest) = entry.1 :: rest.keys :=
  rfl

/-- The keys after an insertion are the inserted one and those of before. -/
theorem mem_keys_insert
    {key asked : String} {value : α} {dictionary : Dictionary α} :
    asked ∈ (insert key value dictionary).keys ↔
      asked = key ∨ asked ∈ dictionary.keys := by
  induction dictionary with
  | nil => simp [insert, keys]
  | cons entry rest ih =>
      rcases entry with ⟨other, old⟩
      rw [insert]
      split_ifs with before same
      · rw [keys_cons, List.mem_cons]
      · rw [keys_cons, keys_cons, List.mem_cons, List.mem_cons, same,
          or_self_left]
      · rw [keys_cons, keys_cons, List.mem_cons, List.mem_cons, ih,
          or_left_comm]

/-- Setting a key keeps the order. -/
theorem Sorted.insert {dictionary : Dictionary α} (sorted : dictionary.Sorted)
    (key : String) (value : α) :
    (insert key value dictionary).Sorted := by
  induction dictionary with
  | nil => exact List.pairwise_singleton _ _
  | cons entry rest ih =>
      rcases entry with ⟨other, old⟩
      rcases List.pairwise_cons.mp sorted with ⟨least, others⟩
      rw [Dictionary.insert]
      split_ifs with before same
      · refine List.pairwise_cons.mpr ⟨fun asked member => ?_, sorted⟩
        rcases List.mem_cons.mp member with rfl | later
        · exact before
        · exact before.trans (least asked later)
      · subst same
        exact sorted
      · refine List.pairwise_cons.mpr ⟨fun asked member => ?_, ih others⟩
        rcases mem_keys_insert.mp member with rfl | later
        · exact lt_of_le_of_ne (not_lt.mp before) (Ne.symm same)
        · exact least asked later

/-- A key above all others goes to the end. -/
theorem insert_last {key : String} {dictionary : Dictionary α}
    (above : ∀ asked ∈ dictionary.keys, asked < key) (value : α) :
    insert key value dictionary = dictionary ++ [(key, value)] := by
  induction dictionary with
  | nil => rfl
  | cons entry rest ih =>
      rcases entry with ⟨other, old⟩
      have below : other < key := above other List.mem_cons_self
      rw [insert, if_neg below.asymm, if_neg below.ne',
        ih fun asked member => above asked (List.mem_cons_of_mem _ member)]
      rfl

/-- A new key is one more entry. -/
theorem insert_perm
    {key : String} {dictionary : Dictionary α} (absent : key ∉ dictionary.keys)
    (value : α) :
    (insert key value dictionary).Perm ((key, value) :: dictionary) := by
  induction dictionary with
  | nil => exact .refl _
  | cons entry rest ih =>
      rcases entry with ⟨other, old⟩
      rw [keys_cons, List.mem_cons, not_or] at absent
      rw [insert, if_neg absent.1]
      split_ifs with before
      · exact .refl _
      · exact ((ih absent.2).cons _).trans (.swap _ _ _)

theorem map_insert
    (f : α → β) (key : String) (value : α) (dictionary : Dictionary α) :
    (insert key value dictionary).map (fun entry => (entry.1, f entry.2)) =
      insert key (f value) (dictionary.map fun entry =>
        (entry.1, f entry.2)) := by
  induction dictionary with
  | nil => rfl
  | cons entry rest ih =>
      rcases entry with ⟨other, old⟩
      by_cases before : key < other
      · rw [insert, if_pos before, List.map_cons, List.map_cons, insert,
          if_pos before]
      · by_cases same : key = other
        · rw [insert, if_neg before, if_pos same, List.map_cons, List.map_cons,
            insert, if_neg before, if_pos same]
        · rw [insert, if_neg before, if_neg same, List.map_cons, List.map_cons,
            insert, if_neg before, if_neg same, ih]

theorem ofList_concat (pairs : List (String × α)) (key : String) (value : α) :
    ofList (pairs ++ [(key, value)]) = insert key value (ofList pairs) := by
  rw [ofList, List.foldl_append]
  rfl

theorem map_ofList (f : α → β) (pairs : List (String × α)) :
    (ofList pairs).map (fun entry => (entry.1, f entry.2)) =
      ofList (pairs.map fun entry => (entry.1, f entry.2)) := by
  induction pairs using List.reverseRecOn with
  | nil => rfl
  | append_singleton pairs last ih =>
      rw [ofList_concat, map_insert, ih, List.map_append, List.map_singleton,
        ofList_concat]

theorem sorted_ofList (pairs : List (String × α)) : (ofList pairs).Sorted := by
  induction pairs using List.reverseRecOn with
  | nil => exact List.Pairwise.nil
  | append_singleton pairs last ih =>
      rw [ofList_concat]
      exact ih.insert last.1 last.2

theorem mem_keys_ofList {asked : String} {pairs : List (String × α)} :
    asked ∈ (ofList pairs).keys ↔ ∃ value, (asked, value) ∈ pairs := by
  induction pairs using List.reverseRecOn with
  | nil => exact iff_of_false List.not_mem_nil fun ⟨_, member⟩ =>
      List.not_mem_nil member
  | append_singleton pairs last ih =>
      rcases last with ⟨key, value⟩
      simp only [ofList_concat, mem_keys_insert, ih, List.mem_append,
        List.mem_singleton, Prod.mk.injEq,
        exists_or, exists_and_left, exists_eq, and_true]
      exact or_comm

/-- The last pair of a key wins. -/
theorem get?_ofList (asked : String) (pairs : List (String × α)) :
    (ofList pairs).get? asked = pairs.reverse.lookup asked := by
  induction pairs using List.reverseRecOn with
  | nil => rfl
  | append_singleton pairs last ih =>
      rcases last with ⟨key, value⟩
      rw [ofList_concat, List.reverse_append, List.reverse_singleton,
        List.singleton_append, List.lookup_cons]
      by_cases same : asked = key
      · rw [same, get?_insert_self, beq_self_eq_true]
      · rw [get?_insert_of_ne same, ih, beq_eq_false_iff_ne.mpr same]

/-- A sorted dictionary is the one of its pairs. -/
theorem ofList_of_sorted {pairs : Dictionary α} (sorted : pairs.Sorted) :
    ofList pairs = pairs := by
  induction pairs using List.reverseRecOn with
  | nil => rfl
  | append_singleton pairs last ih =>
      rcases last with ⟨key, value⟩
      rw [Sorted, keys, List.map_append, List.pairwise_append] at sorted
      rw [ofList_concat, ih sorted.1]
      exact insert_last (fun asked member =>
        sorted.2.2 asked member key List.mem_cons_self) value

/-- With distinct keys no pair gets lost in a dictionary. -/
theorem ofList_perm {pairs : List (String × α)} (nodup : (keys pairs).Nodup) :
    (ofList pairs).Perm pairs := by
  induction pairs using List.reverseRecOn with
  | nil => exact .refl _
  | append_singleton pairs last ih =>
      rcases last with ⟨key, value⟩
      rw [keys, List.map_append, List.nodup_append] at nodup
      have earlier := ih nodup.1
      have absent : key ∉ (ofList pairs).keys := fun member =>
        nodup.2.2 key ((earlier.map Prod.fst).mem_iff.mp member) key
          List.mem_cons_self rfl
      rw [ofList_concat]
      exact ((insert_perm absent value).trans (earlier.cons _)).trans
        (List.perm_append_singleton _ _).symm

/-- Where no key is repeated, the order of the pairs does not matter. -/
theorem ofList_congr
    {pairs pairs' : List (String × α)} (perm : pairs.Perm pairs')
    (nodup : (keys pairs).Nodup) :
    ofList pairs = ofList pairs' := by
  have nodup' : (keys pairs').Nodup := (perm.map Prod.fst).nodup_iff.mp nodup
  refine List.Perm.eq_of_pairwise ?_
    (List.pairwise_map.mp (sorted_ofList pairs))
    (List.pairwise_map.mp (sorted_ofList pairs'))
    ((ofList_perm nodup).trans (perm.trans (ofList_perm nodup').symm))
  intro entry entry' _ _ before after
  exact (before.asymm after).elim

/-- In a dictionary with distinct keys every pair is found. -/
theorem get?_of_mem {key : String} {value : α} {dictionary : Dictionary α}
    (nodup : dictionary.keys.Nodup) (member : (key, value) ∈ dictionary) :
    dictionary.get? key = some value := by
  induction dictionary with
  | nil => cases member
  | cons entry rest ih =>
      rcases entry with ⟨other, old⟩
      rcases List.nodup_cons.mp nodup with ⟨fresh, others⟩
      rw [get?, List.lookup_cons]
      rcases List.mem_cons.mp member with same | later
      · cases same
        rw [beq_self_eq_true]
      · have different : key ≠ other := by
          rintro rfl
          exact fresh (List.mem_map.mpr ⟨_, later, rfl⟩)
        rw [beq_eq_false_iff_ne.mpr different]
        exact ih others later

/-- Where no key is repeated, lookups do not depend on the order of the
entries. -/
theorem get?_perm
    {dictionary dictionary' : Dictionary α} (perm : dictionary.Perm dictionary')
    (nodup : dictionary.keys.Nodup) (key : String) :
    dictionary.get? key = dictionary'.get? key := by
  have nodup' : dictionary'.keys.Nodup := (perm.map Prod.fst).nodup_iff.mp nodup
  refine Option.ext fun value => ⟨fun found => ?_, fun found => ?_⟩
  · exact get?_of_mem nodup' (perm.mem_iff.mp (mem_of_get? found))
  · exact get?_of_mem nodup (perm.mem_iff.mpr (mem_of_get? found))

end Dictionary

end Phrasebook
