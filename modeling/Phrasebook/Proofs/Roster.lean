import Mathlib.Data.List.Induction
import Mathlib.Tactic.SplitIfs
import Phrasebook.Roster

/-!
# Keys and values of rosters

Setting the value of a key is seen under that key and nowhere else, and a key
that the roster does not have yet goes to the end.  Hence the roster of a list
of pairs has the keys in the order of their first mention, and under each key
the value of the last pair that has it.
-/

namespace Phrasebook

namespace Roster

variable {α : Type}

theorem get?_cons (asked other : String) (value : α) (rest : Roster α) :
    get? asked ((other, value) :: rest) = if asked = other then some value
      else rest.get? asked := by
  by_cases same : asked = other
  · simp [get?, same]
  · rw [get?, List.lookup_cons, beq_eq_false_iff_ne.mpr same, if_neg same]
    rfl

/-- The value put last is the one found under a key, and the values under the
other keys stay. -/
theorem get?_put (key asked : String) (value : α) (roster : Roster α) :
    (put key value roster).get? asked = if asked = key then some value
      else roster.get? asked := by
  induction roster with
  | nil => exact get?_cons asked key value []
  | cons entry rest ih =>
      rcases entry with ⟨other, old⟩
      rw [put]
      by_cases found : key = other
      · rw [if_pos found, get?_cons, get?_cons, ← found]
        split_ifs <;> rfl
      · rw [if_neg found, get?_cons, get?_cons, ih]
        split_ifs with same same'
        · exact absurd (same'.symm.trans same) found
        · rfl
        · rfl
        · rfl

/-- A key keeps its position when its value is replaced; a new key is
appended. -/
theorem keys_put (key : String) (value : α) (roster : Roster α) :
    (put key value roster).map Prod.fst =
      if key ∈ roster.map Prod.fst then roster.map Prod.fst
        else roster.map Prod.fst ++ [key] := by
  induction roster with
  | nil => rfl
  | cons entry rest ih =>
      rcases entry with ⟨other, old⟩
      rw [put]
      by_cases found : key = other
      · simp [found]
      · rw [if_neg found, List.map_cons, ih]
        split_ifs with inside listed listed <;> simp_all

/-- Setting a value keeps each key once. -/
theorem nodup_put (key : String) (value : α) {roster : Roster α}
    (distinct : (roster.map Prod.fst).Nodup) :
    ((put key value roster).map Prod.fst).Nodup := by
  rw [keys_put]
  split_ifs with listed
  · exact distinct
  · rw [List.nodup_append]
    refine ⟨distinct, List.pairwise_singleton _ key, ?_⟩
    rintro other member _ (single : _ ∈ [key]) rfl
    exact listed (List.mem_singleton.mp single ▸ member)

theorem ofList_concat (pairs : List (String × α)) (key : String) (value : α) :
    ofList (pairs ++ [(key, value)]) = put key value (ofList pairs) := by
  rw [ofList, List.foldl_append]
  rfl

/-- The keys of a list of pairs, each where it is mentioned first. -/
theorem keys_ofList (pairs : List (String × α)) :
    (ofList pairs).map Prod.fst = (pairs.map Prod.fst).eraseDups := by
  induction pairs using List.reverseRecOn with
  | nil => rfl
  | append_singleton pairs last ih =>
      rcases last with ⟨key, value⟩
      rw [ofList_concat, keys_put, ih, List.map_append, List.eraseDups_append]
      by_cases listed : key ∈ pairs.map Prod.fst
      · rw [if_pos (List.mem_eraseDups.mpr listed)]
        simp [List.removeAll, listed]
      · rw [if_neg fun member => listed (List.mem_eraseDups.mp member)]
        simp [List.removeAll, listed, List.eraseDups_cons]

theorem nodup_ofList (pairs : List (String × α)) :
    ((ofList pairs).map Prod.fst).Nodup := by
  induction pairs using List.reverseRecOn with
  | nil => exact List.nodup_nil
  | append_singleton pairs last ih =>
      rw [ofList_concat]
      exact nodup_put last.1 last.2 ih

/-- The last value of a key. -/
theorem get?_ofList (key : String) (pairs : List (String × α)) :
    (ofList pairs).get? key = pairs.reverse.lookup key := by
  induction pairs using List.reverseRecOn with
  | nil => rfl
  | append_singleton pairs last ih =>
      rcases last with ⟨other, value⟩
      rw [ofList_concat, get?_put, ih, List.reverse_concat]
      exact (get?_cons key other value pairs.reverse).symm

end Roster

end Phrasebook
