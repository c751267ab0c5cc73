import Mathlib.Tactic.SplitIfs
import Phrasebook.Scene

/-!
# Data and memos of scenes

Setting the value of a key is seen under that key and nowhere else.  Changing
the memo of one cell leaves every other memo, the explicit values, the
registered cells and the engine as they are, and what is written into the
journal changes no data at all.  Setting a value or registering a computed
binding changes no memo.  Data are idle when no lookup stands in line.
-/

namespace Phrasebook

namespace Dictionary

variable {α β : Type}

@[simp]
theorem get?_insert_self
    (key : String) (value : α) (dictionary : Dictionary α) :
    (insert key value dictionary).get? key = some value := by
  induction dictionary with
  | nil => simp [insert, get?]
  | cons entry rest ih =>
      rcases entry with ⟨other, old⟩
      rw [insert]
      split_ifs with before same
      · simp [get?]
      · simp [get?]
      · have different : (key == other) = false := by
          simpa using same
        simpa [get?, List.lookup_cons, different] using ih

theorem get?_insert_of_ne
    {key asked : String} (different : asked ≠ key)
    (value : α) (dictionary : Dictionary α) :
    (insert key value dictionary).get? asked = dictionary.get? asked := by
  have absent : (asked == key) = false := by
    simpa using different
  induction dictionary with
  | nil => simp [insert, get?, List.lookup_cons, absent]
  | cons entry rest ih =>
      rcases entry with ⟨other, old⟩
      rw [insert]
      split_ifs with before same
      · simp [get?, List.lookup_cons, absent]
      · subst other
        simp [get?, List.lookup_cons, absent]
      · cases asked == other <;>
          simp_all [get?, List.lookup_cons]

theorem get?_map
    (f : α → β) (key : String) (dictionary : Dictionary α) :
    get? key (List.map (fun entry => (entry.1, f entry.2)) dictionary) =
      (dictionary.get? key).map f := by
  induction dictionary with
  | nil => rfl
  | cons entry rest ih =>
      rw [get?] at ih ⊢
      rw [get?, List.map_cons, List.lookup_cons, List.lookup_cons, ih]
      cases key == entry.1 <;> rfl

/-- What is found under a key is among the entries of the dictionary. -/
theorem mem_of_get?
    {key : String} {value : α} {dictionary : Dictionary α}
    (found : dictionary.get? key = some value) :
    (key, value) ∈ dictionary := by
  rcases List.lookup_eq_some_iff.mp found with ⟨before, after, rfl, -⟩
  exact List.mem_append_right _ List.mem_cons_self

end Dictionary

namespace RenderData

/-- The memo of a cell depends on the memos of the data only. -/
theorem memo_congr
    {data data' : RenderData} (memos : data.memos = data'.memos) (cell : Cell) :
    data.memo cell = data'.memo cell := by
  simp only [RenderData.memo, memos]

@[simp]
theorem memo_setMemo_self
    (cell : Cell) (memo : Memo) (data : RenderData) :
    (data.setMemo cell memo).memo cell = memo := by
  simp [RenderData.memo, setMemo]

/-- Taking the entry of one cell out does not change what is found for another
one. -/
theorem lookup_filter_of_ne
    {cell asked : Cell} (different : asked ≠ cell)
    (memos : List (Cell × Memo)) :
    (memos.filter fun entry => !decide (entry.1 = cell)).lookup asked =
      memos.lookup asked := by
  induction memos with
  | nil => rfl
  | cons entry rest ih =>
      rcases entry with ⟨other, memo⟩
      by_cases same : other = cell
      · subst same
        simp [List.lookup_cons, beq_eq_false_iff_ne.mpr different, ih]
      · cases found : asked == other <;>
          simp [List.lookup_cons, same, found, ih]

/-- Setting the memo of one cell leaves the memos of the others alone. -/
theorem memo_setMemo_of_ne
    {cell asked : Cell} (different : asked ≠ cell)
    (memo : Memo) (data : RenderData) :
    (data.setMemo cell memo).memo asked = data.memo asked := by
  have absent : (asked == cell) = false := by
    simpa using different
  simp [RenderData.memo, setMemo, List.lookup_cons, absent,
    lookup_filter_of_ne different]

/-- No lookup stands in line for a computed binding. -/
def Idle (data : RenderData) : Prop :=
  ∀ cell, (data.memo cell).line = []

theorem Idle.of_memos
    {data data' : RenderData}
    (idle : data.Idle) (memos : data'.memos = data.memos) :
    data'.Idle := by
  intro cell
  rw [memo_congr memos cell]
  exact idle cell

end RenderData

namespace Scene

@[simp]
theorem data_log (event : Event) (scene : Scene) :
    (scene.log event).data = scene.data :=
  rfl

@[simp]
theorem memo_updateMemo_self
    (cell : Cell) (change : Memo → Memo) (scene : Scene) :
    (scene.updateMemo cell change).data.memo cell =
      change (scene.data.memo cell) := by
  simp [updateMemo]

/-- Updating the memo of one cell leaves the memos of the others alone. -/
theorem memo_updateMemo_of_ne
    {cell asked : Cell} (different : asked ≠ cell)
    (change : Memo → Memo) (scene : Scene) :
    (scene.updateMemo cell change).data.memo asked =
      scene.data.memo asked := by
  simp [updateMemo, RenderData.memo_setMemo_of_ne different]

end Scene

end Phrasebook
