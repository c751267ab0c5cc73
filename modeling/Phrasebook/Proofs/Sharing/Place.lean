import Mathlib.Data.List.Nodup
import Mathlib.Data.Set.Lattice
import Mathlib.Order.CompletePartialOrder
import Phrasebook.Proofs.ComputedBinding

/-!
# Places in line

Evaluations of one render share the memos of the computed bindings.  An
evaluation that waits for a binding, or runs its supplier, holds a place in the
line of that binding, and no two evaluations hold the same place.

A `Step` is what one evaluation may do to a scene on which others act as well:
it may give up places that it holds and take new ones, it may keep the value of
a binding, and every other place stays in line unless the value it waits for has
been kept.  Steps compose, and places that somebody else holds can be added to
both sides of a step; so a step of one evaluation is a step of every group of
evaluations that it belongs to.
-/

namespace Phrasebook

/-- A place in the line of a computed binding: its cell and a ticket. -/
abbrev Place := Cell × Nat

namespace Scene

/-- Somebody stands at a place. -/
def InLine (place : Place) (scene : Scene) : Prop :=
  place.2 ∈ (scene.data.memo place.1).line

/-- A place is the first one in its line. -/
def IsFirst (place : Place) (scene : Scene) : Prop :=
  (scene.data.memo place.1).line.head? = some place.2

/-- The value of a computed binding has been kept. -/
def IsKept (cell : Cell) (scene : Scene) : Prop :=
  (scene.data.memo cell).value ≠ none

/-- Places that have been given out, and stay in line until their binding is
kept. -/
def Holds (places : Set Place) (scene : Scene) : Prop :=
  ∀ place ∈ places,
    place.2 < scene.nextTicket place.1 ∧
      (scene.InLine place ∨ scene.IsKept place.1)

theorem holds_empty (scene : Scene) : scene.Holds ∅ := by
  intro place member
  exact member.elim

theorem holds_union
    {places more : Set Place} {scene : Scene} :
    scene.Holds (places ∪ more) ↔ scene.Holds places ∧ scene.Holds more := by
  constructor
  · intro holds
    exact ⟨fun place member => holds place (.inl member),
      fun place member => holds place (.inr member)⟩
  · rintro ⟨left, right⟩ place (member | member)
    · exact left place member
    · exact right place member

end Scene

/-- The memo of a binding whose supplier ends in `supplied` and whose lookups
find `computed`; one that does not end in a value is `none`. -/
structure Memo.Sound (supplied computed : Option Settled) (memo : Memo) :
    Prop where
  kept : ∀ settled, memo.value = some settled → computed = some settled
  unkept : memo.value = none → computed = supplied
  dismissed : memo.value ≠ none → memo.line = []
  issued : ∀ ticket ∈ memo.line, ticket < memo.nextTicket
  distinct : memo.line.Nodup

/-- The data that a render started with, and what the supplier of each binding
ends in. -/
structure Setting where
  start : RenderData
  supplied : Cell → Option Settled

namespace Setting

/-- What the lookups of a binding find: the value that was kept before the
render, and otherwise what the supplier ends in. -/
def computed (setting : Setting) (cell : Cell) : Option Settled :=
  (setting.start.memo cell).value <|> setting.supplied cell

/-- A scene of the render. -/
structure Sound (setting : Setting) (scene : Scene) : Prop where
  explicit : scene.data.explicit = setting.start.explicit
  computed : scene.data.computed = setting.start.computed
  memo : ∀ cell,
    (scene.data.memo cell).Sound (setting.supplied cell) (setting.computed cell)

/-- What an evaluation that holds `held` before and `held'` after may do to a
scene. -/
structure Step
    (setting : Setting) (held held' : Set Place) (before after : Scene) :
    Prop where
  sound : setting.Sound after
  kept : ∀ cell, before.IsKept cell → after.IsKept cell
  tickets : ∀ cell, before.nextTicket cell ≤ after.nextTicket cell
  fresh : ∀ place ∈ held', place ∈ held ∨ before.nextTicket place.1 ≤ place.2
  others :
    ∀ place, before.InLine place → place ∉ held →
      after.InLine place ∨ after.IsKept place.1
  owned :
    ∀ place, after.InLine place → place ∈ held' ∨ before.InLine place ∧
      place ∉ held
  holds : after.Holds held'

variable {setting : Setting} {held held' held'' frame : Set Place}
  {before between after : Scene}

/-- In a sound scene a place whose ticket is not yet given out is in no line. -/
theorem Sound.issued
    (sound : setting.Sound before) {place : Place}
    (inLine : before.InLine place) :
    place.2 < before.nextTicket place.1 :=
  (sound.memo place.1).issued _ inLine

namespace Step

theorem refl
    (sound : setting.Sound before) (holds : before.Holds held) :
    setting.Step held held before before where
  sound := sound
  kept := fun _ kept => kept
  tickets := fun _ => le_rfl
  fresh := fun _ member => .inl member
  others := fun _ inLine _ => .inl inLine
  owned := by
    intro place inLine
    by_cases member : place ∈ held
    · exact .inl member
    · exact .inr ⟨inLine, member⟩
  holds := holds

theorem trans
    (sound : setting.Sound before)
    (first : setting.Step held held' before between)
    (second : setting.Step held' held'' between after) :
    setting.Step held held'' before after where
  sound := second.sound
  kept := fun cell kept => second.kept cell (first.kept cell kept)
  tickets := fun cell => (first.tickets cell).trans (second.tickets cell)
  fresh := by
    intro place member
    rcases second.fresh place member with earlier | later
    · exact first.fresh place earlier
    · exact .inr ((first.tickets place.1).trans later)
  others := by
    intro place inLine outside
    have outside' : place ∉ held' := by
      intro member
      rcases first.fresh place member with earlier | later
      · exact outside earlier
      · exact absurd (sound.issued inLine) (not_lt.mpr later)
    rcases first.others place inLine outside with still | kept
    · exact second.others place still outside'
    · exact .inr (second.kept place.1 kept)
  owned := by
    intro place inLine
    rcases second.owned place inLine with mine | ⟨earlier, outside⟩
    · exact .inl mine
    · exact .inr ((first.owned place earlier).resolve_left outside)
  holds := second.holds

/-- Places that nobody in the step held are still good after it. -/
theorem keeps_holds
    (step : setting.Step held held' before after)
    (holds : before.Holds frame) (apart : Disjoint held frame) :
    after.Holds frame := by
  intro place member
  have outside : place ∉ held := fun inside =>
    Set.disjoint_left.mp apart inside member
  refine ⟨(holds place member).1.trans_le (step.tickets place.1), ?_⟩
  rcases (holds place member).2 with inLine | kept
  · exact step.others place inLine outside
  · exact .inr (step.kept place.1 kept)

/-- A step takes no place that somebody else already holds. -/
theorem disjoint
    (step : setting.Step held held' before after)
    (holds : before.Holds frame) (apart : Disjoint held frame) :
    Disjoint held' frame := by
  refine Set.disjoint_left.mpr fun place mine theirs => ?_
  rcases step.fresh place mine with earlier | later
  · exact Set.disjoint_left.mp apart earlier theirs
  · exact absurd (holds place theirs).1 (not_lt.mpr later)

/-- A step is a step of everybody, with the places that the others hold on both
sides. -/
theorem beside
    (step : setting.Step held held' before after)
    (holds : before.Holds frame) (apart : Disjoint held frame) :
    setting.Step (held ∪ frame) (held' ∪ frame) before after where
  sound := step.sound
  kept := step.kept
  tickets := step.tickets
  fresh := by
    rintro place (mine | theirs)
    · exact (step.fresh place mine).imp_left .inl
    · exact .inl (.inr theirs)
  others := fun place inLine outside =>
    step.others place inLine fun member => outside (.inl member)
  owned := by
    intro place inLine
    by_cases theirs : place ∈ frame
    · exact .inl (.inr theirs)
    rcases step.owned place inLine with mine | ⟨earlier, outside⟩
    · exact .inl (.inl mine)
    · exact .inr ⟨earlier, fun member => member.elim outside theirs⟩
  holds := Scene.holds_union.mpr ⟨step.holds, step.keeps_holds holds apart⟩

theorem beside_left
    (step : setting.Step held held' before after)
    (holds : before.Holds frame) (apart : Disjoint frame held) :
    setting.Step (frame ∪ held) (frame ∪ held') before after := by
  rw [Set.union_comm frame held, Set.union_comm frame held']
  exact step.beside holds apart.symm

theorem of_unchanged
    (sound : setting.Sound before)
    (explicit : after.data.explicit = before.data.explicit)
    (computed : after.data.computed = before.data.computed)
    (value : ∀ cell, (after.data.memo cell).value =
      (before.data.memo cell).value)
    (line : ∀ cell, (after.data.memo cell).line = (before.data.memo cell).line)
    (nextTicket : ∀ cell, after.nextTicket cell = before.nextTicket cell)
    (holds : before.Holds held) :
    setting.Step held held before after := by
  have inLine : ∀ place, after.InLine place ↔ before.InLine place := by
    intro place
    rw [Scene.InLine, Scene.InLine, line]
  have isKept : ∀ cell, after.IsKept cell ↔ before.IsKept cell := by
    intro cell
    rw [Scene.IsKept, Scene.IsKept, value]
  have same := refl sound holds
  constructor
  case sound =>
    refine ⟨explicit.trans sound.explicit, computed.trans sound.computed,
      fun cell => ?_⟩
    rcases sound.memo cell with ⟨kept, unkept, dismissed, issued, distinct⟩
    have counter : (after.data.memo cell).nextTicket =
        (before.data.memo cell).nextTicket :=
      nextTicket cell
    constructor
    case kept => rwa [value]
    case unkept => rwa [value]
    case dismissed => rwa [value, line]
    case issued => rwa [line, counter]
    case distinct => rwa [line]
  case kept => exact fun cell => (isKept cell).mpr
  case tickets => exact fun cell => (nextTicket cell).ge
  case fresh => exact same.fresh
  case others =>
    intro place present outside
    exact .inl ((inLine place).mpr present)
  case owned =>
    intro place present
    exact same.owned place ((inLine place).mp present)
  case holds =>
    intro place member
    rw [inLine, isKept, nextTicket]
    exact holds place member

theorem of_data
    (sound : setting.Sound before) (data : after.data = before.data)
    (holds : before.Holds held) :
    setting.Step held held before after :=
  of_unchanged sound (by rw [data]) (by rw [data]) (by simp [data])
    (by simp [data])
    (by simp [Scene.nextTicket, data]) holds

/-- Places that are in no line any more can be forgotten. -/
theorem of_dismissed
    (sound : setting.Sound before)
    (dismissed : ∀ place ∈ held, ¬ before.InLine place) :
    setting.Step held ∅ before before where
  sound := sound
  kept := fun _ kept => kept
  tickets := fun _ => le_rfl
  fresh := fun _ member => member.elim
  others := fun _ inLine _ => .inl inLine
  owned := fun place inLine =>
    .inr ⟨inLine, fun member => dismissed place member inLine⟩
  holds := Scene.holds_empty before

end Step

/-- What happens to the memo of one binding in a step, told by tickets. -/
structure MemoStep (held held' : Set Nat) (before after : Memo) : Prop where
  kept : before.value ≠ none → after.value ≠ none
  tickets : before.nextTicket ≤ after.nextTicket
  fresh : ∀ ticket ∈ held', ticket ∈ held ∨ before.nextTicket ≤ ticket
  others :
    ∀ ticket ∈ before.line, ticket ∉ held → ticket ∈ after.line ∨
      after.value ≠ none
  owned : ∀ ticket ∈ after.line, ticket ∈ held' ∨ ticket ∈ before.line ∧
    ticket ∉ held
  holds : ∀ ticket ∈ held', ticket < after.nextTicket ∧
    (ticket ∈ after.line ∨ after.value ≠ none)

/-- A change of the memo of one binding is a step of the places in its line. -/
theorem MemoStep.step
    {cell : Cell} (change : Memo → Memo) {tickets tickets' : Set Nat}
    (sound : setting.Sound before)
    (memoSound :
      (change (before.data.memo cell)).Sound (setting.supplied cell)
      (setting.computed cell))
    (step : MemoStep tickets tickets' (before.data.memo cell)
      (change (before.data.memo cell))) :
    setting.Step (Prod.mk cell '' tickets) (Prod.mk cell '' tickets') before
      (before.updateMemo cell change) := by
  have here := Scene.memo_updateMemo_self cell change before
  have elsewhere :
      ∀ {asked : Cell}, asked ≠ cell →
        (before.updateMemo cell change).data.memo asked =
            before.data.memo asked :=
    fun different => Scene.memo_updateMemo_of_ne different change before
  constructor
  case sound =>
    refine ⟨sound.explicit, sound.computed, fun asked => ?_⟩
    by_cases same : asked = cell
    · subst same
      rwa [here]
    · rw [elsewhere same]
      exact sound.memo asked
  case kept =>
    intro asked
    rw [Scene.IsKept, Scene.IsKept]
    by_cases same : asked = cell
    · subst same
      rw [here]
      exact step.kept
    · rw [elsewhere same]
      exact id
  case tickets =>
    intro asked
    rw [Scene.nextTicket, Scene.nextTicket]
    by_cases same : asked = cell
    · subst same
      rw [here]
      exact step.tickets
    · rw [elsewhere same]
  case fresh =>
    rintro _ ⟨ticket, member, rfl⟩
    rcases step.fresh ticket member with earlier | later
    · exact .inl ⟨ticket, earlier, rfl⟩
    · exact .inr later
  case others =>
    rintro ⟨asked, ticket⟩ inLine outside
    rw [Scene.InLine, Scene.IsKept]
    by_cases same : asked = cell
    · subst same
      rw [here]
      exact step.others ticket inLine fun member =>
        outside ⟨ticket, member, rfl⟩
    · rw [elsewhere same]
      exact .inl inLine
  case owned =>
    rintro ⟨asked, ticket⟩ inLine
    rw [Scene.InLine] at inLine
    by_cases same : asked = cell
    · subst same
      rw [here] at inLine
      rcases step.owned ticket inLine with mine | ⟨earlier, outside⟩
      · exact .inl ⟨ticket, mine, rfl⟩
      · refine .inr ⟨earlier, ?_⟩
        rintro ⟨other, member, equal⟩
        obtain rfl : other = ticket := congrArg Prod.snd equal
        exact outside member
    · rw [elsewhere same] at inLine
      refine .inr ⟨inLine, ?_⟩
      rintro ⟨other, member, equal⟩
      exact same (congrArg Prod.fst equal).symm
  case holds =>
    rintro _ ⟨ticket, member, rfl⟩
    rw [Scene.InLine, Scene.IsKept, Scene.nextTicket, here]
    exact step.holds ticket member

section Moves

variable {cell : Cell} {ticket : Nat} {memo : Memo}
  {supplied computed : Option Settled}

/-- Joining a line keeps the setting sound. -/
theorem sound_join
    (sound : memo.Sound supplied computed) (notKept : memo.value = none) :
    memo.join.2.Sound supplied computed where
  kept := sound.kept
  unkept := sound.unkept
  dismissed := fun kept => (kept notKept).elim
  issued := by
    intro ticket member
    rcases List.mem_append.mp member with earlier | new
    · exact Nat.lt_succ_of_lt (sound.issued ticket earlier)
    · rw [List.mem_singleton.mp new]
      exact Nat.lt_succ_self _
  distinct := by
    refine List.nodup_append.mpr ⟨sound.distinct, List.nodup_singleton _, ?_⟩
    intro ticket earlier other new
    rw [List.mem_singleton.mp new]
    exact (sound.issued ticket earlier).ne

/-- Keeping a value that the supplier means keeps the setting sound. -/
theorem sound_keep
    {settled : Settled} (found : computed = some settled) :
    (memo.keep settled).Sound supplied computed where
  kept := by
    intro settled' equal
    rwa [← Option.some.inj equal]
  unkept := fun absent => nomatch absent
  dismissed := fun _ => rfl
  issued := fun _ member => nomatch member
  distinct := List.nodup_nil

/-- Leaving a line keeps the setting sound. -/
theorem sound_leave
    (sound : memo.Sound supplied computed) (ticket : Nat) :
    (memo.leave ticket).Sound supplied computed where
  kept := sound.kept
  unkept := sound.unkept
  dismissed := by
    intro kept
    change memo.line.erase ticket = []
    rw [sound.dismissed kept]
    rfl
  issued := fun other member =>
    sound.issued other (List.mem_of_mem_erase member)
  distinct := sound.distinct.erase ticket

/-- Joining a line takes a place in it. -/
theorem step_joinLine
    (sound : setting.Sound before) (notKept : ¬ before.IsKept cell) :
    setting.Step ∅ {(cell, before.nextTicket cell)} before
      (before.joinLine cell) := by
  have step :
      MemoStep ∅ {(before.data.memo cell).nextTicket}
        (before.data.memo cell) (before.data.memo cell).join.2 := by
    constructor
    case kept => exact id
    case tickets => exact Nat.le_succ _
    case fresh =>
      rintro _ rfl
      exact .inr le_rfl
    case others =>
      intro ticket member _
      exact .inl (List.mem_append_left _ member)
    case owned =>
      intro ticket member
      rcases List.mem_append.mp member with earlier | new
      · exact .inr ⟨earlier, Set.notMem_empty _⟩
      · exact .inl (List.mem_singleton.mp new)
    case holds =>
      rintro _ rfl
      exact ⟨Nat.lt_succ_self _,
        .inl (List.mem_append_right _ (List.mem_singleton_self _))⟩
  have joined := sound_join (sound.memo cell) (not_not.mp notKept)
  have moved := MemoStep.step (fun memo => memo.join.2) sound joined step
  rwa [Set.image_empty, Set.image_singleton] at moved

/-- Keeping what the lookups of a binding find dismisses the line. -/
theorem step_keep
    {settled : Settled} (sound : setting.Sound before)
    (found : setting.computed cell = some settled) :
    setting.Step {(cell, ticket)} ∅ before
      (before.updateMemo cell (Memo.keep settled)) := by
  have step :
      MemoStep {ticket} ∅ (before.data.memo cell)
          ((before.data.memo cell).keep settled) := by
    constructor
    case kept =>
      intro _ absent
      cases absent
    case tickets => exact le_rfl
    case fresh =>
      intro _ member
      exact member.elim
    case others =>
      intro _ _ _
      exact .inr (Option.some_ne_none settled)
    case owned =>
      intro _ member
      cases member
    case holds =>
      intro _ member
      exact member.elim
  have moved := MemoStep.step (Memo.keep settled) sound (sound_keep found) step
  rwa [Set.image_empty, Set.image_singleton] at moved

theorem step_leave (sound : setting.Sound before) :
    setting.Step {(cell, ticket)} ∅ before
      (before.updateMemo cell (Memo.leave ticket)) := by
  have distinct := (sound.memo cell).distinct
  have step :
      MemoStep {ticket} ∅ (before.data.memo cell)
          ((before.data.memo cell).leave ticket) := by
    constructor
    case kept => exact id
    case tickets => exact le_rfl
    case fresh =>
      intro _ member
      exact member.elim
    case others =>
      intro other member outside
      exact .inl ((List.mem_erase_of_ne outside).mpr member)
    case owned =>
      intro other member
      rcases distinct.mem_erase_iff.mp member with ⟨different, earlier⟩
      exact .inr ⟨earlier, different⟩
    case holds =>
      intro _ member
      exact member.elim
  have moved :=
    MemoStep.step (Memo.leave ticket) sound
      (sound_leave (sound.memo cell) ticket) step
  rwa [Set.image_empty, Set.image_singleton] at moved

theorem step_log
    (event : Event) (sound : setting.Sound before) (holds : before.Holds held) :
    setting.Step held held before (before.log event) :=
  .of_data sound rfl holds

theorem step_noteCall
    (cell : Cell) (sound : setting.Sound before) (holds : before.Holds held) :
    setting.Step held held before (before.noteCall cell) := by
  have memo :
      ∀ asked,
        ((before.noteCall cell).data.memo asked).value =
          (before.data.memo asked).value ∧
          ((before.noteCall cell).data.memo asked).line =
            (before.data.memo asked).line ∧
            (before.noteCall cell).nextTicket asked =
                before.nextTicket asked := by
    intro asked
    rw [Scene.nextTicket, Scene.nextTicket]
    by_cases same : asked = cell
    · subst same
      rw [Scene.memo_noteCall_self]
      exact ⟨rfl, rfl, rfl⟩
    · rw [Scene.memo_noteCall_of_ne same]
      exact ⟨rfl, rfl, rfl⟩
  exact Step.of_unchanged sound rfl rfl (fun asked => (memo asked).1)
    (fun asked => (memo asked).2.1) (fun asked => (memo asked).2.2) holds

end Moves

end Setting

end Phrasebook
