import Phrasebook.Proofs.Progress.Standing
import Phrasebook.Proofs.Sharing.Place

/-!
# Tickets in a line that may fail

Lookups of a computed binding may fail and may be given up, so any ticket in a
line can become the first one, and whoever has become the first one may run the
supplier.  Nobody else then touches the value, for the first place is lost only
by its owner.

An *upkeep* is what a computation may do to a memo that others use as well: a
kept value stays, with the number of calls; tickets are given out once; and the
first place in line stays with its owner unless the owner gives it up.  A
computation may *rely* on such a change as long as the tickets in it are not its
own.  A `Watch` says for which computed bindings this is followed through a
session: for a single one, whose cell has a memo of its own whatever is bound to
keys meanwhile, or for all of them, while everything stays bound as it is.
-/

namespace Phrasebook

namespace Memo

/-- A memo in order, whose line has no ticket twice. -/
structure Tidy (memo : Memo) : Prop extends memo.InOrder where
  distinct : memo.line.Nodup

/-- What a computation with the tickets `held` before and `held'` after may do
to a memo. -/
structure Upkeep (held held' : Set Nat) (before after : Memo) : Prop where
  tidy : after.Tidy
  kept : ∀ settled, before.value = some settled → after.value = some settled ∧
    after.calls = before.calls
  tickets : before.nextTicket ≤ after.nextTicket
  fresh : ∀ ticket ∈ held', ticket ∈ held ∨ before.nextTicket ≤ ticket
  issued : ∀ ticket ∈ held', ticket < after.nextTicket
  firsts : ∀ ticket ∉ held, before.line.head? = some ticket →
    after.line.head? = some ticket
  owned : ∀ ticket ∈ after.line, ticket ∈ held' ∨ ticket ∈ before.line ∧
    ticket ∉ held

/-- What a computation with the tickets `held` may expect of the others. -/
structure Rely (held : Set Nat) (before after : Memo) : Prop where
  tidy : after.Tidy
  kept : ∀ settled, before.value = some settled → after.value = some settled ∧
    after.calls = before.calls
  tickets : before.nextTicket ≤ after.nextTicket
  firsts : ∀ ticket ∈ held, before.line.head? = some ticket →
    after.line.head? = some ticket

variable {memo before between after : Memo} {held held' held'' frame : Set Nat}
  {ticket : Nat}

/-- A memo with the same value, line and next ticket is as tidy. -/
theorem Tidy.of_same
    (tidy : before.Tidy) (value : after.value = before.value)
    (line : after.line = before.line)
    (nextTicket : after.nextTicket = before.nextTicket) :
    after.Tidy := by
  refine ⟨⟨?_, ?_⟩, ?_⟩
  · rw [value, line]
    exact tidy.dismissed
  · rw [line, nextTicket]
    exact tidy.issued
  · rw [line]
    exact tidy.distinct

/-- The first ticket in line has been issued. -/
theorem Tidy.issued_of_first
    (tidy : memo.Tidy) (first : memo.line.head? = some ticket) :
    ticket < memo.nextTicket :=
  tidy.issued ticket (List.mem_of_mem_head? first)

/-- While somebody is first in line no value is kept. -/
theorem Tidy.notKept_of_first
    (tidy : memo.Tidy) (first : memo.line.head? = some ticket) :
    memo.value = none :=
  tidy.notKept (List.mem_of_mem_head? first)

namespace Rely

theorem refl (tidy : memo.Tidy) : Rely held memo memo :=
  ⟨tidy, fun _ kept => ⟨kept, rfl⟩, le_rfl, fun _ _ first => first⟩

/-- What can be relied on through two changes can be relied on through both. -/
theorem trans
    (first : Rely held before between) (second : Rely held between after) :
    Rely held before after where
  tidy := second.tidy
  kept := by
    intro settled kept
    rcases first.kept settled kept with ⟨kept', calls⟩
    rcases second.kept settled kept' with ⟨kept'', calls'⟩
    exact ⟨kept'', calls'.trans calls⟩
  tickets := first.tickets.trans second.tickets
  firsts := fun ticket member isFirst =>
    second.firsts ticket member (first.firsts ticket member isFirst)

theorem mono (rely : Rely held before after) (fewer : held' ⊆ held) :
    Rely held' before after :=
  ⟨rely.tidy, rely.kept, rely.tickets, fun ticket member =>
    rely.firsts ticket (fewer member)⟩

end Rely

namespace Upkeep

/-- A change that does not touch value, line and tickets, and does not count a
call once the value is kept. -/
theorem of_same
    (tidy : before.Tidy) (issued : ∀ ticket ∈ held, ticket < before.nextTicket)
    (value : after.value = before.value) (line : after.line = before.line)
    (nextTicket : after.nextTicket = before.nextTicket)
    (calls : before.value ≠ none → after.calls = before.calls) :
    Upkeep held held before after where
  tidy := tidy.of_same value line nextTicket
  kept := fun settled kept =>
    ⟨value.trans kept, calls (by rw [kept]; exact Option.some_ne_none settled)⟩
  tickets := nextTicket.ge
  fresh := fun _ member => .inl member
  issued := by
    rw [nextTicket]
    exact issued
  firsts := fun _ _ first => by rwa [line]
  owned := by
    intro ticket inLine
    rw [line] at inLine
    exact (Classical.em (ticket ∈ held)).imp_right fun outside =>
      ⟨inLine, outside⟩

theorem refl
    (tidy : memo.Tidy) (issued : ∀ ticket ∈ held, ticket < memo.nextTicket) :
    Upkeep held held memo memo :=
  of_same tidy issued rfl rfl rfl fun _ => rfl

theorem trans
    (tidy : before.Tidy) (first : Upkeep held held' before between)
    (second : Upkeep held' held'' between after) :
    Upkeep held held'' before after where
  tidy := second.tidy
  kept := by
    intro settled kept
    rcases first.kept settled kept with ⟨kept', calls⟩
    rcases second.kept settled kept' with ⟨kept'', calls'⟩
    exact ⟨kept'', calls'.trans calls⟩
  tickets := first.tickets.trans second.tickets
  fresh := by
    intro ticket member
    rcases second.fresh ticket member with earlier | later
    · exact first.fresh ticket earlier
    · exact .inr (first.tickets.trans later)
  issued := second.issued
  firsts := by
    intro ticket outside isFirst
    refine second.firsts ticket ?_ (first.firsts ticket outside isFirst)
    intro member
    rcases first.fresh ticket member with earlier | later
    · exact outside earlier
    · exact absurd (tidy.issued_of_first isFirst) (not_lt.mpr later)
  owned := by
    intro ticket inLine
    rcases second.owned ticket inLine with mine | ⟨earlier, outside⟩
    · exact .inl mine
    · exact .inr ((first.owned ticket earlier).resolve_left outside)

/-- Whoever holds other tickets may rely on an upkeep. -/
theorem rely
    (upkeep : Upkeep held held' before after) (apart : Disjoint held frame) :
    Rely frame before after where
  tidy := upkeep.tidy
  kept := upkeep.kept
  tickets := upkeep.tickets
  firsts := fun ticket member =>
    upkeep.firsts ticket (Set.disjoint_right.mp apart member)

/-- An upkeep takes no ticket that has been given out to somebody else. -/
theorem disjoint
    (upkeep : Upkeep held held' before after) (apart : Disjoint held frame)
    (issued : ∀ ticket ∈ frame, ticket < before.nextTicket) :
    Disjoint held' frame := by
  refine Set.disjoint_left.mpr fun ticket mine theirs => ?_
  rcases upkeep.fresh ticket mine with earlier | later
  · exact Set.disjoint_left.mp apart earlier theirs
  · exact absurd (issued ticket theirs) (not_lt.mpr later)

/-- An upkeep is one of everybody, with the tickets that the others hold on both
sides. -/
theorem beside
    (upkeep : Upkeep held held' before after)
    (issued : ∀ ticket ∈ frame, ticket < before.nextTicket) :
    Upkeep (held ∪ frame) (held' ∪ frame) before after where
  tidy := upkeep.tidy
  kept := upkeep.kept
  tickets := upkeep.tickets
  fresh := by
    rintro ticket (mine | theirs)
    · exact (upkeep.fresh ticket mine).imp_left .inl
    · exact .inl (.inr theirs)
  issued := by
    rintro ticket (mine | theirs)
    · exact upkeep.issued ticket mine
    · exact (issued ticket theirs).trans_le upkeep.tickets
  firsts := fun ticket outside => upkeep.firsts ticket fun member =>
    outside (.inl member)
  owned := by
    intro ticket inLine
    by_cases theirs : ticket ∈ frame
    · exact .inl (.inr theirs)
    rcases upkeep.owned ticket inLine with mine | ⟨earlier, outside⟩
    · exact .inl (.inl mine)
    · exact .inr ⟨earlier, fun member => member.elim outside theirs⟩

/-- A new lookup takes the last place. -/
theorem join (tidy : memo.Tidy) (notKept : memo.value = none) :
    Upkeep ∅ {memo.nextTicket} memo memo.join.2 where
  tidy := by
    refine ⟨⟨fun kept => (kept notKept).elim, ?_⟩, ?_⟩
    · intro ticket member
      rcases List.mem_append.mp member with earlier | new
      · exact Nat.lt_succ_of_lt (tidy.issued ticket earlier)
      · exact Nat.lt_succ_of_le (List.mem_singleton.mp new).le
    · refine List.nodup_append.mpr ⟨tidy.distinct, List.nodup_singleton _, ?_⟩
      intro ticket earlier other new
      rw [List.mem_singleton.mp new]
      exact (tidy.issued ticket earlier).ne
  kept := fun settled kept => nomatch kept.symm.trans notKept
  tickets := Nat.le_succ _
  fresh := by
    rintro ticket rfl
    exact .inr le_rfl
  issued := by
    rintro ticket rfl
    exact Nat.lt_succ_self _
  firsts := by
    intro ticket _ first
    exact
      (List.head?_append_of_ne_nil memo.line
        (List.ne_nil_of_mem (List.mem_of_mem_head? first))).trans first
  owned := by
    intro ticket inLine
    rcases List.mem_append.mp inLine with earlier | new
    · exact .inr ⟨earlier, Set.notMem_empty ticket⟩
    · exact .inl (List.mem_singleton.mp new)

/-- The run of the first one in line ends with a value, which dismisses the
others. -/
theorem keep (tidy : memo.Tidy) (first : memo.line.head? = some ticket)
    (settled : Settled) :
    Upkeep {ticket} ∅ memo (memo.keep settled) where
  tidy := ⟨⟨fun _ => rfl, fun _ member => nomatch member⟩, List.nodup_nil⟩
  kept := fun settled' kept =>
    nomatch kept.symm.trans (tidy.notKept_of_first first)
  tickets := le_rfl
  fresh := fun _ member => member.elim
  issued := fun _ member => member.elim
  firsts := by
    intro other outside isFirst
    exact (outside (Option.some.inj (isFirst.symm.trans first))).elim
  owned := fun _ inLine => nomatch inLine

/-- A lookup leaves the line, wherever it stands, or after the line has been
dismissed. -/
theorem leave (tidy : memo.Tidy) (ticket : Nat) :
    Upkeep {ticket} ∅ memo (memo.leave ticket) where
  tidy := by
    refine ⟨⟨fun kept => ?_, fun other member => ?_⟩,
      tidy.distinct.erase ticket⟩
    · change memo.line.erase ticket = []
      rw [tidy.dismissed kept]
      rfl
    · exact tidy.issued other (List.mem_of_mem_erase member)
  kept := fun _ kept => ⟨kept, rfl⟩
  tickets := le_rfl
  fresh := fun _ member => member.elim
  issued := fun _ member => member.elim
  firsts := by
    intro other outside first
    change (memo.line.erase ticket).head? = some other
    cases line : memo.line with
    | nil =>
        rw [line] at first
        cases first
    | cons head rest =>
        rw [line] at first
        cases first
        rw [List.erase_cons_tail (by simpa using outside)]
        rfl
  owned := by
    intro other inLine
    refine .inr ⟨List.mem_of_mem_erase inLine, ?_⟩
    rintro rfl
    exact tidy.distinct.not_mem_erase inLine

/-- A ticket that is in the line no more can be forgotten. -/
theorem forget (tidy : memo.Tidy) (dismissed : memo.value ≠ none) :
    Upkeep held ∅ memo memo where
  tidy := tidy
  kept := fun _ kept => ⟨kept, rfl⟩
  tickets := le_rfl
  fresh := fun _ member => member.elim
  issued := fun _ member => member.elim
  firsts := fun _ _ first => first
  owned := by
    intro ticket inLine
    rw [tidy.dismissed dismissed] at inLine
    cases inLine

end Upkeep

end Memo

/-- What keys are bound to: explicit values, and the cells of computed
bindings. -/
def RenderData.bound (data : RenderData) : Dictionary Json × Dictionary Cell :=
  (data.explicit, data.computed)

/-- Where the same is bound to keys, a key has the same explicit value. -/
theorem RenderData.get?_of_bound
    {data data' : RenderData} (same : data.bound = data'.bound)
    (key : String) :
    data.get? key = data'.get? key := by
  have explicit : data.explicit = data'.explicit := congrArg Prod.fst same
  rw [RenderData.get?, RenderData.get?, explicit]

/-- Where the same is bound to keys, a key has the same cell. -/
theorem RenderData.cell?_of_bound
    {data data' : RenderData} (same : data.bound = data'.bound)
    (key : String) :
    data.cell? key = data'.cell? key := by
  have computed : data.computed = data'.computed := congrArg Prod.snd same
  rw [RenderData.cell?, RenderData.cell?, computed]

/-- What is followed through a session: the cell of a single computed binding,
or all cells, while the keys are bound to these. -/
inductive Watch where
  | binding (cell : Cell)
  | everything (bound : Dictionary Json × Dictionary Cell)

namespace Watch

/-- The cells that are followed. -/
def Covers : Watch → Cell → Prop
  | .binding cell, asked => asked = cell
  | .everything _, _ => True

/-- The data that may be found. -/
def Admits : Watch → RenderData → Prop
  | .binding _, _ => True
  | .everything bound, data => data.bound = bound

/-- The tickets of some places that stand in the line of one cell. -/
def ticketsOf (cell : Cell) (held : Set Place) : Set Nat :=
  Set.preimage (Prod.mk cell) held

variable (watch : Watch)

/-- A place in the line of a cell, if that is followed. -/
def place (cell : Cell) (ticket : Nat) : Set Place :=
  { place | watch.Covers cell ∧ place = (cell, ticket) }

/-- No ticket in two sets of places is the same, as far as they are followed. -/
def Apart (held frame : Set Place) : Prop :=
  ∀ cell, watch.Covers cell →
    Disjoint (ticketsOf cell held) (ticketsOf cell frame)

/-- Data as they can be found. -/
structure Sound (data : RenderData) : Prop where
  admits : watch.Admits data
  tidy : ∀ cell, watch.Covers cell → (data.memo cell).Tidy

/-- Places that have been given out. -/
def Issued (held : Set Place) (data : RenderData) : Prop :=
  ∀ cell, watch.Covers cell → ∀ ticket ∈ ticketsOf cell held,
    ticket < (data.memo cell).nextTicket

/-- What a computation that holds `held` before and `held'` after may do to
data. -/
structure Step (held held' : Set Place) (before after : RenderData) : Prop where
  bound : after.bound = before.bound
  memo : ∀ cell, watch.Covers cell →
    Memo.Upkeep (ticketsOf cell held) (ticketsOf cell held') (before.memo cell)
      (after.memo cell)

/-- What a computation that holds `held` may expect of the others. -/
structure Rely (held : Set Place) (before after : RenderData) : Prop where
  admits : watch.Admits after
  memo : ∀ cell, watch.Covers cell →
    Memo.Rely (ticketsOf cell held) (before.memo cell) (after.memo cell)

variable {watch} {held held' held'' frame : Set Place}
  {before between after data : RenderData}

/-- At a cell that is watched, the place holds the one ticket. -/
theorem ticketsOf_place_self
    {cell : Cell} (covers : watch.Covers cell) (ticket : Nat) :
    ticketsOf cell (watch.place cell ticket) = {ticket} := by
  ext other
  simp [ticketsOf, place, covers]

/-- At every other cell, the place holds no ticket. -/
theorem ticketsOf_place_of_ne
    {cell asked : Cell} (different : asked ≠ cell) (ticket : Nat) :
    ticketsOf asked (watch.place cell ticket) = ∅ := by
  ext other
  simp [ticketsOf, place, different]

theorem Apart.symm (apart : watch.Apart held frame) : watch.Apart frame held :=
  fun cell covers => (apart cell covers).symm

theorem apart_empty_left : watch.Apart ∅ frame :=
  fun _ _ => Set.empty_disjoint _

theorem apart_empty_right : watch.Apart frame ∅ :=
  fun _ _ => Set.disjoint_empty _

/-- Places are apart from two frames taken together if and only if they are
apart from each. -/
theorem apart_union_right :
    watch.Apart frame (held ∪ held') ↔ watch.Apart frame held ∧
      watch.Apart frame held' := by
  constructor
  · intro apart
    exact ⟨
      fun cell covers => (Set.disjoint_union_right.mp (apart cell covers)).1,
      fun cell covers => (Set.disjoint_union_right.mp (apart cell covers)).2⟩
  · rintro ⟨left, right⟩ cell covers
    exact Set.disjoint_union_right.mpr ⟨left cell covers, right cell covers⟩

theorem issued_empty : watch.Issued ∅ data :=
  fun _ _ _ member => member.elim

theorem issued_union : watch.Issued (held ∪ frame) data ↔
    watch.Issued held data ∧ watch.Issued frame data := by
  constructor
  · intro issued
    exact ⟨
      fun cell covers ticket member => issued cell covers ticket (.inl member),
      fun cell covers ticket member => issued cell covers ticket (.inr member)⟩
  · rintro ⟨left, right⟩ cell covers ticket (member | member)
    · exact left cell covers ticket member
    · exact right cell covers ticket member

namespace Rely

theorem refl (sound : watch.Sound data) : watch.Rely held data data :=
  ⟨sound.admits, fun cell covers => .refl (sound.tidy cell covers)⟩

theorem trans
    (first : watch.Rely held before between)
    (second : watch.Rely held between after) :
    watch.Rely held before after :=
  ⟨second.admits, fun cell covers =>
    (first.memo cell covers).trans (second.memo cell covers)⟩

/-- Whoever relies on more places relies on fewer of them too. -/
theorem mono (rely : watch.Rely held before after) (fewer : held' ⊆ held) :
    watch.Rely held' before after :=
  ⟨rely.admits, fun cell covers =>
    (rely.memo cell covers).mono (Set.preimage_mono fewer)⟩

theorem nothing (rely : watch.Rely held before after) :
    watch.Rely ∅ before after :=
  rely.mono (Set.empty_subset held)

theorem sound (rely : watch.Rely held before after) : watch.Sound after :=
  ⟨rely.admits, fun cell covers => (rely.memo cell covers).tidy⟩

/-- Tickets that have been issued stay issued while others work. -/
theorem issued
    (rely : watch.Rely held before after) (issued : watch.Issued frame before) :
    watch.Issued frame after :=
  fun cell covers ticket member =>
    (issued cell covers ticket member).trans_le (rely.memo cell covers).tickets

end Rely

namespace Step

theorem of_data
    (sound : watch.Sound before) (issued : watch.Issued held before)
    (same : after = before) :
    watch.Step held held before after := by
  subst same
  exact ⟨rfl, fun cell covers =>
    .refl (sound.tidy cell covers) (issued cell covers)⟩

theorem refl (sound : watch.Sound data) (issued : watch.Issued held data) :
    watch.Step held held data data :=
  of_data sound issued rfl

theorem trans
    (sound : watch.Sound before) (first : watch.Step held held' before between)
    (second : watch.Step held' held'' between after) :
    watch.Step held held'' before after :=
  ⟨second.bound.trans first.bound,
    fun cell covers =>
      (first.memo cell covers).trans (sound.tidy cell covers)
      (second.memo cell covers)⟩

/-- Whatever the watch lets pass before a step, it lets pass behind it. -/
theorem admits
    (step : watch.Step held held' before after) (admits : watch.Admits before) :
    watch.Admits after := by
  cases watch with
  | binding cell => trivial
  | everything bound => exact step.bound.trans admits

theorem sound
    (step : watch.Step held held' before after) (sound : watch.Sound before) :
    watch.Sound after :=
  ⟨step.admits sound.admits, fun cell covers => (step.memo cell covers).tidy⟩

theorem issued (step : watch.Step held held' before after) :
    watch.Issued held' after :=
  fun cell covers => (step.memo cell covers).issued

/-- A step is something that the places apart from it can rely on. -/
theorem rely
    (step : watch.Step held held' before after) (sound : watch.Sound before)
    (apart : watch.Apart held frame) :
    watch.Rely frame before after :=
  ⟨(step.sound sound).admits, fun cell covers =>
    (step.memo cell covers).rely (apart cell covers)⟩

/-- Places apart from the held ones are apart from the ones held behind a
step. -/
theorem apart
    (step : watch.Step held held' before after) (apart : watch.Apart held frame)
    (issued : watch.Issued frame before) :
    watch.Apart held' frame :=
  fun cell covers =>
    (step.memo cell covers).disjoint (apart cell covers) (issued cell covers)

theorem keeps_issued
    (step : watch.Step held held' before after)
    (issued : watch.Issued frame before) :
    watch.Issued frame after :=
  fun cell covers ticket member =>
    (issued cell covers ticket member).trans_le (step.memo cell covers).tickets

/-- A step can be taken with a frame beside it. -/
theorem beside
    (step : watch.Step held held' before after)
    (issued : watch.Issued frame before) :
    watch.Step (held ∪ frame) (held' ∪ frame) before after :=
  ⟨step.bound, fun cell covers =>
    (step.memo cell covers).beside (issued cell covers)⟩

theorem beside_left
    (step : watch.Step held held' before after)
    (issued : watch.Issued frame before) :
    watch.Step (frame ∪ held) (frame ∪ held') before after := by
  rw [Set.union_comm frame held, Set.union_comm frame held']
  exact step.beside issued

/-- One computation gives up what it holds, and then the other one does. -/
theorem release_both
    (sound : watch.Sound before) (first : watch.Step held ∅ before between)
    (issued : watch.Issued held' before)
    (second : watch.Step held' ∅ between after) :
    watch.Step (held ∪ held') ∅ before after := by
  have given := first.beside issued
  rw [Set.empty_union] at given
  exact given.trans sound second

/-- The memo of one cell has changed, and with it the places in its line
only. -/
theorem of_memo
    {cell : Cell} (memo : Memo) (sound : watch.Sound data)
    (elsewhere : ∀ asked, asked ≠ cell → ticketsOf asked held = ∅ ∧
      ticketsOf asked held' = ∅)
    (upkeep : watch.Covers cell →
      Memo.Upkeep (ticketsOf cell held) (ticketsOf cell held')
        (data.memo cell) memo) :
    watch.Step held held' data (data.setMemo cell memo) := by
  refine ⟨rfl, fun asked covers => ?_⟩
  by_cases same : asked = cell
  · subst same
    rw [RenderData.memo_setMemo_self]
    exact upkeep covers
  · rcases elsewhere asked same with ⟨none, none'⟩
    rw [RenderData.memo_setMemo_of_ne same, none, none']
    exact .refl (sound.tidy asked covers) fun _ member => member.elim

end Step

section Lookups

variable {scene : Scene} {cell : Cell} {ticket : Nat}
  (sound : watch.Sound scene.data)

include sound

/-- Joining the line of a cell that is not kept takes a place in it. -/
theorem step_joinLine (notKept : (scene.data.memo cell).value = none) :
    watch.Step ∅ (watch.place cell (scene.nextTicket cell)) scene.data
      (scene.joinLine cell).data := by
  refine .of_memo _ sound (fun asked different =>
    ⟨rfl, ticketsOf_place_of_ne different _⟩) fun covers => ?_
  rw [ticketsOf_place_self covers]
  exact .join (sound.tidy cell covers) notKept

/-- A call of the supplier is counted only while no value is kept. -/
theorem step_noteCall
    (issued : watch.Issued held scene.data)
    (notKept : (scene.data.memo cell).value = none) :
    watch.Step held held scene.data (scene.noteCall cell).data := by
  refine ⟨rfl, fun asked covers => ?_⟩
  by_cases same : asked = cell
  · subst same
    rw [Scene.memo_noteCall_self]
    exact .of_same (sound.tidy asked covers) (issued asked covers) rfl rfl rfl
      fun kept => (kept notKept).elim
  · rw [Scene.memo_noteCall_of_ne same]
    exact .refl (sound.tidy asked covers) (issued asked covers)

/-- Leaving the line gives the place up. -/
theorem step_leave :
    watch.Step (watch.place cell ticket) ∅ scene.data
      (scene.updateMemo cell (Memo.leave ticket)).data := by
  refine .of_memo _ sound (fun asked different =>
    ⟨ticketsOf_place_of_ne different _, rfl⟩) fun covers => ?_
  rw [ticketsOf_place_self covers]
  exact .leave (sound.tidy cell covers) ticket

/-- A run that ends gives up the place at the head of its line. -/
theorem step_endRun
    (first : watch.Covers cell → (scene.data.memo cell).line.head? =
      some ticket)
    (result : Except EngineError Settled) :
    watch.Step (watch.place cell ticket) ∅ scene.data
      (scene.endRun cell ticket result).data := by
  cases result with
  | error error => exact step_leave sound
  | ok settled =>
      refine .of_memo _ sound (fun asked different =>
        ⟨ticketsOf_place_of_ne different _, rfl⟩) fun covers => ?_
      rw [ticketsOf_place_self covers]
      exact .keep (sound.tidy cell covers) (first covers) settled

/-- A lookup that waits for a value that is kept can forget its place. -/
theorem step_forget (kept : (scene.data.memo cell).value ≠ none) :
    watch.Step (watch.place cell ticket) ∅ scene.data scene.data := by
  refine ⟨rfl, fun asked covers => ?_⟩
  by_cases same : asked = cell
  · subst same
    exact .forget (sound.tidy asked covers) kept
  · rw [ticketsOf_place_of_ne same]
    exact .refl (sound.tidy asked covers) fun _ member => member.elim

end Lookups

end Watch

end Phrasebook
