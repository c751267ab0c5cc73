import Mathlib.Data.List.Infix
import Mathlib.Data.Set.Lattice
import Mathlib.Order.CompletePartialOrder
import Phrasebook.Proofs.ComputedBinding

/-!
# Who runs and who waits

A lookup in line for a computed binding either runs the supplier or waits.  As
long as no computation has failed, the first one in a line is the one that runs,
and everybody else in the line waits: a waiting lookup never becomes the first
one, for the run before it ends by keeping the value, which dismisses the whole
line.  A memo *grants* a lookup its post when this is so.

A `Move` is what a computation that holds some posts may do to a memo, or to a
scene, on which others act as well: whatever was granted to others is still
granted to them, and a ticket that has become the first one belongs to a lookup
that runs.  Moves of scenes also respect a clock, which shows how far the
handles of answers have been advanced.
-/

namespace Phrasebook

/-- What a lookup in line does. -/
inductive Role where
  | running
  | waiting

/-- A role and a ticket in some line. -/
abbrev Post := Role × Nat

/-- A cell, and a post in its line. -/
abbrev Stand := Cell × Post

namespace Memo

/-- The line is dismissed when the value is kept, and all tickets in it have
been given out. -/
structure InOrder (memo : Memo) : Prop where
  dismissed : memo.value ≠ none → memo.line = []
  issued : ∀ ticket ∈ memo.line, ticket < memo.nextTicket

/-- The lookup that runs is the first one in line; one that waits stands behind
it until the value is kept. -/
def Grants (memo : Memo) : Post → Prop
  | (.running, ticket) => memo.line.head? = some ticket
  | (.waiting, ticket) =>
    ticket < memo.nextTicket ∧
      (ticket ∈ memo.line ∧ memo.line.head? ≠ some ticket ∨ memo.value ≠ none)

/-- What a computation may do to a memo, when it holds the posts `held` before
and `held'` after. -/
structure Move (held held' : Set Post) (before after : Memo) : Prop where
  inOrder : after.InOrder
  tickets : before.nextTicket ≤ after.nextTicket
  fresh : ∀ post ∈ held', post ∈ held ∨ before.nextTicket ≤ post.2
  grants : ∀ post ∈ held', after.Grants post
  others : ∀ post ∉ held, before.Grants post → after.Grants post
  firsts :
    ∀ ticket, after.Grants (.running, ticket) →
      (.running, ticket) ∈ held' ∨ before.Grants (.running, ticket) ∧
        (.running, ticket) ∉ held

variable {memo before between after : Memo} {held held' held'' frame : Set Post}
  {post : Post}
  {ticket : Nat}

theorem InOrder.notKept (inOrder : memo.InOrder) (inLine : ticket ∈ memo.line) :
    memo.value = none := by
  by_contra kept
  simp [inOrder.dismissed kept] at inLine

/-- A ticket that holds a post has been issued. -/
theorem Grants.issued (inOrder : memo.InOrder) (granted : memo.Grants post) :
    post.2 < memo.nextTicket := by
  match post with
  | (.running, ticket) =>
      exact inOrder.issued ticket (List.mem_of_mem_head? granted)
  | (.waiting, ticket) => exact granted.1

namespace Move

/-- A change that does not touch value, line and tickets. -/
theorem of_same
    (inOrder : before.InOrder) (grants : ∀ post ∈ held, before.Grants post)
    (value : after.value = before.value) (line : after.line = before.line)
    (nextTicket : after.nextTicket = before.nextTicket) :
    Move held held before after := by
  have same : ∀ post, after.Grants post ↔ before.Grants post := by
    rintro ⟨_ | _, ticket⟩ <;> simp only [Grants, value, line, nextTicket]
  constructor
  case inOrder =>
    constructor
    · rw [value, line]
      exact inOrder.dismissed
    · rw [line, nextTicket]
      exact inOrder.issued
  case tickets => exact nextTicket.ge
  case fresh => exact fun _ member => .inl member
  case grants => exact fun post member => (same post).mpr (grants post member)
  case others => exact fun post _ granted => (same post).mpr granted
  case firsts =>
    intro ticket first
    by_cases member : (Role.running, ticket) ∈ held
    · exact .inl member
    · exact .inr ⟨(same _).mp first, member⟩

theorem refl
    (inOrder : memo.InOrder) (grants : ∀ post ∈ held, memo.Grants post) :
    Move held held memo memo :=
  of_same inOrder grants rfl rfl rfl

/-- Moves one after the other are a move. -/
theorem trans
    (inOrder : before.InOrder) (first : Move held held' before between)
    (second : Move held' held'' between after) :
    Move held held'' before after where
  inOrder := second.inOrder
  tickets := first.tickets.trans second.tickets
  fresh := by
    intro post member
    rcases second.fresh post member with earlier | later
    · exact first.fresh post earlier
    · exact .inr (first.tickets.trans later)
  grants := second.grants
  others := by
    intro post outside granted
    refine second.others post ?_ (first.others post outside granted)
    intro member
    rcases first.fresh post member with earlier | later
    · exact outside earlier
    · exact absurd (granted.issued inOrder) (not_lt.mpr later)
  firsts := by
    intro ticket isFirst
    rcases second.firsts ticket isFirst with mine | ⟨earlier, outside⟩
    · exact .inl mine
    · exact .inr ((first.firsts ticket earlier).resolve_left outside)

/-- Lookups that wait can be forgotten. -/
theorem forget
    (inOrder : memo.InOrder) (waiting : ∀ post ∈ held, post.1 = .waiting) :
    Move held ∅ memo memo where
  inOrder := inOrder
  tickets := le_rfl
  fresh := fun _ member => member.elim
  grants := fun _ member => member.elim
  others := fun _ _ granted => granted
  firsts := fun _ isFirst =>
    .inr ⟨isFirst, fun member => nomatch waiting _ member⟩

/-- A move takes no post that somebody else already holds. -/
theorem disjoint
    (move : Move held held' before after) (inOrder : before.InOrder)
    (apart : Disjoint held frame)
    (grants : ∀ post ∈ frame, before.Grants post) :
    Disjoint held' frame := by
  refine Set.disjoint_left.mpr fun post mine theirs => ?_
  rcases move.fresh post mine with earlier | later
  · exact Set.disjoint_left.mp apart earlier theirs
  · exact absurd ((grants post theirs).issued inOrder) (not_lt.mpr later)

/-- A move is a move of everybody, with the posts that the others hold on both
sides. -/
theorem beside
    (move : Move held held' before after) (apart : Disjoint held frame)
    (grants : ∀ post ∈ frame, before.Grants post) :
    Move (held ∪ frame) (held' ∪ frame) before after where
  inOrder := move.inOrder
  tickets := move.tickets
  fresh := by
    rintro post (mine | theirs)
    · exact (move.fresh post mine).imp_left .inl
    · exact .inl (.inr theirs)
  grants := by
    rintro post (mine | theirs)
    · exact move.grants post mine
    · exact move.others post (Set.disjoint_right.mp apart theirs)
        (grants post theirs)
  others := fun post outside granted =>
    move.others post (fun member => outside (.inl member)) granted
  firsts := by
    intro ticket isFirst
    by_cases theirs : (Role.running, ticket) ∈ frame
    · exact .inl (.inr theirs)
    rcases move.firsts ticket isFirst with mine | ⟨earlier, outside⟩
    · exact .inl (.inl mine)
    · exact .inr ⟨earlier, fun member => member.elim outside theirs⟩

/-- A new lookup runs when it is the only one in line. -/
theorem join_alone (notKept : memo.value = none) (nobody : memo.line = []) :
    Move ∅ {(.running, memo.nextTicket)} memo memo.join.2 := by
  have line : memo.join.2.line = [memo.nextTicket] := by
    simp [join, nobody]
  constructor
  case inOrder =>
    refine ⟨fun kept => (kept notKept).elim, fun ticket member => ?_⟩
    rw [line, List.mem_singleton] at member
    simp [member, join]
  case tickets => exact Nat.le_succ _
  case fresh =>
    rintro post rfl
    exact .inr le_rfl
  case grants =>
    rintro post rfl
    simp [Grants, line]
  case others =>
    rintro ⟨_ | _, ticket⟩ - granted <;> simp [Grants, nobody, notKept]
      at granted
  case firsts =>
    intro ticket isFirst
    simp only [Grants, line, List.head?_cons, Option.some.injEq] at isFirst
    exact .inl (by simp [isFirst])

/-- A new lookup waits when somebody is in line. -/
theorem join_behind (inOrder : memo.InOrder) (someone : memo.line ≠ []) :
    Move ∅ {(.waiting, memo.nextTicket)} memo memo.join.2 := by
  have line : memo.join.2.line = memo.line ++ [memo.nextTicket] := rfl
  have head : memo.join.2.line.head? = memo.line.head? := by
    rw [line, List.head?_append_of_ne_nil memo.line someone]
  constructor
  case inOrder =>
    refine ⟨fun kept => (someone (inOrder.dismissed kept)).elim, ?_⟩
    intro ticket member
    rcases List.mem_append.mp member with earlier | new
    · exact Nat.lt_succ_of_lt (inOrder.issued ticket earlier)
    · exact Nat.lt_succ_of_le (List.mem_singleton.mp new).le
  case tickets => exact Nat.le_succ _
  case fresh =>
    rintro post rfl
    exact .inr le_rfl
  case grants =>
    rintro post rfl
    refine ⟨Nat.lt_succ_self _, .inl ⟨by simp [line], ?_⟩⟩
    rw [head]
    intro first
    exact absurd (inOrder.issued _ (List.mem_of_mem_head? first)) (lt_irrefl _)
  case others =>
    rintro ⟨_ | _, ticket⟩ - granted
    · exact head.trans granted
    · refine ⟨Nat.lt_succ_of_lt granted.1,
        granted.2.imp_left fun ⟨inLine, notFirst⟩ => ?_⟩
      exact ⟨List.mem_append_left _ inLine, by rwa [head]⟩
  case firsts =>
    exact fun ticket isFirst =>
      .inr ⟨head.symm.trans isFirst, Set.notMem_empty _⟩

/-- The end of a run that keeps the value dismisses everybody else in line. -/
theorem keep (settled : Settled) (runs : memo.Grants (.running, ticket)) :
    Move {(.running, ticket)} ∅ memo (memo.keep settled) := by
  constructor
  case inOrder => exact ⟨fun _ => rfl, fun _ member => nomatch member⟩
  case tickets => exact le_rfl
  case fresh => exact fun _ member => member.elim
  case grants => exact fun _ member => member.elim
  case others =>
    rintro ⟨_ | _, other⟩ outside granted
    · obtain rfl : other = ticket := Option.some.inj (granted.symm.trans runs)
      exact (outside rfl).elim
    · exact ⟨granted.1, .inr (Option.some_ne_none settled)⟩
  case firsts =>
    intro other isFirst
    cases isFirst

end Move

end Memo

/-- How the advance of handles shows in scenes: each poll that advances one
raises the reading by at least a tick, and the events of evaluations and the
memos have no part in it.  A clock with tick zero shows nothing. -/
structure Clock where
  reading : Scene → Nat
  tick : Nat
  reading_log : ∀ {event : Event}, event.isDetail = true →
    ∀ scene, reading (scene.log event) = reading scene
  reading_updateMemo : ∀ cell change scene,
    reading (scene.updateMemo cell change) = reading scene

namespace Scene

/-- All memos are in order. -/
def InOrder (scene : Scene) : Prop :=
  ∀ cell, (scene.data.memo cell).InOrder

def Grants (scene : Scene) (stand : Stand) : Prop :=
  (scene.data.memo stand.1).Grants stand.2

/-- Nobody has left a line in between. -/
def Calm (before after : Scene) : Prop :=
  ∀ cell, (before.data.memo cell).line <+: (after.data.memo cell).line

variable {before between after : Scene}

theorem Calm.refl (scene : Scene) : scene.Calm scene :=
  fun _ => List.prefix_rfl

theorem Calm.trans (first : before.Calm between) (second : between.Calm after) :
    before.Calm after :=
  fun cell => (first cell).trans (second cell)

theorem calm_of_memos (memos : after.data.memos = before.data.memos) :
    before.Calm after := by
  intro cell
  rw [RenderData.memo_congr memos cell]

end Scene

namespace Clock

/-- A clock that shows nothing. -/
def still : Clock where
  reading _ := 0
  tick := 0
  reading_log _ _ := rfl
  reading_updateMemo _ _ _ := rfl

/-- A handle has been advanced in between. -/
def Ticked (clock : Clock) (before after : Scene) : Prop :=
  clock.reading before + clock.tick ≤ clock.reading after

/-- The posts in the line of one binding. -/
def postsOf (cell : Cell) (held : Set Stand) : Set Post :=
  Set.preimage (Prod.mk cell) held

/-- What a computation may do to a scene, when it holds `held` before and
`held'` after. -/
structure Move (clock : Clock) (held held' : Set Stand) (before after : Scene) :
    Prop where
  later : clock.reading before ≤ clock.reading after
  memo : ∀ cell,
    Memo.Move (postsOf cell held) (postsOf cell held') (before.data.memo cell)
      (after.data.memo cell)

variable {clock : Clock} {held held' held'' frame : Set Stand}
  {before between after scene : Scene}
  {cell : Cell}

theorem postsOf_singleton_self (cell : Cell) (post : Post) :
    postsOf cell {(cell, post)} = {post} := by
  ext other
  simp [postsOf]

theorem postsOf_singleton_of_ne
    {cell asked : Cell} (different : asked ≠ cell) (post : Post) :
    postsOf asked {(cell, post)} = ∅ := by
  ext other
  simp [postsOf, different]

theorem Ticked.of_le
    (ticked : clock.Ticked between after)
    (later : clock.reading before ≤ clock.reading between) :
    clock.Ticked before after :=
  (Nat.add_le_add_right later clock.tick).trans ticked

namespace Move

theorem inOrder (move : clock.Move held held' before after) : after.InOrder :=
  fun cell => (move.memo cell).inOrder

theorem grants (move : clock.Move held held' before after) :
    ∀ stand ∈ held', after.Grants stand :=
  fun stand member => (move.memo stand.1).grants stand.2 member

/-- Nothing but the reading of the clock has changed. -/
theorem of_memos
    (inOrder : before.InOrder) (grants : ∀ stand ∈ held, before.Grants stand)
    (memos : after.data.memos = before.data.memos)
    (later : clock.reading before ≤ clock.reading after) :
    clock.Move held held before after where
  later := later
  memo := fun cell => by
    rw [RenderData.memo_congr memos cell]
    exact .refl (inOrder cell) fun post member => grants (cell, post) member

theorem refl
    (inOrder : scene.InOrder) (grants : ∀ stand ∈ held, scene.Grants stand) :
    clock.Move held held scene scene :=
  of_memos inOrder grants rfl le_rfl

/-- Moves one after the other are a move of all stands. -/
theorem trans
    (inOrder : before.InOrder) (first : clock.Move held held' before between)
    (second : clock.Move held' held'' between after) :
    clock.Move held held'' before after where
  later := first.later.trans second.later
  memo := fun cell => (first.memo cell).trans (inOrder cell) (second.memo cell)

/-- Lookups that wait can be forgotten. -/
theorem forget
    (inOrder : scene.InOrder) (waiting : ∀ stand ∈ held, stand.2.1 = .waiting) :
    clock.Move held ∅ scene scene where
  later := le_rfl
  memo := fun cell => .forget (inOrder cell) fun post member =>
    waiting (cell, post) member

/-- What others hold is granted to them after a move as well. -/
theorem keeps_grants
    (move : clock.Move held held' before after) (apart : Disjoint held frame)
    (grants : ∀ stand ∈ frame, before.Grants stand) :
    ∀ stand ∈ frame, after.Grants stand :=
  fun stand member =>
    (move.memo stand.1).others stand.2 (Set.disjoint_right.mp apart member)
    (grants stand member)

/-- A move takes no stand from those apart. -/
theorem disjoint
    (move : clock.Move held held' before after) (inOrder : before.InOrder)
    (apart : Disjoint held frame)
    (grants : ∀ stand ∈ frame, before.Grants stand) :
    Disjoint held' frame := by
  refine Set.disjoint_left.mpr fun ⟨cell, post⟩ mine theirs => ?_
  have atKey :=
    (move.memo cell).disjoint (inOrder cell) (apart.preimage (Prod.mk cell))
      fun post member => grants (cell, post) member
  exact Set.disjoint_left.mp atKey mine theirs

/-- Those who stand apart may stay beside a move. -/
theorem beside
    (move : clock.Move held held' before after) (apart : Disjoint held frame)
    (grants : ∀ stand ∈ frame, before.Grants stand) :
    clock.Move (held ∪ frame) (held' ∪ frame) before after where
  later := move.later
  memo := fun cell =>
    (move.memo cell).beside (apart.preimage (Prod.mk cell)) fun post member =>
      grants (cell, post) member

theorem beside_left
    (move : clock.Move held held' before after) (apart : Disjoint frame held)
    (grants : ∀ stand ∈ frame, before.Grants stand) :
    clock.Move (frame ∪ held) (frame ∪ held') before after := by
  rw [Set.union_comm frame held, Set.union_comm frame held']
  exact move.beside apart.symm grants

/-- A change of the memo of one binding. -/
theorem of_memo
    {change : Memo → Memo} (inOrder : scene.InOrder)
    (elsewhere : ∀ asked, asked ≠ cell → postsOf asked held = ∅ ∧
      postsOf asked held' = ∅)
    (move :
      Memo.Move (postsOf cell held) (postsOf cell held') (scene.data.memo cell)
        (change (scene.data.memo cell))) :
    clock.Move held held' scene (scene.updateMemo cell change) where
  later := (clock.reading_updateMemo cell change scene).ge
  memo := fun asked => by
    by_cases same : asked = cell
    · subst same
      rwa [Scene.memo_updateMemo_self]
    · rcases elsewhere asked same with ⟨none, none'⟩
      rw [Scene.memo_updateMemo_of_ne same, none, none']
      exact .refl (inOrder asked) fun _ member => member.elim

end Move

section Lookups

variable (inOrder : scene.InOrder)

include inOrder

/-- Joining a line gives a stand there. -/
theorem move_join
    {post : Post}
    (move :
      Memo.Move ∅ {post} (scene.data.memo cell) (scene.data.memo cell).join.2) :
    clock.Move ∅ {(cell, post)} scene (scene.joinLine cell) := by
  refine .of_memo inOrder (fun asked different => ?_) ?_
  · exact ⟨rfl, postsOf_singleton_of_ne different _⟩
  · rwa [postsOf_singleton_self]

theorem move_noteCall
    (grants : ∀ stand ∈ held, scene.Grants stand) :
    clock.Move held held scene (scene.noteCall cell) where
  later := by
    rw [Scene.noteCall, clock.reading_updateMemo, clock.reading_log rfl]
  memo := fun asked => by
    refine .of_same (inOrder asked) (fun post member =>
      grants (asked, post) member) ?_ ?_ ?_
    all_goals
      by_cases same : asked = cell
      · subst same
        simp
      · rw [Scene.memo_noteCall_of_ne same]

/-- Keeping the value gives the stand up. -/
theorem move_keep
    {ticket : Nat} (settled : Settled)
    (runs : scene.Grants (cell, .running, ticket)) :
    clock.Move {(cell, .running, ticket)} ∅ scene
      (scene.updateMemo cell (Memo.keep settled)) := by
  refine .of_memo inOrder (fun asked different => ?_) ?_
  · exact ⟨postsOf_singleton_of_ne different _, rfl⟩
  · rw [postsOf_singleton_self]
    exact .keep settled runs

end Lookups

end Clock

end Phrasebook
