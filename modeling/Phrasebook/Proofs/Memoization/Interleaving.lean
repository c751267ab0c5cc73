import Phrasebook.Proofs.Memoization.Board
import Phrasebook.Proofs.Memoization.Line

/-!
# Memoization in every interleaving

Whatever the order in which lookups of a computed binding are started, polled
and dropped, at most one invocation of the supplier is in progress; after a
success the supplier is not called again, and whoever finishes gets the kept
value; an error goes only to the lookup whose own invocation failed; and as long
as somebody waits for a value, exactly one lookup is the one to run the
supplier.
-/

namespace Phrasebook

namespace Memoization

namespace Board

/-- The stages of the lookups on a board. -/
def stages (board : Board) : Stages :=
  fun index => board.lookups[index]?.map Prod.snd

/-- A lookup waits in line. -/
def Waits (board : Board) (index : Nat) : Prop :=
  ∃ ticket, board.stages index = some (.waiting ticket)

/-- A lookup runs the supplier. -/
def Runs (board : Board) (index : Nat) : Prop :=
  ∃ ticket advance release,
    board.stages index = some (.running ticket advance release)

/-- A lookup is the one to run the supplier: it runs it, or is the first one
that waits. -/
def MayRun (binding : Binding) (board : Board) (index : Nat) : Prop :=
  board.Runs index ∨
    ∃ ticket, board.stages index = some (.waiting ticket) ∧
      (binding.memo board.scene).mayRun ticket = true

end Board

variable {binding : Binding} {board : Board} {memo memo' : Memo}

/-- What a kept value means for one lookup: nothing calls the supplier, and the
lookup can only finish with the value. -/
structure Settles (settled : Settled) (before : Memo × Option Stage)
    (after : Memo × Option Stage) :
    Prop where
  value : after.1.value = some settled
  calls : after.1.calls = before.1.calls
  finished :
    ∀ own result, after.2 = some (.finished own result) →
      before.2 = some (.finished own result) ∨ result = .ok settled

/-- A value that has been kept stays on every path. -/
theorem settles_path
    {before after : Memo × Option Stage} {settled : Settled}
    (kept : before.1.value = some settled) (path : Path binding before after) :
    Settles settled before after := by
  induction path with
  | refl => exact ⟨kept, rfl, fun _ _ stands => .inl stands⟩
  | @tail between after _ move ih =>
      have notNone : between.1.value ≠ none := by
        rw [ih.value]
        exact Option.some_ne_none settled
      cases move with
      | found kept' unfinished =>
          refine ⟨ih.value, ih.calls, ?_⟩
          intro own result stands
          cases stands
          exact .inr
            (congrArg Except.ok (Option.some.inj (kept'.symm.trans ih.value)))
      | join notKept => exact (notNone notKept).elim
      | call entitled => exact (notNone entitled.notKept).elim
      | suspend entitled keeps => exact (notNone entitled.notKept).elim
      | succeed settled' entitled => exact (notNone entitled.notKept).elim
      | fail error entitled => exact (notNone entitled.notKept).elim
      | leave holds =>
          exact ⟨ih.value, ih.calls, fun _ _ stands => nomatch stands⟩

theorem stages_set
    {index : Nat} {caller : Caller} {stage stage' : Stage}
    (found : board.lookups[index]? = some (caller, stage)) (scene : Scene) :
    Board.stages ⟨scene, board.lookups.set index (caller, stage')⟩ =
      Function.update board.stages index (some stage') := by
  rcases List.getElem?_eq_some_iff.mp found with ⟨bound, -⟩
  ext1 asked
  rw [Board.stages, Function.update_apply]
  split_ifs with same
  · subst same
    rw [List.getElem?_set_self bound]
    rfl
  · rw [List.getElem?_set_ne fun equal => same equal.symm]
    rfl

theorem stages_append (caller : Caller) (stage : Stage) (scene : Scene) :
    Board.stages ⟨scene, board.lookups ++ [(caller, stage)]⟩ =
      Function.update board.stages board.lookups.length (some stage) := by
  ext1 asked
  rw [Board.stages, Function.update_apply]
  split_ifs with same
  · rw [same, List.getElem?_concat_length]
    rfl
  · rw [Board.stages, List.getElem?_append]
    split_ifs with earlier
    · rfl
    · have later : [(caller, stage)].length ≤ asked - board.lookups.length := by
        rw [List.length_singleton]
        omega
      rw [List.getElem?_eq_none later,
        List.getElem?_eq_none (Nat.le_of_not_lt earlier)]

/-- What an action amounts to: one lookup makes moves, possibly none. -/
def Moves (binding : Binding) (before after : Board) : Prop :=
  ∃ index stage,
    after.stages = Function.update before.stages index stage ∧
      Path binding (binding.memo before.scene, before.stages index)
        (binding.memo after.scene, stage)

theorem moves_of_same
    {after : Board} (stages : after.stages = board.stages)
    (memo : binding.memo after.scene = binding.memo board.scene) :
    Moves binding board after := by
  refine ⟨0, board.stages 0, ?_, ?_⟩
  · rw [stages, Function.update_eq_self]
  · rw [memo]

theorem moves_change
    (index : Nat) {move : Caller → Stage → Scene → Stage × Scene}
    (path :
      ∀ caller stage, board.stages index = some stage →
        Path binding (binding.memo board.scene, some stage)
          (binding.memo (move caller stage board.scene).2,
            some (move caller stage board.scene).1)) :
    Moves binding board (board.change index move) := by
  rw [Board.change]
  cases found : board.lookups[index]? with
  | none => exact moves_of_same rfl rfl
  | some lookup =>
      rcases lookup with ⟨caller, stage⟩
      have stands : board.stages index = some stage := by
        rw [Board.stages, found]
        rfl
      refine ⟨index, some (move caller stage board.scene).1,
        stages_set found _, ?_⟩
      rw [stands]
      exact path caller stage stands

/-- Every action is a sequence of moves of one lookup. -/
theorem moves_step
    (reserved : binding.Reserved)
    (invariant : Invariant binding (binding.memo board.scene) board.stages)
    (action : Action binding) :
    Moves binding board (board.step binding action) := by
  cases action with
  | start caller =>
      refine ⟨board.lookups.length, _, stages_append caller _ _, ?_⟩
      have unused : board.stages board.lookups.length = none := by
        rw [Board.stages, List.getElem?_eq_none (Nat.le_refl _)]
        rfl
      rw [unused]
      exact path_start reserved
  | poll index =>
      refine moves_change index fun caller stage stands => path_poll reserved ?_
      rintro ticket advance release rfl
      exact invariant.runs index ticket advance release stands
  | drop index =>
      refine moves_change index fun caller stage stands => path_drop ?_
      rintro ticket advance release rfl
      exact (invariant.runs index ticket advance release stands).2
  | elsewhere change alone => exact moves_of_same rfl (alone board.scene)

/-- The invariant holds after every action, and so after every run. -/
theorem invariant_run
    (reserved : binding.Reserved)
    (invariant : Invariant binding (binding.memo board.scene) board.stages)
    (actions : List (Action binding)) :
    Invariant binding (binding.memo (board.run binding actions).scene)
      (board.run binding actions).stages := by
  induction actions generalizing board with
  | nil => exact invariant
  | cons action rest ih =>
      refine ih ?_
      rcases moves_step reserved invariant action with
        ⟨index, stage, stages, path⟩
      rw [stages]
      exact invariant.path path

/-- After a value has been kept, no run calls the supplier again, and every
lookup that finishes gets the value. -/
theorem settles_run
    (reserved : binding.Reserved)
    (invariant : Invariant binding (binding.memo board.scene) board.stages)
    {settled : Settled} (kept : (binding.memo board.scene).value = some settled)
    (actions : List (Action binding)) (index : Nat) :
    Settles settled (binding.memo board.scene, board.stages index)
      (binding.memo (board.run binding actions).scene,
        (board.run binding actions).stages index) := by
  induction actions generalizing board with
  | nil => exact ⟨kept, rfl, fun _ _ stands => .inl stands⟩
  | cons action rest ih =>
      rcases moves_step reserved invariant action with
        ⟨moved, stage, stages, path⟩
      have first := settles_path kept path
      have invariant' :
          Invariant binding (binding.memo (board.step binding action).scene)
            (board.step binding action).stages := by
        rw [stages]
        exact invariant.path path
      have later := ih invariant' first.value
      refine ⟨later.value, later.calls.trans first.calls, ?_⟩
      intro own result stands
      rcases later.finished own result stands with earlier | found
      · rw [stages, Function.update_apply] at earlier
        dsimp only at earlier
        split_ifs at earlier with same
        · subst same
          exact first.finished own result earlier
        · exact .inl earlier
      · exact .inr found

/-- What memoization promises of a board, and of all that may follow. -/
structure Memoized (binding : Binding) (board : Board) : Prop where
  /-- At most one invocation of the supplier is in progress. -/
  alone : ∀ index other, board.Runs index → board.Runs other → index = other
  /-- After an invocation has succeeded, the supplier is not called again, and
  every lookup that finishes from then on, old or new, gets the value. -/
  succeeded :
    ∀ index settled result,
      board.stages index = some (.finished (some (.ok settled)) result) →
        ∀ actions,
          (binding.memo (board.run binding actions).scene).calls =
              (binding.memo board.scene).calls ∧
            (∀ other, ¬ (board.run binding actions).Runs other) ∧
              ∀ other own result',
                (board.run binding actions).stages other =
                  some (.finished own result') →
                  board.stages other = some (.finished own result') ∨
                    result' = .ok settled
  /-- An error goes to the lookup whose own invocation ended in it. -/
  failed :
    ∀ index own error,
      board.stages index = some (.finished own (.error error)) →
        own = some (.error error)
  /-- While somebody waits for a value, exactly one lookup is the one to run the
  supplier. -/
  entitled :
    (binding.memo board.scene).value = none →
      (∃ index, board.Waits index) → ∃! index, board.MayRun binding index
  /-- When every lookup has ended, nobody is left in line. -/
  idle :
    (∀ index, ¬ board.Waits index ∧ ¬ board.Runs index) →
      (binding.memo board.scene).line = []

/-- The lookup with the first ticket in line may run the supplier. -/
theorem mayRun_of_first
    {index ticket : Nat} (holds : board.stages.ticketAt index = some ticket)
    (first : (binding.memo board.scene).line.head? = some ticket) :
    board.MayRun binding index := by
  rcases Option.bind_eq_some_iff.mp holds with ⟨stage, stands, has⟩
  cases stage with
  | waiting ticket' =>
      cases has
      exact .inr ⟨ticket, stands, beq_iff_eq.mpr first⟩
  | running ticket' advance release =>
      exact .inl ⟨ticket', advance, release, stands⟩
  | finished own result => cases has
  | dropped => cases has

section Promises

variable (invariant : Invariant binding (binding.memo board.scene) board.stages)

include invariant

/-- Who may run the supplier has the first ticket in line. -/
theorem ticketAt_of_mayRun
    {index : Nat} (mayRun : board.MayRun binding index) :
    ∃ ticket,
      board.stages.ticketAt index = some ticket ∧
        (binding.memo board.scene).line.head? = some ticket := by
  rcases mayRun with
    ⟨ticket, advance, release, stands⟩ | ⟨ticket, stands, first⟩
  · rcases invariant.runs index ticket advance release stands with ⟨entitled, -⟩
    exact ⟨ticket, Stages.ticketAt_eq stands, entitled.first⟩
  · exact ⟨ticket, Stages.ticketAt_eq stands, beq_iff_eq.mp first⟩

theorem mayRun_unique
    {index other : Nat} (mayRun : board.MayRun binding index)
    (mayRun' : board.MayRun binding other) :
    index = other := by
  rcases ticketAt_of_mayRun invariant mayRun with ⟨ticket, holds, first⟩
  rcases ticketAt_of_mayRun invariant mayRun' with ⟨ticket', holds', first'⟩
  obtain rfl : ticket = ticket' := Option.some.inj (first.symm.trans first')
  exact invariant.distinct index other ticket holds holds'

/-- The invariant of a reserved binding holds along all interleavings. -/
theorem memoized (reserved : binding.Reserved) : Memoized binding board where
  alone := fun index other runs runs' =>
    mayRun_unique invariant (.inl runs) (.inl runs')
  succeeded := by
    intro index settled result stands actions
    have kept := (invariant.finished index _ result stands).2 settled rfl
    have later := settles_run reserved invariant kept actions
    have invariant' := invariant_run reserved invariant actions
    refine ⟨(later index).calls, ?_, fun other own result' =>
      (later other).finished own result'⟩
    rintro other ⟨ticket, advance, release, runs⟩
    have entitled := (invariant'.runs other ticket advance release runs).1
    exact Option.some_ne_none settled
      ((later other).value.symm.trans entitled.notKept)
  failed := by
    intro index own error stands
    have fits := invariant.finished index own _ stands
    cases own with
    | none =>
        rcases fits with ⟨settled, equal, -⟩
        cases equal
    | some outcome => rw [fits.1]
  entitled := by
    rintro notKept ⟨index, ticket, stands⟩
    have inLine :=
      (invariant.inLine notKept ticket).mpr ⟨index, Stages.ticketAt_eq stands⟩
    rcases List.exists_cons_of_ne_nil (List.ne_nil_of_mem inLine) with
      ⟨first, rest, line⟩
    have head : (binding.memo board.scene).line.head? = some first := by
      rw [line]
      rfl
    have firstInLine : first ∈ (binding.memo board.scene).line :=
      List.mem_of_mem_head? head
    rcases (invariant.inLine notKept first).mp firstInLine with ⟨holder, holds⟩
    have mayRun := mayRun_of_first holds head
    exact ⟨holder, mayRun, fun other mayRun' =>
      mayRun_unique invariant mayRun' mayRun⟩
  idle := by
    intro ended
    cases value : (binding.memo board.scene).value with
    | some settled => exact invariant.dismissed (by simp [value])
    | none =>
        refine List.eq_nil_iff_forall_not_mem.mpr fun ticket inLine => ?_
        rcases (invariant.inLine value ticket).mp inLine with ⟨index, holds⟩
        rcases Option.bind_eq_some_iff.mp holds with ⟨stage, stands, has⟩
        cases stage with
        | waiting ticket' => exact (ended index).1 ⟨ticket', stands⟩
        | running ticket' advance release =>
            exact (ended index).2 ⟨ticket', advance, release, stands⟩
        | finished own result => cases has
        | dropped => cases has

end Promises

/-- Memoization over every interleaving: from a binding that nobody has looked
up, any actions lead to a board that keeps all promises, and the completions
that the program has are those of the board. -/
theorem memoized_run
    (binding : Binding) (reserved : binding.Reserved) (scene : Scene)
    (fresh : binding.memo scene = .fresh) (actions : List (Action binding)) :
    Room.run binding actions (Room.opened scene) =
        (Board.run binding actions (Board.opened scene)).room binding ∧
      Memoized binding (Board.run binding actions (Board.opened scene)) := by
  have start :
      Invariant binding (binding.memo (Board.opened scene).scene)
          (Board.opened scene).stages := by
    change Invariant binding (binding.memo scene) fun _ => none
    rw [fresh]
    exact Invariant.fresh
  exact ⟨room_run actions (Board.opened scene),
    memoized (invariant_run reserved start actions) reserved⟩

/-- A binding whose supplier answers after two polls, the first time with a
failure. -/
def sampleBinding : Binding where
  cell := ⟨"total", "moody", 0⟩
  suppliers _ _ key call scene :=
    (.pending (.after 1 id
      (if call =
        1 then .failed (.message "not yet") else .value (.string key))), scene)

/-- Somebody who looks the binding up. -/
def sampleCaller : Caller where
  engine := ⟨[], [], [], [], {}⟩
  services := ⟨{}, fun _ _ state => (.ready (.ok ""), state)⟩
  expression := .path none [.property "total"] ⟨"main", 1⟩

/-- Two lookups start, and the second one waits until the first one has failed;
a third one starts and is dropped, and a fourth one finds the value. -/
def sampleActions : List (Action sampleBinding) :=
  [.start sampleCaller, .start sampleCaller, .poll 1, .poll 0, .poll 1,
    .start sampleCaller,
    .drop 2, .poll 1, .start sampleCaller]

theorem sampleBinding_reserved : sampleBinding.Reserved where
  supplier := fun _ _ _ => rfl
  answers := by
    intro services call scene
    refine Resolved.handleKeeps_after (fun _ => rfl) ?_ 1
    split_ifs
    · trivial
    · trivial

/-- The first lookup has the failure of its own invocation, the second and the
fourth one have the value, and the supplier was called twice. -/
theorem sampleActions_memoize :
    sampleBinding.Reserved ∧ sampleBinding.memo default = .fresh ∧
      Memoized sampleBinding
        (Board.run sampleBinding sampleActions (Board.opened default)) ∧
        (sampleBinding.memo
          (Room.run sampleBinding sampleActions
            (Room.opened default)).scene).calls = 2 ∧
          (Room.run sampleBinding sampleActions
            (Room.opened default)).lookups.map
              (fun lookup => lookup.bind Completion.result?) =
            [some
              (.error (.ofCause (.message "not yet") sampleCaller.expression)),
              some (.ok (.value (.string "total"))), none,
              some (.ok (.value (.string "total")))] := by
  have fresh : sampleBinding.memo default = .fresh := rfl
  rcases memoized_run sampleBinding sampleBinding_reserved default fresh
      sampleActions with
    ⟨-, memoized⟩
  exact ⟨sampleBinding_reserved, fresh, memoized, rfl, rfl⟩

end Memoization

end Phrasebook
