import Mathlib.Data.List.Nodup
import Mathlib.Logic.Function.Basic
import Mathlib.Logic.Relation
import Phrasebook.Proofs.Memoization.Lookup

/-!
# The line of a computed binding

While no value is kept, the line of a binding holds exactly the tickets of the
lookups that have not ended, each ticket once, and only the first one's lookup
runs the supplier; once a value is kept, the line is empty and nobody runs.
This invariant survives every move that a lookup can make, and starting, polling
and dropping a lookup are sequences of such moves.
-/

namespace Phrasebook

namespace Memoization

/-- A lookup with a ticket may run the supplier. -/
structure Entitled (memo : Memo) (stage : Stage) (ticket : Nat) : Prop where
  notKept : memo.value = none
  first : memo.line.head? = some ticket
  holds : stage.ticket? = some ticket

/-- The moves of one lookup, as they change the memo and its stage.  A call of
the supplier is a move of its own, before it is known where the invocation
leads. -/
inductive Move
    (binding : Binding) : Memo × Option Stage → Memo × Option Stage → Prop
  | found {memo : Memo} {before : Option Stage} {settled : Settled}
      (kept : memo.value = some settled)
      (unfinished : before = none ∨ ∃ ticket, before = some (.waiting ticket)) :
      Move binding (memo, before) (memo, some (.finished none (.ok settled)))
  | join {memo : Memo} (notKept : memo.value = none) :
      Move binding (memo, none) (memo.join.2, some (.waiting memo.nextTicket))
  | call {memo : Memo} {ticket : Nat}
      (entitled : Entitled memo (.waiting ticket) ticket) :
      Move binding (memo, some (.waiting ticket)) (memo.called,
        some (.waiting ticket))
  | suspend {memo : Memo} {stage : Stage} {ticket : Nat}
      {advance : Scene → Poll Scene (Except EngineError Settled)}
      {release : Scene → Scene} (entitled : Entitled memo stage ticket)
      (keeps : (Completion.pending advance release).Keeps binding.memo) :
      Move binding (memo, some stage) (memo,
        some (.running ticket advance release))
  | succeed {memo : Memo} {stage : Stage} {ticket : Nat} (settled : Settled)
      (entitled : Entitled memo stage ticket) :
      Move binding (memo, some stage)
        (memo.keep settled, some (.finished (some (.ok settled)) (.ok settled)))
  | fail {memo : Memo} {stage : Stage} {ticket : Nat} (error : EngineError)
      (entitled : Entitled memo stage ticket) :
      Move binding (memo, some stage)
        (memo.leave ticket,
          some (.finished (some (.error error)) (.error error)))
  | leave {memo : Memo} {stage : Stage} {ticket : Nat}
      (holds : stage.ticket? = some ticket) :
      Move binding (memo, some stage) (memo.leave ticket, some .dropped)

/-- The stages of lookups by their numbers. -/
abbrev Stages := Nat → Option Stage

namespace Stages

/-- The ticket of a lookup that has not ended. -/
def ticketAt (stages : Stages) (index : Nat) : Option Nat :=
  (stages index).bind Stage.ticket?

theorem ticketAt_eq
    {stages : Stages} {index : Nat} {stage : Stage}
    (stands : stages index = some stage) :
    stages.ticketAt index = stage.ticket? := by
  rw [ticketAt, stands]
  rfl

theorem ticketAt_update
    (stages : Stages) (index : Nat) (after : Option Stage) (asked : Nat) :
    ticketAt (Function.update stages index after) asked =
      if asked = index then after.bind Stage.ticket?
        else stages.ticketAt asked := by
  rw [ticketAt, Function.update_apply]
  split_ifs
  · rfl
  · rfl

end Stages

/-- A finished lookup has the result of its own invocation, or found the value
that is kept; and a value in which an invocation ended is kept. -/
def Fits (memo : Memo) (own : Option (Except EngineError Settled))
    (result : Except EngineError Settled) : Prop :=
  match own with
  | some outcome => result = outcome ∧ ∀ settled, outcome = .ok settled →
      memo.value = some settled
  | none => ∃ settled, result = .ok settled ∧ memo.value = some settled

/-- The invariant of a memo and the lookups of its binding. -/
structure Invariant (binding : Binding) (memo : Memo) (stages : Stages) :
    Prop where
  inLine :
    memo.value = none →
      ∀ ticket, ticket ∈ memo.line ↔
        ∃ index, stages.ticketAt index = some ticket
  distinct :
    ∀ index other ticket,
      stages.ticketAt index = some ticket →
        stages.ticketAt other = some ticket → index = other
  issued : ∀ index ticket, stages.ticketAt index = some ticket →
    ticket < memo.nextTicket
  once : memo.line.Nodup
  dismissed : memo.value ≠ none → memo.line = []
  runs :
    ∀ index ticket advance release,
      stages index = some (.running ticket advance release) →
        Entitled memo (.running ticket advance release) ticket ∧
          (Completion.pending advance release).Keeps binding.memo
  finished :
    ∀ index own result, stages index = some (.finished own result) →
      Fits memo own result

namespace Invariant

variable {binding : Binding} {memo memo' : Memo} {stages : Stages} {index : Nat}

/-- Nobody has looked the binding up yet. -/
theorem fresh : Invariant binding .fresh (fun _ => none) where
  inLine := by
    intro _ ticket
    constructor
    · intro member
      cases member
    · rintro ⟨index, holds⟩
      cases holds
  distinct := fun _ _ _ holds => nomatch holds
  issued := fun _ _ holds => nomatch holds
  once := List.nodup_nil
  dismissed := fun _ => rfl
  runs := fun _ _ _ _ stands => nomatch stands
  finished := fun _ _ _ stands => nomatch stands

section Ended

variable {after : Stage} (ended : after.ticket? = none)

include ended

/-- A lookup that has ended has no ticket, and the others keep theirs. -/
theorem ticketAt_ended (stages : Stages) (index asked ticket : Nat) :
    Stages.ticketAt (Function.update stages index (some after)) asked =
      some ticket ↔
      asked ≠ index ∧ stages.ticketAt asked = some ticket := by
  rw [Stages.ticketAt_update]
  split_ifs with same
  · simp [same, ended]
  · simp [same]

/-- The end of a lookup, when the memo still suits the others. -/
theorem retire
    (invariant : Invariant binding memo stages)
    (inLine :
      memo'.value = none →
        ∀ ticket, ticket ∈ memo'.line ↔
          ∃ other, other ≠ index ∧ stages.ticketAt other = some ticket)
    (nextTicket : memo'.nextTicket = memo.nextTicket)
    (once : memo'.line.Nodup) (dismissed : memo'.value ≠ none → memo'.line = [])
    (others :
      ∀ other stage ticket, other ≠ index → stages other = some stage →
        Entitled memo stage ticket → Entitled memo' stage ticket)
    (values : ∀ settled, memo.value = some settled → memo'.value = some settled)
    (fits : ∀ own result, after = .finished own result →
      Fits memo' own result) :
    Invariant binding memo' (Function.update stages index (some after)) where
  inLine := by
    intro notKept ticket
    simp only [ticketAt_ended ended]
    exact inLine notKept ticket
  distinct := by
    intro first second ticket
    rw [ticketAt_ended ended, ticketAt_ended ended]
    rintro ⟨-, holds⟩ ⟨-, holds'⟩
    exact invariant.distinct first second ticket holds holds'
  issued := by
    intro asked ticket
    rw [ticketAt_ended ended, nextTicket]
    rintro ⟨-, holds⟩
    exact invariant.issued asked ticket holds
  once := once
  dismissed := dismissed
  runs := by
    intro asked ticket advance release
    rw [Function.update_apply]
    split_ifs with same
    · rintro stands
      rcases Option.some.inj stands with rfl
      cases ended
    · intro stands
      rcases invariant.runs asked ticket advance release stands with
        ⟨entitled, keeps⟩
      exact ⟨others asked _ ticket same stands entitled, keeps⟩
  finished := by
    intro asked own result
    rw [Function.update_apply]
    split_ifs with same
    · intro stands
      exact fits own result (Option.some.inj stands)
    · intro stands
      have before := invariant.finished asked own result stands
      cases own with
      | none =>
          rcases before with ⟨settled, equal, kept⟩
          exact ⟨settled, equal, values settled kept⟩
      | some outcome =>
          exact ⟨before.1, fun settled equal =>
            values settled (before.2 settled equal)⟩

end Ended

theorem found
    (invariant : Invariant binding memo stages)
    {settled : Settled} (kept : memo.value = some settled) :
    Invariant binding memo
      (Function.update stages index (some (.finished none (.ok settled)))) := by
  refine invariant.retire rfl ?_ rfl invariant.once invariant.dismissed ?_ ?_ ?_
  · intro notKept
    rw [kept] at notKept
    cases notKept
  · exact fun _ _ _ _ _ entitled => entitled
  · exact fun _ same => same
  · intro own result equal
    cases equal
    exact ⟨settled, rfl, kept⟩

theorem leave
    (invariant : Invariant binding memo stages)
    {ticket : Nat} (holds : stages.ticketAt index = some ticket)
    {after : Stage} (ended : after.ticket? = none)
    (fits : ∀ own result, after = .finished own result →
      Fits (memo.leave ticket) own result) :
    Invariant binding (memo.leave ticket)
      (Function.update stages index (some after)) := by
  refine invariant.retire ended ?_ rfl (invariant.once.erase ticket) ?_ ?_
    (fun _ same => same) fits
  · intro notKept asked
    change asked ∈ memo.line.erase ticket ↔ _
    rw [invariant.once.mem_erase_iff, invariant.inLine notKept]
    constructor
    · rintro ⟨different, other, holds'⟩
      refine ⟨other, ?_, holds'⟩
      rintro rfl
      rw [holds] at holds'
      exact different (Option.some.inj holds').symm
    · rintro ⟨other, different, holds'⟩
      refine ⟨?_, other, holds'⟩
      rintro rfl
      exact different (invariant.distinct other index asked holds' holds)
  · intro kept
    change memo.line.erase ticket = []
    rw [invariant.dismissed kept]
    rfl
  · intro other stage first different stands entitled
    -- Only the head of the line is entitled, and it is not the ticket that
    -- leaves.
    refine ⟨entitled.notKept, ?_, entitled.holds⟩
    have holds' := (Stages.ticketAt_eq stands).trans entitled.holds
    have apart : first ≠ ticket := by
      rintro rfl
      exact different (invariant.distinct other index first holds' holds)
    change (memo.line.erase ticket).head? = some first
    rcases List.head?_eq_some_iff.mp entitled.first with ⟨rest, line⟩
    rw [line, List.erase_cons_tail (by simpa using apart)]
    rfl

theorem keep
    (invariant : Invariant binding memo stages)
    {ticket : Nat} {stage : Stage} (stands : stages index = some stage)
    (entitled : Entitled memo stage ticket) (settled : Settled) :
    Invariant binding (memo.keep settled)
      (Function.update stages index
        (some (.finished (some (.ok settled)) (.ok settled)))) := by
  refine invariant.retire rfl ?_ rfl List.nodup_nil (fun _ => rfl) ?_ ?_ ?_
  · intro notKept
    cases notKept
  · intro other stage' first different stands' entitled'
    -- Two lookups that are both first in line would be the same one.
    have same : first = ticket := by
      have heads := entitled'.first.symm.trans entitled.first
      exact Option.some.inj heads
    subst same
    exact (different (invariant.distinct other index first
      ((Stages.ticketAt_eq stands').trans entitled'.holds)
      ((Stages.ticketAt_eq stands).trans entitled.holds))).elim
  · intro settled' kept
    rw [entitled.notKept] at kept
    cases kept
  · intro own result equal
    cases equal
    refine ⟨rfl, ?_⟩
    intro settled' equal
    cases equal
    rfl

/-- A lookup that joins the line has the new ticket, and the others keep
theirs. -/
theorem ticketAt_joined
    (unused : stages index = none) (joined asked ticket : Nat) :
    Stages.ticketAt (Function.update stages index (some (.waiting joined)))
      asked = some ticket ↔
      asked = index ∧ ticket = joined ∨ stages.ticketAt asked =
        some ticket := by
  have absent : stages.ticketAt index = none := by
    rw [Stages.ticketAt, unused]
    rfl
  rw [Stages.ticketAt_update]
  split_ifs with same
  · subst same
    simp [Stage.ticket?, absent, eq_comm]
  · simp [same]

/-- Joining the line keeps the invariant. -/
theorem join
    (invariant : Invariant binding memo stages)
    (notKept : memo.value = none) (unused : stages index = none) :
    Invariant binding memo.join.2
      (Function.update stages index (some (.waiting memo.nextTicket))) := by
  have tickets := ticketAt_joined unused memo.nextTicket
  constructor
  case inLine =>
    intro _ ticket
    change ticket ∈ memo.line ++ [memo.nextTicket] ↔ _
    rw [List.mem_append, List.mem_singleton, invariant.inLine notKept]
    simp only [tickets]
    constructor
    · rintro (⟨other, holds⟩ | new)
      · exact ⟨other, .inr holds⟩
      · exact ⟨index, .inl ⟨rfl, new⟩⟩
    · rintro ⟨other, ⟨-, new⟩ | holds⟩
      · exact .inr new
      · exact .inl ⟨other, holds⟩
  case distinct =>
    intro first second ticket
    rw [tickets, tickets]
    rintro (⟨rfl, rfl⟩ | holds) (⟨rfl, equal⟩ | holds')
    · rfl
    · exact (Nat.lt_irrefl _ (invariant.issued second _ holds')).elim
    · rw [equal] at holds
      exact (Nat.lt_irrefl _ (invariant.issued first _ holds)).elim
    · exact invariant.distinct first second ticket holds holds'
  case issued =>
    intro asked ticket
    rw [tickets]
    rintro (⟨-, rfl⟩ | holds)
    · exact Nat.lt_succ_self _
    · exact Nat.lt_succ_of_lt (invariant.issued asked ticket holds)
  case once =>
    refine List.nodup_append.mpr ⟨invariant.once, List.nodup_singleton _, ?_⟩
    intro ticket member other new
    rw [List.mem_singleton.mp new]
    rcases (invariant.inLine notKept ticket).mp member with ⟨holder, holds⟩
    exact Nat.ne_of_lt (invariant.issued holder ticket holds)
  case dismissed =>
    exact fun kept => (kept notKept).elim
  case runs =>
    intro asked ticket advance release
    rw [Function.update_apply]
    split_ifs with same
    · intro stands
      cases stands
    · intro stands
      rcases invariant.runs asked ticket advance release stands with
        ⟨entitled, keeps⟩
      refine ⟨⟨notKept, ?_, rfl⟩, keeps⟩
      rcases List.head?_eq_some_iff.mp entitled.first with ⟨rest, line⟩
      change (memo.line ++ [memo.nextTicket]).head? = some ticket
      rw [line]
      rfl
  case finished =>
    intro asked own result
    rw [Function.update_apply]
    split_ifs with same
    · intro stands
      cases stands
    · exact invariant.finished asked own result

/-- A lookup that keeps its place, on a memo with the same value and the same
line. -/
theorem stay
    (invariant : Invariant binding memo stages)
    (value : memo'.value = memo.value) (line : memo'.line = memo.line)
    (nextTicket : memo'.nextTicket = memo.nextTicket) {after : Option Stage}
    (same : after.bind Stage.ticket? = stages.ticketAt index)
    (runs :
      ∀ ticket advance release, after = some (.running ticket advance release) →
        Entitled memo (.running ticket advance release) ticket ∧
          (Completion.pending advance release).Keeps binding.memo)
    (finished : ∀ own result, after = some (.finished own result) →
      Fits memo own result) :
    Invariant binding memo' (Function.update stages index after) := by
  have tickets :
      ∀ asked, Stages.ticketAt (Function.update stages index after) asked =
          stages.ticketAt asked := by
    intro asked
    rw [Stages.ticketAt_update]
    split_ifs with equal
    · rw [equal, same]
    · rfl
  have fits :
      ∀ {own result}, Fits memo own result → Fits memo' own result := by
    intro own result fits
    unfold Fits
    rwa [value]
  have entitled :
      ∀ {stage ticket}, Entitled memo stage ticket →
          Entitled memo' stage ticket := by
    rintro stage ticket ⟨notKept, first, holds⟩
    exact ⟨value.trans notKept, by rw [line, first], holds⟩
  constructor
  case inLine =>
    simp only [tickets, value, line]
    exact invariant.inLine
  case distinct =>
    simp only [tickets]
    exact invariant.distinct
  case issued =>
    simp only [tickets, nextTicket]
    exact invariant.issued
  case once =>
    rw [line]
    exact invariant.once
  case dismissed =>
    rw [value, line]
    exact invariant.dismissed
  case runs =>
    intro asked ticket advance release
    rw [Function.update_apply]
    split_ifs
    · intro stands
      exact (runs ticket advance release stands).imp_left entitled
    · intro stands
      exact (invariant.runs asked ticket advance release stands).imp_left
        entitled
  case finished =>
    intro asked own result
    rw [Function.update_apply]
    split_ifs
    · exact fun stands => fits (finished own result stands)
    · exact fun stands => fits (invariant.finished asked own result stands)

/-- Every move of a lookup keeps the invariant. -/
theorem move
    (invariant : Invariant binding memo stages) {after : Option Stage}
    (move : Move binding (memo, stages index) (memo', after)) :
    Invariant binding memo' (Function.update stages index after) := by
  generalize before_eq : stages index = before at move
  cases move with
  | found kept unfinished => exact invariant.found kept
  | join notKept => exact invariant.join notKept before_eq
  | @call _ ticket entitled =>
      apply invariant.stay
      · rfl
      · rfl
      · rfl
      · rw [Stages.ticketAt, before_eq]
      · exact fun _ _ _ stands => nomatch stands
      · exact fun _ _ stands => nomatch stands
  | @suspend _ stage ticket advance release entitled keeps =>
      refine invariant.stay rfl rfl rfl ?_ ?_ ?_
      · rw [Stages.ticketAt, before_eq]
        exact entitled.holds.symm
      · intro ticket' advance' release' stands
        cases stands
        exact ⟨⟨entitled.notKept, entitled.first, rfl⟩, keeps⟩
      · exact fun _ _ stands => nomatch stands
  | succeed settled entitled => exact invariant.keep before_eq entitled settled
  | fail error entitled =>
      have holds := (Stages.ticketAt_eq before_eq).trans entitled.holds
      refine invariant.leave holds rfl ?_
      intro own result stands
      cases stands
      exact ⟨rfl, fun settled equal => nomatch equal⟩
  | leave holds =>
      have holds' := (Stages.ticketAt_eq before_eq).trans holds
      exact invariant.leave holds' rfl fun own result stands => nomatch stands

/-- And so does every sequence of moves. -/
theorem path
    (invariant : Invariant binding memo stages) {after : Option Stage}
    (path : Relation.ReflTransGen (Move binding) (memo, stages index) (memo',
      after)) :
    Invariant binding memo' (Function.update stages index after) := by
  generalize reached : (memo', after) = position at path
  induction path generalizing memo' after with
  | refl =>
      cases reached
      rwa [Function.update_eq_self]
  | @tail between position _ step ih =>
      subst reached
      rcases between with ⟨memo'', stage⟩
      have earlier := ih rfl
      have later : Move binding (memo'',
          Function.update stages index stage index) (memo', after) := by
        rwa [Function.update_self]
      have moved := earlier.move later
      rwa [Function.update_idem] at moved

end Invariant

/-- Only lookups change the memo of a binding: its supplier, and the handles
that it answers with, leave it alone. -/
structure Binding.Reserved (binding : Binding) : Prop where
  supplier :
    ∀ services call scene,
      binding.memo (binding.supplier services binding.cell.key call scene).2 =
        binding.memo scene
  answers :
    ∀ services call scene,
      (binding.supplier services binding.cell.key call scene).1.Keeps
        binding.memo

/-- Moves of one lookup, one after the other. -/
abbrev Path
    (binding : Binding) : Memo × Option Stage → Memo × Option Stage → Prop :=
  Relation.ReflTransGen (Move binding)

section Paths

variable {binding : Binding} {caller : Caller} {stage : Stage} {ticket : Nat}
  {scene : Scene}

@[simp]
theorem memo_leave (ticket : Nat) (scene : Scene) :
    binding.memo (binding.leave ticket scene) =
      (binding.memo scene).leave ticket :=
  Scene.memo_updateMemo_self _ _ _

@[simp]
theorem memo_joinLine (scene : Scene) :
    binding.memo (scene.joinLine binding.cell) = (binding.memo scene).join.2 :=
  Scene.memo_updateMemo_self _ _ _

@[simp]
theorem memo_noteCall (scene : Scene) :
    binding.memo (scene.noteCall binding.cell) = (binding.memo scene).called :=
  Scene.memo_updateMemo_self _ _ _

/-- An invocation that has come to a completion suspends, succeeds or fails. -/
theorem path_invoked
    {invocation : Evaluation Scene Settled}
    (entitled : Entitled (binding.memo scene) stage ticket)
    (keeps : invocation.Keeps binding.memo) :
    Path binding (binding.memo scene, some stage)
      (binding.memo (binding.invoked ticket invocation scene).2,
        some (binding.invoked ticket invocation scene).1) := by
  apply Relation.ReflTransGen.single
  match invocation with
  | .ready (.ok settled) =>
      have kept :
          binding.memo (scene.endRun binding.cell ticket (.ok settled)) =
            (binding.memo scene).keep settled :=
        Scene.memo_updateMemo_self _ _ _
      rw [Binding.invoked, kept]
      exact .succeed settled entitled
  | .ready (.error error) =>
      have left :
          binding.memo (scene.endRun binding.cell ticket (.error error)) =
            (binding.memo scene).leave ticket :=
        Scene.memo_updateMemo_self _ _ _
      rw [Binding.invoked, left]
      exact .fail error entitled
  | .pending advance release => exact .suspend entitled keeps

/-- A lookup that is first in line calls the supplier. -/
theorem path_call
    (reserved : binding.Reserved)
    (entitled : Entitled (binding.memo scene) (.waiting ticket) ticket) :
    Path binding (binding.memo scene, some (.waiting ticket))
      (binding.memo (caller.call binding ticket scene).2,
        some (caller.call binding ticket scene).1) := by
  rw [Caller.call]
  have unchanged :
      binding.memo
          ((caller.evaluator binding).callSupplier binding.cell scene).2 =
        (binding.memo scene).called :=
    (reserved.supplier _ _ _).trans (memo_noteCall scene)
  have keeps := (reserved.answers (caller.evaluator binding).services
    ((scene.noteCall binding.cell).data.memo binding.cell).calls
      (scene.noteCall binding.cell)).flatten
      caller.expression
        (caller.evaluator binding).engine.config.unrestrictedAsyncValues
  have polled :=
    keeps.poll ((caller.evaluator binding).callSupplier binding.cell scene).2
  apply Relation.ReflTransGen.head (Move.call entitled)
  rw [← unchanged, ← polled.1]
  apply path_invoked _ polled.2
  rw [polled.1, unchanged]
  exact ⟨entitled.notKept, entitled.first, rfl⟩

theorem path_turn
    (reserved : binding.Reserved)
    (notKept : (binding.memo scene).value = none) :
    Path binding (binding.memo scene, some (.waiting ticket))
      (binding.memo (caller.turn binding ticket scene).2,
        some (caller.turn binding ticket scene).1) := by
  rw [Caller.turn]
  cases first : (binding.memo scene).mayRun ticket with
  | false => exact .refl
  | true => exact path_call reserved ⟨notKept, beq_iff_eq.mp first, rfl⟩

/-- Starting a lookup is a sequence of moves. -/
theorem path_start (reserved : binding.Reserved) :
    Path binding (binding.memo scene, none)
      (binding.memo (caller.start binding scene).2,
        some (caller.start binding scene).1) := by
  rw [Caller.start]
  cases value : (binding.memo scene).value with
  | some settled => exact .single (.found value (.inl rfl))
  | none =>
      apply Relation.ReflTransGen.head (Move.join value)
      dsimp only
      rw [← memo_joinLine]
      exact path_turn reserved (by rwa [memo_joinLine])

/-- Polling a lookup is a sequence of moves. -/
theorem path_poll
    (reserved : binding.Reserved)
    (runs :
      ∀ ticket advance release, stage = .running ticket advance release →
        Entitled (binding.memo scene) stage ticket ∧
          (Completion.pending advance release).Keeps binding.memo) :
    Path binding (binding.memo scene, some stage)
      (binding.memo (caller.poll binding stage scene).2,
        some (caller.poll binding stage scene).1) := by
  cases stage with
  | waiting ticket =>
      rw [Caller.poll]
      cases value : (binding.memo scene).value with
      | some settled => exact .single (.found value (.inr ⟨ticket, rfl⟩))
      | none => exact path_turn reserved value
  | running ticket advance release =>
      rcases runs ticket advance release rfl with ⟨entitled, keeps⟩
      have reached := keeps.1 scene
      rw [Caller.poll]
      cases poll : advance scene with
      | blocked => exact .refl
      | advanced invocation after =>
          rw [poll] at reached
          dsimp only
          rw [← reached.1] at entitled ⊢
          exact path_invoked entitled reached.2
  | finished own result => exact .refl
  | dropped => exact .refl

/-- Dropping a lookup is a move, or nothing. -/
theorem path_drop
    (runs :
      ∀ ticket advance release, stage = .running ticket advance release →
        (Completion.pending advance release).Keeps binding.memo) :
    Path binding (binding.memo scene, some stage)
      (binding.memo (stage.drop binding scene).2,
        some (stage.drop binding scene).1) := by
  cases stage with
  | waiting ticket =>
      rw [Stage.drop, memo_leave]
      exact .single (.leave rfl)
  | running ticket advance release =>
      have released := (runs ticket advance release rfl).2 scene
      rw [Stage.drop, memo_leave, released]
      exact .single (.leave rfl)
  | finished own result => exact .refl
  | dropped => exact .refl

end Paths

end Memoization

end Phrasebook
