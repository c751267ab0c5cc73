import Mathlib.Data.Prod.Lex
import Phrasebook.Proofs.Joining.Schedule

/-!
# The join of a list

What a join of completions that share no state comes to depends on their tasks
only.  It is there at once when every one of them is ready, or when one that is
ready has failed and nothing in front of it is pending.  Otherwise it is
pending, and it succeeds exactly when every task does.  Driven in rounds it
fails with the failure of the task that ends in the earliest round, and of these
the first one in the list.

The part from the first pending completion on is driven by a join that is a
parameter here.  Up to a certain length it is known to poll in rounds; beyond
that it is only known to drive what it is given and to keep the order.
-/

namespace Phrasebook

namespace Task

variable {σ ε α : Type}

/-- Of the tasks that fail, the one at `position` ends in the earliest round,
and none in front of it ends in that round as well. -/
structure FailsFirst
    (tasks : List (Task ε α)) (position : Nat) (task : Task ε α) : Prop where
  found : tasks[position]? = some task
  fails : task.Fails
  least : ∀ (position' : Nat) (task' : Task ε α),
    tasks[position']? = some task' → task'.Fails →
    toLex (task.round, position) ≤ toLex (task'.round, position')

/-- The task of completions that are driven together. -/
def joint : List (Task ε α) → Task ε (List α)
  | [] => given []
  | first :: rest => first.beside List.cons (joint rest)

theorem waits_joint (tasks : List (Task ε α)) : (joint tasks).Waits := by
  induction tasks with
  | nil => exact fun ⟨_, failed⟩ => nomatch failed
  | cons first rest ih => exact waits_beside ih

theorem RunBy.together
    {tasks : List (Task ε α)} {completions : List (Completion σ (Except ε α))}
    (run : List.Forall₂ RunBy tasks completions) :
    (joint tasks).RunBy (Completion.together completions) := by
  induction run with
  | nil => exact rfl
  | cons first _ ih => exact first.both ih (waits_joint _)

/-- The joint task succeeds when all tasks do, with their values in order. -/
theorem result_joint_eq_ok_iff (tasks : List (Task ε α)) (values : List α) :
    (joint tasks).result = .ok values ↔ tasks.map result = values.map .ok := by
  induction tasks generalizing values with
  | nil => cases values <;> simp [joint, given]
  | cons first rest ih =>
      rw [joint, result_beside_eq_ok_iff]
      cases values with
      | nil => simp
      | cons value values => simp [← ih]

/-- The joint task fails when one of the tasks does. -/
theorem fails_joint {tasks : List (Task ε α)} {task : Task ε α}
    (member : task ∈ tasks) (fails : task.Fails) :
    (joint tasks).Fails := by
  obtain ⟨error, failed⟩ := fails
  cases met : (joint tasks).result with
  | error error => exact ⟨error, met⟩
  | ok values =>
      have member := List.mem_map_of_mem (f := result) member
      rw [(result_joint_eq_ok_iff tasks values).mp met, failed] at member
      simp at member

/-- The failure of the joint task is that of the task that fails first, and met
in its round. -/
theorem failsFirst_of_joint
    {tasks : List (Task ε α)} {error : ε}
    (failed : (joint tasks).result = .error error) :
    ∃ position task, FailsFirst tasks position task ∧
      task.result = .error error ∧
      task.round = (joint tasks).polls := by
  induction tasks generalizing error with
  | nil => cases failed
  | cons first rest ih =>
      rcases result_beside_eq_error failed with
        ⟨same, polls, before⟩ | ⟨same, polls, before⟩
      · refine ⟨0, first, ⟨rfl, ⟨error, same⟩, ?_⟩, same, polls.symm⟩
        rintro (_ | position') task' found fails
        · cases found
          exact le_refl _
        · -- Some task of the rest fails, so the joint task of the rest does, in
          -- its round at the latest.
          have member : task' ∈ rest := List.mem_of_getElem? found
          obtain ⟨error', failed'⟩ := fails_joint member fails
          obtain ⟨_, _, isFirst, _, round⟩ := ih failed'
          have later :=
            Prod.Lex.toLex_le_toLex.mp
              (isFirst.least position' task' found fails)
          have within : first.round ≤ task'.round :=
            calc
              first.round ≤ (joint rest).polls := before ⟨error', failed'⟩
              _ = _ := round.symm
              _ ≤ task'.round := later.elim Nat.le_of_lt fun equal => equal.1.le
          exact Prod.Lex.toLex_le_toLex.mpr
            (within.lt_or_eq.imp_right fun equal => ⟨equal, Nat.zero_le _⟩)
      · obtain ⟨position, task, isFirst, same, round⟩ := ih same
        refine ⟨position + 1, task, ⟨isFirst.found, isFirst.fails, ?_⟩, same,
          round.trans polls.symm⟩
        rintro (_ | position') task' found fails
        · cases found
          have earlier := before fails
          rw [← round] at earlier
          exact Prod.Lex.toLex_le_toLex.mpr (.inl earlier)
        · have later :=
            Prod.Lex.toLex_le_toLex.mp
              (isFirst.least position' task' found fails)
          refine Prod.Lex.toLex_le_toLex.mpr (later.imp_right ?_)
          exact fun equal => ⟨equal.1, Nat.succ_le_succ equal.2⟩

/-- A value that is there in front of the others moves the one that fails first
one place back. -/
theorem FailsFirst.cons_given
    {tasks : List (Task ε α)} {position : Nat} {task : Task ε α}
    (isFirst : FailsFirst tasks position task) (value : α) :
    FailsFirst (given value :: tasks) (position + 1) task := by
  refine ⟨isFirst.found, isFirst.fails, ?_⟩
  rintro (_ | position') task' found fails
  · cases found
    obtain ⟨error, failed⟩ := fails
    cases failed
  · have later :=
      Prod.Lex.toLex_le_toLex.mp (isFirst.least position' task' found fails)
    refine Prod.Lex.toLex_le_toLex.mpr (later.imp_right ?_)
    exact fun equal => ⟨equal.1, Nat.succ_le_succ equal.2⟩

/-- Nothing ends before a failure that is there from the start and in front of
everything else. -/
theorem failsFirst_head (error : ε) (tasks : List (Task ε α)) :
    FailsFirst (⟨0, .error error⟩ :: tasks) 0 ⟨0, .error error⟩ := by
  refine ⟨rfl, ⟨error, rfl⟩, ?_⟩
  intro position' task' _ _
  have earliest : 1 ≤ task'.round := Nat.le_max_left 1 task'.polls
  exact Prod.Lex.toLex_le_toLex.mpr (earliest.lt_or_eq.imp_right fun equal =>
    ⟨equal, Nat.zero_le _⟩)

end Task

namespace Completion

variable {σ ε α : Type}

/-- The join of completions, with the join of the driven part as a parameter. -/
def allWith
    (join : List (Completion σ (Except ε α)) → Completion σ (Except ε (List α)))
    (completions : List (Completion σ (Except ε α))) (state : σ) :
    Completion σ (Except ε (List α)) × σ :=
  match completions with
  | [] => (.ready (.ok []), state)
  | .ready (.ok value) :: rest =>
    let (joined, state) := allWith join rest state
    (joined.map (value :: ·), state)
  | .ready (.error error) :: rest =>
    (.ready (.error error), abandonAll rest state)
  | .pending advance release :: rest =>
    (join (.pending advance release :: rest), state)

/-- The driven part is joined by rounds. -/
theorem all_eq_allWith
    (completions : List (Completion σ (Except ε α))) (state : σ) :
    all completions state = allWith together completions state := by
  induction completions with
  | nil => rfl
  | cons first rest ih =>
      rcases first with (error | value) | ⟨advance, release⟩
      · rfl
      · rw [all, allWith, ih]
      · rfl

/-- The length up to which the driven part is known to be polled in rounds. -/
def roundsLimit : Nat := 30

/-- What is known of the join of the driven part.  It ends in no value or
failure before its first poll. -/
structure Joins
    (join : List (Completion σ (Except ε α)) →
      Completion σ (Except ε (List α))) : Prop where
  pending : ∀ advance release rest,
    (join (.pending advance release :: rest)).isReady = false
  rounds : ∀ completions, completions.length ≤ roundsLimit →
    join completions = together completions
  drives : ∀ completions, roundsLimit < completions.length →
    (∀ completion ∈ completions, ∃ task : Task ε α, task.RunBy completion) →
      (join completions).Drives completions

theorem joins_together : Joins (together (σ := σ) (ε := ε) (α := α)) where
  pending advance release rest := by
    obtain ⟨release', equal⟩ :=
      both_pending List.cons advance release (together rest)
    rw [together, equal]
    rfl
  rounds _ _ := rfl
  drives _ _ run := drives_together run

end Completion

namespace Task

variable {σ ε α : Type}

def failure? (task : Task ε α) : Option ε :=
  match task.result with
  | .error error => some error
  | .ok _ => none

/-- The failures that are there from the start with nothing pending in front of
them. -/
def leadingFailures (tasks : List (Task ε α)) : List ε :=
  (tasks.takeWhile isReady).filterMap failure?

/-- The tasks from the first pending one on. -/
def drivenPart (tasks : List (Task ε α)) : List (Task ε α) :=
  tasks.dropWhile isReady

/-- What a join of the tasks may end in. -/
structure Admits (tasks : List (Task ε α)) (result : Except ε (List α)) :
    Prop where
  values : ∀ values : List α, result = .ok values ↔
    tasks.map Task.result = values.map .ok
  failure : (drivenPart tasks).length ≤ Completion.roundsLimit →
    ∀ error, result = .error error →
    ∃ position task, FailsFirst tasks position task ∧ task.result = .error error

/-- How a join of completions that run the tasks behaves.  It ends in the same
way when the state is changed between its polls. -/
structure JoinedBy
    (tasks : List (Task ε α)) (joined : Completion σ (Except ε (List α))) :
    Prop where
  failed_at_once : ∀ error, (leadingFailures tasks).head? = some error →
    joined = .ready (.error error)
  values_at_once : ∀ values : List α, tasks = values.map given →
    joined = .ready (.ok values)
  pending : leadingFailures tasks = [] →
    (∀ values : List α, tasks ≠ values.map given) → joined.isReady = false
  ends : joined.Yields (Admits tasks)
  driven : ∀ state, ∃ result, (joined.drive state).1 = some result ∧
      Admits tasks result := ends.drive

theorem RunBy.of_ready
    {task : Task ε α} {result : Except ε α}
    (run : task.RunBy (.ready result : Completion σ _)) :
    task = ⟨0, result⟩ := by
  obtain ⟨_ | polls, result'⟩ := task
  · cases run
    rfl
  · exact absurd run id

theorem RunBy.allYield
    {tasks : List (Task ε α)} {completions : List (Completion σ (Except ε α))}
    (run : List.Forall₂ RunBy tasks completions) :
    Completion.AllYield (tasks.map result) completions :=
  List.forall₂_map_left_iff.mpr (run.imp fun _ _ runs => runs.yields)

theorem RunBy.exists_task
    {tasks : List (Task ε α)} {completions : List (Completion σ (Except ε α))}
    (run : List.Forall₂ RunBy tasks completions) :
    ∀ completion ∈ completions, ∃ task : Task ε α, task.RunBy completion := by
  induction run with
  | nil => exact fun completion member => nomatch member
  | cons first _ ih => exact List.forall_mem_cons.mpr ⟨⟨_, first⟩, ih⟩

section Cases

variable {tasks : List (Task ε α)} {joined : Completion σ (Except ε (List α))}

theorem joinedBy_nil :
    JoinedBy [] (.ready (.ok []) : Completion σ (Except ε (List α))) where
  failed_at_once _ failed := nomatch failed
  values_at_once values same := by
    cases values with
    | nil => rfl
    | cons value values => cases same
  pending _ others := absurd rfl (others [])
  ends :=
    ⟨fun values => by cases values <;> simp, fun _ _ failed => nomatch failed⟩

/-- A join that has failed at once runs tasks the first of which has failed. -/
theorem joinedBy_failed (error : ε) :
    JoinedBy (⟨0, .error error⟩ :: tasks)
      (.ready (.error error) : Completion σ (Except ε (List α))) where
  failed_at_once error' failed := by
    cases failed
    rfl
  values_at_once values same := by cases values <;> cases same
  pending others := nomatch others
  ends := by
    refine ⟨fun values => ?_, fun _ error' same => ?_⟩
    · cases values <;> simp
    · cases same
      exact ⟨0, _, failsFirst_head error tasks, rfl⟩

theorem Admits.cons_given
    {result : Except ε (List α)} (admits : Admits tasks result) (value : α) :
    Admits (given value :: tasks) (result.map (value :: ·)) where
  values values := by
    have same := admits.values
    cases result with
    | error error => cases values <;> simp_all [given, Except.map]
    | ok values' => cases values <;> simp_all [given, Except.map]
  failure short error failed := by
    cases result with
    | ok values => cases failed
    | error error' =>
        cases failed
        obtain ⟨position, task, isFirst, same⟩ := admits.failure short error rfl
        exact ⟨position + 1, task, isFirst.cons_given value, same⟩

/-- A value that is given in front is given in front of the joined ones. -/
theorem JoinedBy.cons_given (isJoined : JoinedBy tasks joined) (value : α) :
    JoinedBy (given value :: tasks) (joined.map (value :: ·)) where
  failed_at_once error failed := by
    rw [isJoined.failed_at_once error failed, Completion.map_ready]
    rfl
  values_at_once values same := by
    cases values with
    | nil => cases same
    | cons value' values =>
        cases same
        rw [isJoined.values_at_once values rfl, Completion.map_ready]
        rfl
  pending none others := by
    have pending := isJoined.pending none fun values same =>
      others (value :: values) (by rw [same]; rfl)
    cases joined with
    | ready result => cases pending
    | pending advance release => rfl
  ends := isJoined.ends.mapResult _ fun _ admits => admits.cons_given value

/-- The join of the driven part runs the tasks in it. -/
theorem joinedBy_join
    {join : List (Completion σ (Except ε α)) → Completion σ (Except ε (List α))}
    (joins : Completion.Joins join) {task : Task ε α}
    {advance : σ → Poll σ (Except ε α)} {release : σ → σ}
    {rest : List (Completion σ (Except ε α))}
    (first : task.RunBy (.pending advance release))
    (run : List.Forall₂ RunBy tasks rest) :
    JoinedBy (task :: tasks) (join (.pending advance release :: rest)) := by
  have unfinished : task.isReady = false := by
    obtain ⟨_ | polls, result⟩ := task
    · exact absurd first id
    · rfl
  have leading : leadingFailures (task :: tasks) = [] := by
    rw [leadingFailures,
      List.takeWhile_cons_of_neg (by rw [unfinished]; exact Bool.false_ne_true)]
    rfl
  have driven : drivenPart (task :: tasks) = task :: tasks :=
    List.dropWhile_cons_of_neg (by rw [unfinished]; exact Bool.false_ne_true)
  have all : List.Forall₂ RunBy (task :: tasks)
      (.pending advance release :: rest) := .cons first run
  have ends : (join (.pending advance release :: rest)).Yields
      (Admits (task :: tasks)) := by
    by_cases short : (Completion.pending advance release :: rest).length ≤
      Completion.roundsLimit
    · rw [joins.rounds _ short]
      refine (Completion.EndsAfter.yields (RunBy.together all)).mono fun result
        same => ?_
      subst same
      exact ⟨result_joint_eq_ok_iff _, fun _ error failed =>
        (failsFirst_of_joint failed).imp
        fun position => Exists.imp fun task isFirst => ⟨isFirst.1, isFirst.2.1⟩⟩
    · have drives :=
        joins.drives _ (Nat.lt_of_not_le short) (RunBy.exists_task all)
      refine (drives.yields (RunBy.allYield all)).mono fun result values =>
        ⟨values, fun short' => absurd ?_ short⟩
      rw [driven] at short'
      rwa [← all.length_eq]
  refine ⟨fun error failed => ?_, fun values same => ?_,
    fun _ _ => joins.pending advance release rest, ends, ends.drive⟩
  · rw [leading] at failed
    cases failed
  · cases values with
    | nil => cases same
    | cons value values =>
        cases same
        cases unfinished

end Cases

/-- Joining completions that share no state. -/
theorem joinedBy_allWith
    {join : List (Completion σ (Except ε α)) → Completion σ (Except ε (List α))}
    (joins : Completion.Joins join) {tasks : List (Task ε α)}
    {completions : List (Completion σ (Except ε α))}
    (run : List.Forall₂ RunBy tasks completions) (state : σ) :
    JoinedBy tasks (Completion.allWith join completions state).1 := by
  induction run generalizing state with
  | nil => exact joinedBy_nil
  | @cons task completion tasks rest first run ih =>
      rcases completion with (error | value) | ⟨advance, release⟩
      · rw [show task = ⟨0, .error error⟩ from first.of_ready]
        exact joinedBy_failed error
      · rw [show task = given value from first.of_ready]
        exact (ih state).cons_given value
      · exact joinedBy_join joins first run

/-- However many completions are joined that share no state, whatever each of
them ends in and after however many polls, their join is there at once when a
failure is and nothing in front of it is pending, and when all values are;
otherwise it is pending, and being driven it succeeds exactly when every one of
them does, with their values in their order.  A failure is that of the
completion that ends in the earliest round, and of these of the first one.  The
same holds for every join of the driven part that keeps the order and, up to the
length known for it, goes by rounds. -/
theorem all_joins_tasks
    {tasks : List (Task ε α)} {completions : List (Completion σ (Except ε α))}
    (run : List.Forall₂ RunBy tasks completions) (state : σ) :
    JoinedBy tasks (Completion.all completions state).1 ∧
      ∀ join, Completion.Joins join →
        JoinedBy tasks (Completion.allWith join completions state).1 := by
  refine ⟨?_, fun join joins => joinedBy_allWith joins run state⟩
  rw [Completion.all_eq_allWith]
  exact joinedBy_allWith Completion.joins_together run state

/-- The second of three failures is met in the earliest round, and before the
third one. -/
theorem earlier_round_fails_first :
    let tasks : List (Task String Nat) :=
      [given 1, ⟨3, .error "late"⟩, ⟨2, .error "early"⟩, given 4,
        ⟨2, .error "behind"⟩]
    let completions : List (Completion Nat (Except String Nat)) :=
      [.ready (.ok 1), .after 2 id (.error "late"),
        .after 1 (· + 1) (.error "early"), .ready (.ok 4),
        .after 1 id (.error "behind")]
    List.Forall₂ RunBy tasks completions ∧
      JoinedBy tasks (Completion.all completions 0).1 ∧
      ((Completion.all completions 0).1.drive 0).1 = some (.error "early") := by
  intro tasks completions
  have run : List.Forall₂ RunBy tasks completions :=
    .cons rfl
      (.cons (Completion.endsAfter_after 2 _ _)
        (.cons (Completion.endsAfter_after 1 _ _)
      (.cons rfl (.cons (Completion.endsAfter_after 1 _ _) .nil))))
  exact ⟨run, (all_joins_tasks run 0).1, rfl⟩

end Task

end Phrasebook
