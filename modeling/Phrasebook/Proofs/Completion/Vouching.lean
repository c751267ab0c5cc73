import Mathlib.Data.List.Forall2
import Mathlib.Tactic.SplitIfs
import Phrasebook.Proofs.Completion.Round

/-!
# Successes that carry over

One completion *leads* another one when, polled at one and the same state, they
find the same: both wait, or both make a step to one state, from which the one
leads the other again, or both end in results that agree.  Only where the first
one ends in a lost result the second one may do anything else.

With failures as the lost results, the first completion *vouches* for the second
one: driven from the same state, the first one fails, or both end in the same
way and in the same state.  This passes through every operation on completions,
joins included, because a failure is never taken back: neither by a chain, nor
by the round of a join in which it is met.  What two completions release when
they are abandoned does not matter, for only a failure abandons anything.
-/

namespace Phrasebook

namespace Completion

variable {σ τ κ ρ ω ε α β γ : Type}

/-- Two polls have found the same, unless the first one has found a lost
result. -/
inductive PollLeads
    (lost : ρ → Prop) (nexts : Completion σ ρ → Completion σ ρ → Prop) :
    Poll σ ρ → Poll σ ρ → Prop
  | lost {result : ρ} {after : σ} {poll' : Poll σ ρ} (gone : lost result) :
      PollLeads lost nexts (.advanced (.ready result) after) poll'
  | blocked : PollLeads lost nexts .blocked .blocked
  | advanced {next next' : Completion σ ρ} {after : σ}
      (leads : nexts next next') :
      PollLeads lost nexts (.advanced next after) (.advanced next' after)

/-- Two completions take the same course to results that agree, unless the
result of the first one is lost. -/
inductive Leads (lost : ρ → Prop) (agree : ρ → ρ → Prop) :
    Completion σ ρ → Completion σ ρ → Prop
  | ready {result result' : ρ} (same : agree result result') :
      Leads lost agree (.ready result) (.ready result')
  | pending {advance advance' : σ → Poll σ ρ} {release release' : σ → σ}
      (polls : ∀ state,
        PollLeads lost (Leads lost agree) (advance state) (advance' state)) :
      Leads lost agree (.pending advance release) (.pending advance' release')

/-- Induction on the steps that two completions make together. -/
@[elab_as_elim]
theorem Leads.ind
    {lost : ρ → Prop} {agree : ρ → ρ → Prop}
    {motive : ∀ completion completion' : Completion σ ρ,
      Leads lost agree completion completion' → Prop}
    (ready : ∀ result result' (same : agree result result'),
      motive _ _ (.ready same))
    (pending :
      ∀ (advance advance' : σ → Poll σ ρ) (release release' : σ → σ),
        (∀ state,
          PollLeads lost (fun next next' => ∃ leads, motive next next' leads)
            (advance state) (advance' state)) →
          ∀ leads,
            motive (.pending advance release)
              (.pending advance' release') leads)
    {completion completion' : Completion σ ρ}
    (leads : Leads lost agree completion completion') :
    motive completion completion' leads := by
  induction completion using Completion.ind generalizing completion' with
  | ready result =>
      cases leads with
      | ready same => exact ready _ _ same
  | pending advance release ih =>
      cases leads with
      | @pending _ advance' _ release' polls =>
          refine pending _ _ _ _ (fun state => ?_) _
          have found := polls state
          cases polled : advance state with
          | blocked =>
              rw [polled] at found
              revert found
              generalize advance' state = poll'
              rintro ⟨⟩
              exact .blocked
          | advanced next after =>
              have further := @ih state next after polled
              rw [polled] at found
              revert found
              generalize advance' state = poll'
              rintro (gone | _ | leads)
              · exact .lost gone
              · exact .advanced ⟨leads, further leads⟩

section Results

variable {lost : ρ → Prop} {agree : ρ → ρ → Prop}
  {completion completion' : Completion σ ρ}

theorem Leads.mapResult
    {lost' : ω → Prop} {agree' : ω → ω → Prop} {f : ρ → ω}
    (loses : ∀ result, lost result → lost' (f result))
    (maps : ∀ result result', agree result result' →
      agree' (f result) (f result'))
    (leads : Leads lost agree completion completion') :
    Leads lost' agree' (completion.mapResult f) (completion'.mapResult f) := by
  induction leads using Leads.ind with
  | ready result result' same =>
      rw [Completion.mapResult, Completion.mapResult]
      exact .ready (maps _ _ same)
  | pending advance advance' release release' polls _ =>
      rw [Completion.mapResult, Completion.mapResult]
      refine .pending fun state => ?_
      have found := polls state
      revert found
      generalize advance state = poll, advance' state = poll'
      rintro (gone | _ | ⟨-, mapped⟩)
      · rw [mapPoll, Completion.mapResult]
        exact .lost (loses _ gone)
      · exact .blocked
      · exact .advanced mapped

theorem Leads.within
    {part : τ → σ} {update : σ → τ → τ}
    (leads : Leads lost agree completion completion') :
    Leads lost agree (completion.within part update)
      (completion'.within part update) := by
  induction leads using Leads.ind with
  | ready result result' same =>
      rw [Completion.within, Completion.within]
      exact .ready same
  | pending advance advance' release release' polls _ =>
      rw [Completion.within, Completion.within]
      refine .pending fun whole => ?_
      have found := polls (part whole)
      revert found
      generalize advance (part whole) = poll, advance' (part whole) = poll'
      rintro (gone | _ | ⟨-, inside⟩)
      · rw [withinPoll, Completion.within]
        exact .lost gone
      · exact .blocked
      · exact .advanced inside

theorem Leads.enclosed
    {completion completion' : Completion (κ × σ) ρ}
    (leads : Leads lost agree completion completion') (inner : κ) :
    Leads (fun outcome => lost outcome.1)
      (fun outcome outcome' => agree outcome.1 outcome'.1 ∧
        outcome.2 = outcome'.2)
      (completion.enclosed inner) (completion'.enclosed inner) := by
  induction leads using Leads.ind generalizing inner with
  | ready result result' same =>
      rw [Completion.enclosed, Completion.enclosed]
      exact .ready ⟨same, rfl⟩
  | pending advance advance' release release' polls _ =>
      rw [Completion.enclosed, Completion.enclosed]
      refine .pending fun state => ?_
      have found := polls (inner, state)
      revert found
      generalize advance (inner, state) = poll, advance' (inner, state) = poll'
      rintro (gone | _ | ⟨-, inside⟩)
      · rw [enclosedPoll, Completion.enclosed]
        exact .lost gone
      · exact .blocked
      · exact .advanced (inside _)

end Results

/-- A result that is a failure. -/
def Failed (result : Except ε α) : Prop :=
  ∃ error, result = .error error

/-- Two evaluations take the same course, unless the first one fails. -/
abbrev Vouches (completion completion' : Completion σ (Except ε α)) : Prop :=
  Leads Failed Eq completion completion'

/-- Two polls of evaluations have found the same, unless the first one has found
a failure. -/
abbrev PollVouches (poll poll' : Poll σ (Except ε α)) : Prop :=
  PollLeads Failed Vouches poll poll'

/-- Two computations have led to one state and to evaluations that take the same
course, unless the first one is doomed. -/
def StartVouches (started started' : Completion σ (Except ε α) × σ) : Prop :=
  started.1.Doomed ∨ started.2 = started'.2 ∧ Vouches started.1 started'.1

section Starts

variable {completion completion' : Completion σ (Except ε α)}
  {started started' : Completion σ (Except ε α) × σ}

/-- A failure vouches for anything. -/
theorem pollVouches_error
    {error : ε} {after : σ} {poll' : Poll σ (Except ε α)} :
    PollVouches (.advanced (.ready (.error error)) after) poll' :=
  .lost ⟨error, rfl⟩

theorem startVouches_ready (result : Except ε α) (state : σ) :
    StartVouches (.ready result, state) (.ready result, state) :=
  .inr ⟨rfl, .ready rfl⟩

theorem Vouches.reach (vouches : Vouches completion completion') (state : σ) :
    PollVouches (completion.reach state) (completion'.reach state) := by
  cases vouches with
  | ready same => exact .advanced (.ready same)
  | @pending advance advance' release release' polls =>
      have found := polls state
      rw [Completion.reach, Completion.reach, Completion.poll, Completion.poll]
      revert found
      generalize advance state = poll, advance' state = poll'
      rintro (gone | _ | leads)
      · exact .lost gone
      · exact .advanced (.pending polls)
      · exact .advanced leads

/-- A failure that waits to be met is met by the next poll. -/
theorem Doomed.reach
    (doomed : completion.Doomed) (state : σ) (poll' : Poll σ (Except ε α)) :
    PollVouches (completion.reach state) poll' := by
  rcases doomed state with ⟨error, failed⟩
  change PollVouches
    (.advanced (completion.poll state).1 (completion.poll state).2) poll'
  rw [failure?_eq_some.mp failed]
  exact pollVouches_error

/-- Starts that vouch still do so when they reach on. -/
theorem StartVouches.reach (vouches : StartVouches started started') :
    PollVouches (started.1.reach started.2) (started'.1.reach started'.2) := by
  rcases vouches with doomed | ⟨same, vouches⟩
  · exact doomed.reach started.2 _
  · rw [same]
    exact vouches.reach started'.2

theorem PollLeads.start
    {state state' : σ}
    (vouches :
      PollVouches (.advanced completion state) (.advanced completion' state')) :
    StartVouches (completion, state) (completion', state') := by
  cases vouches with
  | lost gone =>
      rcases gone with ⟨error, rfl⟩
      exact .inl (doomed_error error)
  | advanced vouches => exact .inr ⟨rfl, vouches⟩

theorem Doomed.within
    (part : τ → σ) (update : σ → τ → τ) (doomed : completion.Doomed) :
    (completion.within part update).Doomed := by
  match completion with
  | .ready (.error error) =>
      rw [Completion.within]
      exact doomed_error error
  | .ready (.ok value) => exact fun whole =>
      (doomed.ne_ok (part whole) rfl).elim
  | .pending advance release =>
      rw [doomed_pending] at doomed
      rw [Completion.within, doomed_pending]
      intro whole
      rcases doomed (part whole) with ⟨error, after, reached⟩
      exact ⟨error,
        update after whole, by rw [reached, withinPoll, Completion.within]⟩

theorem StartVouches.within
    {part : τ → σ} {update : σ → τ → τ}
    (vouches : StartVouches started started') (whole : τ) :
    StartVouches (started.1.within part update, update started.2 whole)
      (started'.1.within part update, update started'.2 whole) := by
  rcases vouches with doomed | ⟨same, vouches⟩
  · exact .inl (doomed.within part update)
  · rw [same]
    exact .inr ⟨rfl, Leads.within vouches⟩

theorem Vouches.map (f : α → β) (vouches : Vouches completion completion') :
    Vouches (completion.map f) (completion'.map f) := by
  refine Leads.mapResult ?_ ?_ vouches
  · rintro _ ⟨error, rfl⟩
    exact ⟨error, rfl⟩
  · rintro result _ rfl
    rfl

theorem StartVouches.map (f : α → β) (vouches : StartVouches started started') :
    StartVouches (started.1.map f, started.2) (started'.1.map f, started'.2) :=
  vouches.imp (fun doomed => doomed.map f) fun ⟨same, vouches⟩ =>
    ⟨same, vouches.map f⟩

theorem Vouches.ending
    (onEnd : Except ε α → σ → σ) (onRelease onRelease' : σ → σ)
    (vouches : Vouches completion completion') (state : σ) :
    PollVouches
      (.advanced (completion.ending onEnd onRelease state).1
        (completion.ending onEnd onRelease state).2)
      (.advanced (completion'.ending onEnd onRelease' state).1
        (completion'.ending onEnd onRelease' state).2) := by
  induction vouches using Leads.ind generalizing state with
  | ready result result' same =>
      cases same
      rw [ending_ready, ending_ready]
      exact .advanced (.ready rfl)
  | pending advance advance' release release' polls _ =>
      rw [Completion.ending, Completion.ending]
      refine .advanced (.pending fun state => ?_)
      have found := polls state
      revert found
      generalize advance state = poll, advance' state = poll'
      rintro (⟨error, rfl⟩ | _ | ⟨-, ended⟩)
      · rw [endingPoll, ending_ready]
        exact pollVouches_error
      · exact .blocked
      · exact ended _

/-- Effects at the end of what a poll has reached. -/
theorem PollLeads.ending
    {state state' : σ} (onEnd : Except ε α → σ → σ)
    (onRelease onRelease' : σ → σ)
    (vouches :
      PollVouches (.advanced completion state) (.advanced completion' state')) :
    PollVouches
      (.advanced (completion.ending onEnd onRelease state).1
        (completion.ending onEnd onRelease state).2)
      (.advanced (completion'.ending onEnd onRelease' state').1
        (completion'.ending onEnd onRelease' state').2) := by
  cases vouches with
  | lost gone =>
      rcases gone with ⟨error, rfl⟩
      rw [ending_ready]
      exact pollVouches_error
  | advanced vouches =>
      exact Vouches.ending onEnd onRelease onRelease' vouches state

section Chains

variable {next next' : α → σ → Completion σ (Except ε β) × σ}
  (continues : ∀ value state,
    StartVouches (next value state) (next' value state))

include continues

theorem Vouches.resume (vouches : Vouches completion completion') (state : σ) :
    PollVouches
      (.advanced (completion.resume next state).1
        (completion.resume next state).2)
      (.advanced (completion'.resume next' state).1
        (completion'.resume next' state).2) := by
  induction vouches using Leads.ind generalizing state with
  | ready result result' same =>
      cases same
      cases result with
      | error error =>
          rw [Completion.resume]
          exact pollVouches_error
      | ok value =>
          rw [Completion.resume, Completion.resume]
          exact (continues value state).reach
  | pending advance advance' release release' polls _ =>
      rw [Completion.resume, Completion.resume]
      refine .advanced (.pending fun state => ?_)
      have found := polls state
      revert found
      generalize advance state = poll, advance' state = poll'
      rintro (⟨error, rfl⟩ | _ | ⟨-, resumed⟩)
      · rw [resumePoll, Completion.resume]
        exact pollVouches_error
      · exact .blocked
      · exact resumed _

theorem StartVouches.andThen (vouches : StartVouches started started') :
    StartVouches (started.1.andThen next started.2)
      (started'.1.andThen next' started'.2) := by
  rcases vouches with doomed | ⟨same, vouches⟩
  · exact .inl (doomed.andThen started.2)
  · rcases started with ⟨completion, state⟩
    rcases started' with ⟨completion', _⟩
    obtain rfl : state = _ := same
    have resumed := (Vouches.resume continues vouches state).start
    cases vouches with
    | @ready result _ same =>
        cases same
        cases result with
        | error _ => exact resumed
        | ok value => exact continues value state
    | pending _ => exact resumed

end Chains

theorem Vouches.drive (vouches : Vouches completion completion') (state : σ) :
    (∃ error after, completion.drive state = (some (.error error), after)) ∨
      completion.drive state = completion'.drive state := by
  induction vouches using Leads.ind generalizing state with
  | ready result result' same =>
      cases same
      exact .inr rfl
  | pending advance advance' release release' polls _ =>
      rw [drive_pending, drive_pending]
      have found := polls state
      revert found
      generalize advance state = poll, advance' state = poll'
      rintro (⟨error, rfl⟩ | _ | ⟨-, driven⟩)
      · exact .inl ⟨error, _, by rw [drivePoll_advanced, drive_ready]⟩
      · exact .inr rfl
      · rw [drivePoll_advanced, drivePoll_advanced]
        exact driven _

/-- Of two computations the first one of which vouches for the second one, the
first one fails, or both end in the same way. -/
theorem StartVouches.driven (vouches : StartVouches started started') :
    (∃ error after, driven started = (some (.error error), after)) ∨
      driven started = driven started' := by
  rcases vouches with doomed | ⟨same, vouches⟩
  · exact .inl (doomed.drive started.2)
  · rw [Completion.driven, Completion.driven, ← same]
    exact vouches.drive started.2

end Starts

section Joins

variable {completion completion' : Completion σ (Except ε α)} {state : σ}

theorem Vouches.failure? (vouches : Vouches completion completion') :
    completion.failure? = completion'.failure? := by
  cases vouches with
  | ready same => rw [same]
  | pending _ => rfl

/-- A poll that does not find a failure finds the same for both. -/
theorem Vouches.poll
    (vouches : Vouches completion completion')
    (met : (completion.poll state).1.failure? = none) :
    (completion.poll state).2 = (completion'.poll state).2 ∧
      Vouches (completion.poll state).1 (completion'.poll state).1 ∧
        completion.rests state = completion'.rests state := by
  cases vouches with
  | ready same =>
      cases same
      exact ⟨rfl, .ready rfl, rfl⟩
  | @pending advance advance' release release' polls =>
      have found := polls state
      revert found met
      rw [Completion.poll, Completion.poll, rests, rests]
      generalize advance state = poll, advance' state = poll'
      rintro met (⟨error, rfl⟩ | _ | leads)
      · cases met
      · exact ⟨rfl, .pending polls, rfl⟩
      · exact ⟨rfl, leads, rfl⟩

/-- Two completions that are driven together vouch when both of them do. -/
theorem Vouches.both
    {first first' : Completion σ (Except ε α)}
    {second second' : Completion σ (Except ε β)} (combine : α → β → γ)
    (vouches : Vouches first first') (others : Vouches second second') :
    Vouches (Completion.both combine first second)
      (Completion.both combine first' second') := by
  induction first, second using ind_rounds generalizing first' second' with
  | ready result second =>
      cases vouches with
      | ready same =>
          cases same
          cases result with
          | error error =>
              rw [Completion.both]
              unfold failing
              exact .pending fun state => pollVouches_error
          | ok value =>
              rw [Completion.both]
              exact others.map (combine value)
  | pending advance release second ih =>
      cases vouches with
      | @pending _ advance' _ release' polls =>
          have vouches :
              Vouches (.pending advance release) (.pending advance' release') :=
            .pending polls
          rcases both_pending combine advance release second with
            ⟨released, rounds⟩
          rcases both_pending combine advance' release' second' with
            ⟨released', rounds'⟩
          rw [rounds, rounds']
          refine .pending fun state => ?_
          cases met :
              ((Completion.pending advance release).poll state).1.failure? with
          | some error =>
              rw [round_of_first_failed met]
              exact pollVouches_error
          | none =>
              rcases vouches.poll met with ⟨same, polled, rests⟩
              cases met' :
                  (second.poll
                      ((Completion.pending advance release).poll
                          state).2).1.failure? with
              | some error =>
                  rw [round_of_second_failed met met']
                  exact pollVouches_error
              | none =>
                  rcases others.poll met' with ⟨same', polled', rests'⟩
                  have unmet := polled.failure?.symm.trans met
                  have unmet' := polled'.failure?.symm.trans met'
                  rw [same] at unmet' rests'
                  rw [round_of_none_failed met met',
                    round_of_none_failed unmet unmet', ← rests, ← rests',
                    ← same, ← same']
                  split_ifs with rest
                  · exact .blocked
                  · rw [Bool.not_eq_true] at rest
                    exact .advanced (ih state met' rest polled polled')

section Lists

variable {completions completions' : List (Completion σ (Except ε α))}

theorem vouches_together
    (vouches : List.Forall₂ Vouches completions completions') :
    Vouches (together completions) (together completions') := by
  induction vouches with
  | nil => exact .ready rfl
  | cons first _ ih => exact first.both List.cons ih

/-- A join of evaluations, each of which vouches for the one in its place. -/
theorem startVouches_all
    (vouches : List.Forall₂ Vouches completions completions') (state : σ) :
    StartVouches (all completions state) (all completions' state) := by
  induction vouches with
  | nil => exact startVouches_ready _ state
  | @cons first first' rest rest' vouches others ih =>
      have joined := vouches_together (.cons vouches others)
      cases vouches with
      | @ready result _ same =>
          cases same
          cases result with
          | error error =>
              rw [all]
              exact .inl (doomed_error error)
          | ok value =>
              rw [all, all]
              exact ih.map (value :: ·)
      | pending _ =>
          rw [all, all]
          exact .inr ⟨rfl, joined⟩

/-- Computations that were started one after the other: one of the first ones is
doomed, or each of them vouches for the one in its place. -/
def StartAllVouch
    (started started' : List (Completion σ (Except ε α)) × σ) : Prop :=
  (∃ completion ∈ started.1, completion.Doomed) ∨
    started.2 = started'.2 ∧ List.Forall₂ Vouches started.1 started'.1

variable {started started' : List (Completion σ (Except ε α)) × σ}

/-- A join vouches for another one when each element does. -/
theorem StartAllVouch.all (vouch : StartAllVouch started started') :
    StartVouches (Completion.all started.1 started.2)
      (Completion.all started'.1 started'.2) := by
  rcases vouch with ⟨completion, member, doomed⟩ | ⟨same, vouches⟩
  · exact .inl (doomed_all doomed member started.2)
  · rw [same]
    exact startVouches_all vouches started'.2

/-- What is started after a doomed computation does not matter. -/
theorem StartVouches.cons
    {first first' : Completion σ (Except ε α) × σ}
    {rest rest' : σ → List (Completion σ (Except ε α)) × σ}
    (vouches : StartVouches first first')
    (later : ∀ state, StartAllVouch (rest state) (rest' state)) :
    StartAllVouch (first.1 :: (rest first.2).1, (rest first.2).2)
      (first'.1 :: (rest' first'.2).1, (rest' first'.2).2) := by
  rcases vouches with doomed | ⟨same, vouches⟩
  · exact .inl ⟨first.1, List.mem_cons_self, doomed⟩
  · rw [same]
    rcases later first'.2 with ⟨completion, member, doomed⟩ | ⟨same, others⟩
    · exact .inl ⟨completion, List.mem_cons_of_mem _ member, doomed⟩
    · exact .inr ⟨same, .cons vouches others⟩

end Lists

end Joins

end Completion

end Phrasebook
