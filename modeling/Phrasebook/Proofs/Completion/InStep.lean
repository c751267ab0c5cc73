import Mathlib.Data.List.Forall2
import Mathlib.Data.Option.Basic
import Phrasebook.Proofs.Completion.Conduct
import Phrasebook.Proofs.Completion.Round

/-!
# Completions in step

Two completions are in step when, from related states, each poll of the one
finds what the poll of the other finds: both wait, or both make a step to
related states and to completions that are in step again; and when the results
that they end in are related.

What is in step stays so under every operation on completions, joins included.
Driving two completions in step from related states leads to related results and
states.
-/

namespace Phrasebook

namespace Completion

variable {σ σ' τ κ κ' ρ ρ' ω ω' ε ε' α α' β β' γ γ' : Type}

/-- Two polls have found the same: both wait, or both made a step. -/
inductive PollsAgree
    (states : σ → σ → Prop) (nexts : Completion σ ρ → Completion σ ρ' → Prop) :
    Poll σ ρ → Poll σ ρ' → Prop
  | blocked : PollsAgree states nexts .blocked .blocked
  | advanced {next : Completion σ ρ} {next' : Completion σ ρ'}
      {after after' : σ}
      (moved : states after after') (agree : nexts next next') :
      PollsAgree states nexts (.advanced next after) (.advanced next' after')

/-- Two completions that run in step from related states to related results. -/
inductive InStep (states : σ → σ → Prop) (results : ρ → ρ' → Prop) :
    Completion σ ρ → Completion σ ρ' → Prop
  | ready {result : ρ} {result' : ρ'} (agree : results result result') :
      InStep states results (.ready result) (.ready result')
  | pending {advance : σ → Poll σ ρ} {advance' : σ →
      Poll σ ρ'} {release release' : σ → σ}
      (polls :
        ∀ state state', states state state' →
          PollsAgree states (InStep states results) (advance state)
            (advance' state'))
      (releases : ∀ state state', states state state' →
        states (release state) (release' state')) :
      InStep states results (.pending advance release)
        (.pending advance' release')

/-- Two computations have led to related states and to completions in step. -/
structure StartInStep
    (states : σ → σ → Prop) (results : ρ → ρ' → Prop)
    (started : Completion σ ρ × σ)
    (started' : Completion σ ρ' × σ) : Prop where
  completions : InStep states results started.1 started'.1
  states : states started.2 started'.2

/-- Two failures that are related, or two successes with related values. -/
inductive ResultsAgree (failures : ε → ε' → Prop) (values : α → α' → Prop) :
    Except ε α → Except ε' α' → Prop
  | error {error : ε} {error' : ε'} (agree : failures error error') :
      ResultsAgree failures values (.error error) (.error error')
  | ok {value : α} {value' : α'} (agree : values value value') :
      ResultsAgree failures values (.ok value) (.ok value')

/-- Results that agree up to failures are the same successes. -/
theorem ResultsAgree.eq_ok_iff
    {failures : ε → ε' → Prop} {result : Except ε α} {result' : Except ε' α}
    (agree : ResultsAgree failures Eq result result') (value : α) :
    result = .ok value ↔ result' = .ok value := by
  rcases agree with _ | rfl
  · exact iff_of_false nofun nofun
  · rw [Except.ok.injEq, Except.ok.injEq]

theorem PollsAgree.mono
    {states : σ → σ → Prop}
    {nexts nexts' : Completion σ ρ → Completion σ ρ' → Prop}
    {poll : Poll σ ρ} {poll' : Poll σ ρ'}
    (weaker : ∀ next next', nexts next next' → nexts' next next')
    (agree : PollsAgree states nexts poll poll') :
    PollsAgree states nexts' poll poll' := by
  cases agree with
  | blocked => exact .blocked
  | advanced moved agree => exact .advanced moved (weaker _ _ agree)

/-- Induction on the steps that two completions make together. -/
@[elab_as_elim]
theorem InStep.ind
    {states : σ → σ → Prop} {results : ρ → ρ' → Prop}
    {motive :
      ∀ (completion : Completion σ ρ) (completion' : Completion σ ρ'),
        InStep states results completion completion' → Prop}
    (ready : ∀ result result' (agree : results result result'),
      motive _ _ (.ready agree))
    (pending :
      ∀ (advance : σ → Poll σ ρ) (advance' : σ → Poll σ ρ')
        (release release' : σ → σ),
        (∀ state state', states state state' →
          PollsAgree states (fun next next' => ∃ inStep,
            motive next next' inStep)
            (advance state) (advance' state')) →
        (∀ state state', states state state' →
          states (release state) (release' state')) →
          ∀ inStep,
            motive (.pending advance release)
              (.pending advance' release') inStep)
    {completion : Completion σ ρ} {completion' : Completion σ ρ'}
    (inStep : InStep states results completion completion') :
    motive completion completion' inStep := by
  induction completion using Completion.ind generalizing completion' with
  | ready result =>
      cases inStep with
      | ready agree => exact ready _ _ agree
  | pending advance release ih =>
      cases inStep with
      | @pending _ advance' _ release' polls releases =>
          refine pending _ _ _ _ (fun state state' related => ?_) releases _
          have agree := polls state state' related
          cases poll : advance state with
          | blocked =>
              rw [poll] at agree
              cases poll' : advance' state' with
              | blocked => exact .blocked
              | advanced _ _ =>
                  rw [poll'] at agree
                  cases agree
          | advanced next after =>
              rw [poll] at agree
              cases poll' : advance' state' with
              | blocked =>
                  rw [poll'] at agree
                  cases agree
              | advanced next' after' =>
                  rw [poll'] at agree
                  cases agree with
                  | advanced moved agree =>
                      exact .advanced moved ⟨agree,
                        ih state next after poll agree⟩

variable {states : σ → σ → Prop} {results : ρ → ρ' → Prop}
  {results' : ω → ω' → Prop}
  {completion : Completion σ ρ} {completion' : Completion σ ρ'}
  {state state' : σ}

/-- A completion runs in step with itself from one and the same state. -/
theorem InStep.refl
    {results : ρ → ρ → Prop} (same : ∀ result, results result result)
    (completion : Completion σ ρ) :
    InStep Eq results completion completion := by
  induction completion using Completion.ind with
  | ready result => exact .ready (same result)
  | pending advance release ih =>
      constructor
      · rintro state _ rfl
        cases poll : advance state with
        | blocked => exact .blocked
        | advanced next after => exact .advanced rfl (ih state next after poll)
      · rintro state _ rfl
        rfl

/-- What runs in step with close results runs in step with less close ones. -/
theorem InStep.mono
    {weaker : ρ → ρ' → Prop}
    (implies : ∀ result result', results result result' → weaker result result')
    (inStep : InStep states results completion completion') :
    InStep states weaker completion completion' := by
  induction inStep using InStep.ind with
  | ready result result' agree => exact .ready (implies _ _ agree)
  | pending advance advance' release release' polls releases _ =>
      refine .pending (fun state state' related => ?_) releases
      apply (polls state state' related).mono
      rintro next next' ⟨-, weakened⟩
      exact weakened

/-- Completions in step are in step after a poll. -/
theorem InStep.poll
    (inStep : InStep states results completion completion')
    (related : states state state') :
    StartInStep states results (completion.poll state)
      (completion'.poll state') := by
  cases inStep with
  | ready agree => exact ⟨.ready agree, related⟩
  | @pending advance advance' release release' polls releases =>
      have agree := polls state state' related
      rw [Completion.poll, Completion.poll]
      revert agree
      cases advance state <;> cases advance' state'
      all_goals intro agree
      · exact ⟨.pending polls releases, related⟩
      · cases agree
      · cases agree
      · cases agree with
        | advanced moved agree => exact ⟨agree, moved⟩

theorem InStep.reach
    (inStep : InStep states results completion completion')
    (related : states state state') :
    PollsAgree states (InStep states results) (completion.reach state)
      (completion'.reach state') := by
  have polled := inStep.poll related
  exact .advanced polled.states polled.completions

theorem InStep.abandon
    (inStep : InStep states results completion completion')
    (related : states state state') :
    states (completion.abandon state) (completion'.abandon state') := by
  cases inStep with
  | ready _ => exact related
  | pending _ releases => exact releases _ _ related

theorem inStep_deferred
    {start : σ → Completion σ ρ × σ} {start' : σ → Completion σ ρ' × σ}
    (starts :
      ∀ state state', states state state' →
        StartInStep states results (start state) (start' state')) :
    InStep states results (deferred start) (deferred start') := by
  refine .pending (fun state state' related => ?_) (fun _ _ related => related)
  have started := starts state state' related
  exact started.completions.reach started.states

/-- Mapped results agree when the results do and the maps preserve this. -/
theorem InStep.mapResult
    {f : ρ → ω} {f' : ρ' → ω'}
    (maps : ∀ result result', results result result' →
      results' (f result) (f' result'))
    (inStep : InStep states results completion completion') :
    InStep states results' (completion.mapResult f)
      (completion'.mapResult f') := by
  induction inStep using InStep.ind with
  | ready result result' agree =>
      rw [Completion.mapResult, Completion.mapResult]
      exact .ready (maps _ _ agree)
  | pending advance advance' release release' polls releases _ =>
      rw [Completion.mapResult, Completion.mapResult]
      refine .pending (fun state state' related => ?_) releases
      have agree := polls state state' related
      revert agree
      generalize advance state = poll, advance' state' = poll'
      rintro (_ | ⟨moved, -, mapped⟩)
      · exact .blocked
      · exact .advanced moved mapped

/-- Related effects at the end, or when they are abandoned, keep completions in
step. -/
theorem InStep.ending
    {onEnd : ρ → σ → σ} {onEnd' : ρ' → σ → σ} {onRelease onRelease' : σ → σ}
    (ends :
      ∀ result result', results result result' → ∀ state state',
        states state state' →
        states (onEnd result state) (onEnd' result' state'))
    (leaves : ∀ state state', states state state' →
      states (onRelease state) (onRelease' state'))
    (inStep : InStep states results completion completion')
    (related : states state state') :
    StartInStep states results
      (completion.ending onEnd onRelease state)
      (completion'.ending onEnd' onRelease' state') := by
  induction inStep using InStep.ind generalizing state state' with
  | ready result result' agree =>
      rw [Completion.ending, Completion.ending]
      exact ⟨.ready agree, ends _ _ agree _ _ related⟩
  | pending advance advance' release release' polls releases _ =>
      rw [Completion.ending, Completion.ending]
      refine ⟨.pending (fun state state' related => ?_)
        (fun state state' related => ?_), related⟩
      · have agree := polls state state' related
        revert agree
        generalize advance state = poll, advance' state' = poll'
        rintro (_ | ⟨moved, -, ended⟩)
        · exact .blocked
        · have later := ended moved
          exact .advanced later.states later.completions
      · apply leaves
        exact releases _ _ related

/-- The parts of related wholes are related, and wholes with related parts put
into them are. -/
structure PartsAgree (part : τ → σ) (update : σ → τ → τ) (wholes : τ → τ → Prop)
    (states : σ → σ → Prop) :
    Prop where
  parts : ∀ whole whole', wholes whole whole' →
    states (part whole) (part whole')
  updates :
    ∀ state state' whole whole', states state state' → wholes whole whole' →
      wholes (update state whole) (update state' whole')

/-- Completions on a part of the state are in step on the whole when they are on
the part. -/
theorem InStep.within
    {part : τ → σ} {update : σ → τ → τ} {wholes : τ → τ → Prop}
    (agree : PartsAgree part update wholes states)
    (inStep : InStep states results completion completion') :
    InStep wholes results (completion.within part update)
      (completion'.within part update) := by
  induction inStep using InStep.ind with
  | ready result result' agree =>
      rw [Completion.within, Completion.within]
      exact .ready agree
  | pending advance advance' release release' polls releases _ =>
      rw [Completion.within, Completion.within]
      refine .pending (fun whole whole' related => ?_)
        (fun whole whole' related => ?_)
      · have agree' := polls _ _ (agree.parts whole whole' related)
        revert agree'
        generalize advance (part whole) = poll, advance' (part whole') = poll'
        rintro (_ | ⟨moved, -, inside⟩)
        · exact .blocked
        · exact .advanced (agree.updates _ _ _ _ moved related) inside
      · exact agree.updates _ _ _ _
          (releases _ _ (agree.parts _ _ related)) related

/-- Private parts and states that are related, each as such. -/
def BothAgree
    (privates : κ → κ' → Prop) (states : σ → σ' → Prop) (whole : κ × σ)
    (whole' : κ' × σ') : Prop :=
  privates whole.1 whole'.1 ∧ states whole.2 whole'.2

/-- Completions in step are so when a private part of each is kept out of
sight. -/
theorem InStep.enclosed
    {privates : κ → κ → Prop} {completion : Completion (κ × σ) ρ}
    {completion' : Completion (κ × σ) ρ'} {inner inner' : κ}
    (inStep : InStep (BothAgree privates states) results completion completion')
    (related : privates inner inner') :
    InStep states (BothAgree results privates)
      (completion.enclosed inner) (completion'.enclosed inner') := by
  induction inStep using InStep.ind generalizing inner inner' with
  | ready result result' agree =>
      rw [Completion.enclosed, Completion.enclosed]
      exact .ready ⟨agree, related⟩
  | pending advance advance' release release' polls releases _ =>
      rw [Completion.enclosed, Completion.enclosed]
      refine .pending (fun state state' outer => ?_)
        (fun state state' outer => ?_)
      · have agree := polls (inner, state) (inner', state') ⟨related, outer⟩
        revert agree
        generalize advance (inner, state) = poll,
          advance' (inner', state') = poll'
        rintro (_ | ⟨moved, -, inside⟩)
        · exact .blocked
        · exact .advanced moved.2 (inside moved.1)
      · exact (releases _ _ ⟨related, outer⟩).2

section Chains

variable {failures : ε → ε' → Prop} {values : α → α' → Prop}
  {values' : β → β' → Prop}
  {completion : Completion σ (Except ε α)}
  {completion' : Completion σ (Except ε' α')}
  {next : α → σ → Completion σ (Except ε β) × σ}
  {next' : α' → σ → Completion σ (Except ε' β') × σ}

theorem InStep.map
    {f : α → β} {f' : α' → β'}
    (maps : ∀ value value', values value value' → values' (f value) (f' value'))
    (inStep :
      InStep states (ResultsAgree failures values) completion completion') :
    InStep states (ResultsAgree failures values') (completion.map f)
      (completion'.map f') := by
  refine inStep.mapResult ?_
  rintro _ _ (agree | agree)
  · exact .error agree
  · exact .ok (maps _ _ agree)

/-- Continuations that lead from related values and states to completions in
step. -/
def NextsAgree
    (states : σ → σ → Prop) (failures : ε → ε' → Prop) (values : α → α' → Prop)
    (values' : β → β' → Prop) (next : α → σ → Completion σ (Except ε β) × σ)
    (next' : α' → σ → Completion σ (Except ε' β') × σ) :
    Prop :=
  ∀ value value', values value value' → ∀ state state', states state state' →
    StartInStep states (ResultsAgree failures values') (next value state)
      (next' value' state')

theorem InStep.resume
    (continues : NextsAgree states failures values values' next next')
    (inStep :
      InStep states (ResultsAgree failures values) completion completion')
    (related : states state state') :
    StartInStep states (ResultsAgree failures values')
      (completion.resume next state) (completion'.resume next' state') := by
  induction inStep using InStep.ind generalizing state state' with
  | ready result result' agree =>
      cases agree with
      | error agree =>
          rw [Completion.resume, Completion.resume]
          exact ⟨.ready (.error agree), related⟩
      | ok agree =>
          rw [Completion.resume, Completion.resume]
          have started := continues _ _ agree state state' related
          exact started.completions.poll started.states
  | pending advance advance' release release' polls releases _ =>
      rw [Completion.resume, Completion.resume]
      refine ⟨.pending (fun state state' related => ?_) releases, related⟩
      have agree := polls state state' related
      revert agree
      generalize advance state = poll, advance' state' = poll'
      rintro (_ | ⟨moved, -, resumed⟩)
      · exact .blocked
      · have later := resumed moved
        exact .advanced later.states later.completions

/-- Chains are in step when their first computations are, and what follows
agreeing values is. -/
theorem InStep.andThen
    (continues : NextsAgree states failures values values' next next')
    (inStep :
      InStep states (ResultsAgree failures values) completion completion')
    (related : states state state') :
    StartInStep states (ResultsAgree failures values')
      (completion.andThen next state) (completion'.andThen next' state') := by
  have resumed := inStep.resume continues related
  cases inStep with
  | ready agree =>
      cases agree with
      | error _ => exact resumed
      | ok agree => exact continues _ _ agree _ _ related
  | pending _ _ => exact resumed

theorem StartInStep.andThen
    {started : Completion σ (Except ε α) × σ}
    {started' : Completion σ (Except ε' α') × σ}
    (inStep :
      StartInStep states (ResultsAgree failures values) started started')
    (continues : NextsAgree states failures values values' next next') :
    StartInStep states (ResultsAgree failures values')
      (started.1.andThen next started.2)
      (started'.1.andThen next' started'.2) :=
  inStep.completions.andThen continues inStep.states

end Chains

section Joins

variable {failures : ε → ε' → Prop} {values : α → α' → Prop}
  {values' : β → β' → Prop}
  {joined : γ → γ' → Prop} {combine : α → β → γ} {combine' : α' → β' → γ'}

/-- Two polls of a first completion have led to the same. -/
inductive LeadsAgree
    (states : σ → σ → Prop) (failures : ε → ε' → Prop) (values' : β → β' → Prop)
    (joined : γ → γ' → Prop) :
    Lead σ ε β γ → Lead σ ε' β' γ' → Prop
  | blocked : LeadsAgree states failures values' joined .blocked .blocked
  | failed {error : ε} {error' : ε'} {after after' : σ}
      (agree : failures error error') (moved : states after after') :
      LeadsAgree states failures values' joined (.failed error after)
        (.failed error' after')
  | moved
      {rejoin : Completion σ (Except ε β) → Completion σ (Except ε γ)}
      {rejoin' : Completion σ (Except ε' β') → Completion σ (Except ε' γ')}
      {release release' : σ → σ} {after after' : σ}
      (rejoins :
        ∀ second second',
          InStep states (ResultsAgree failures values') second second' →
          InStep states (ResultsAgree failures joined) (rejoin second)
            (rejoin' second'))
      (releases : ∀ state state', states state state' →
        states (release state) (release' state'))
      (moved : states after after') :
      LeadsAgree states failures values' joined
        (.moved rejoin release after) (.moved rejoin' release' after')

/-- The end of a round after both first completions moved. -/
theorem pollsAgree_endRound
    {rejoin : Completion σ (Except ε β) → Completion σ (Except ε γ)}
    {rejoin' : Completion σ (Except ε' β') → Completion σ (Except ε' γ')}
    {release release' : σ → σ}
    {second : Completion σ (Except ε β)} {second' : Completion σ (Except ε' β')}
    {poll : Poll σ (Except ε β)} {poll' : Poll σ (Except ε' β')}
    (rejoins :
      ∀ second second',
        InStep states (ResultsAgree failures values') second second' →
        InStep states (ResultsAgree failures joined) (rejoin second)
          (rejoin' second'))
    (releases : ∀ state state', states state state' →
      states (release state) (release' state'))
    (inStep : InStep states (ResultsAgree failures values') second second')
    (related : states state state')
    (agree : PollsAgree states (InStep states (ResultsAgree failures values'))
      poll poll') :
    PollsAgree states (InStep states (ResultsAgree failures joined))
      (endRound rejoin release second state poll)
      (endRound rejoin' release' second' state' poll') := by
  cases agree with
  | blocked => exact .advanced related (rejoins _ _ inStep)
  | advanced moved next =>
      have rejoined := rejoins _ _ next
      cases next with
      | ready agree =>
          cases agree with
          | error agree =>
              exact .advanced (releases _ _ moved) (.ready (.error agree))
          | ok _ => exact .advanced moved rejoined
      | pending _ _ => exact .advanced moved rejoined

/-- Second completions in step behind first ones whose polls lead to the
same. -/
theorem InStep.behind
    {lead : σ → Lead σ ε β γ} {lead' : σ → Lead σ ε' β' γ'}
    {release release' : σ → σ}
    {second : Completion σ (Except ε β)} {second' : Completion σ (Except ε' β')}
    (leads :
      ∀ state state', states state state' →
        LeadsAgree states failures values' joined (lead state) (lead' state'))
    (releases : ∀ state state', states state state' →
      states (release state) (release' state'))
    (inStep : InStep states (ResultsAgree failures values') second second') :
    InStep states (ResultsAgree failures joined)
      (Completion.behind lead release second)
      (Completion.behind lead' release' second') := by
  induction inStep using InStep.ind with
  | ready result result' agree =>
      cases agree with
      | error agree =>
          rw [Completion.behind, Completion.behind]
          refine .pending (fun state state' related => ?_) releases
          have led := leads state state' related
          revert led
          generalize lead state = one, lead' state' = one'
          rintro (_ | ⟨failed, moved⟩ | ⟨_, releases', moved⟩)
          · exact .advanced (releases _ _ related) (.ready (.error agree))
          · exact .advanced moved (.ready (.error failed))
          · exact .advanced (releases' _ _ moved) (.ready (.error agree))
      | ok agree =>
          rw [Completion.behind, Completion.behind]
          refine .pending (fun state state' related => ?_) releases
          have led := leads state state' related
          revert led
          generalize lead state = one, lead' state' = one'
          rintro (_ | ⟨failed, moved⟩ | ⟨rejoins, _, moved⟩)
          · exact .blocked
          · exact .advanced moved (.ready (.error failed))
          · exact .advanced moved (rejoins _ _ (.ready (.ok agree)))
  | pending advance advance' release₂ release₂' polls releases₂ inStep =>
      rw [behind_pending, behind_pending]
      refine .pending (fun state state' related => ?_)
        (fun _ _ related => releases₂ _ _ (releases _ _ related))
      have led := leads state state' related
      revert led
      generalize lead state = one, lead' state' = one'
      rintro (_ | ⟨failed, moved⟩ | ⟨rejoins, releases', moved⟩)
      · have agree := polls state state' related
        revert agree
        generalize advance state = poll, advance' state' = poll'
        rintro (_ | ⟨moved, next, behind⟩)
        · exact .blocked
        · cases next with
          | ready agree =>
              cases agree with
              | error agree =>
                  exact .advanced (releases _ _ moved) (.ready (.error agree))
              | ok _ => exact .advanced moved behind
          | pending _ _ => exact .advanced moved behind
      · exact .advanced (releases₂ _ _ moved) (.ready (.error failed))
      · have agree := (polls _ _ moved).mono fun _ _ behind => behind.1
        exact pollsAgree_endRound rejoins releases' inStep moved agree

/-- Completions in step are so when two of each are driven together. -/
theorem InStep.both
    {first : Completion σ (Except ε α)} {first' : Completion σ (Except ε' α')}
    {second : Completion σ (Except ε β)} {second' : Completion σ (Except ε' β')}
    (combines :
      ∀ value value', values value value' → ∀ other other',
        values' other other' →
        joined (combine value other) (combine' value' other'))
    (inStep : InStep states (ResultsAgree failures values) first first')
    (others : InStep states (ResultsAgree failures values') second second') :
    InStep states (ResultsAgree failures joined)
      (Completion.both combine first second)
      (Completion.both combine' first' second') := by
  induction inStep using InStep.ind generalizing second second' with
  | ready result result' agree =>
      cases agree with
      | error agree =>
          rw [Completion.both, Completion.both]
          unfold failing
          refine .pending (fun _ _ related => ?_) (fun _ _ related =>
            others.abandon related)
          exact .advanced (others.abandon related) (.ready (.error agree))
      | ok agree =>
          rw [Completion.both, Completion.both]
          exact others.map (combines _ _ agree)
  | pending advance advance' release release' polls releases _ =>
      rw [Completion.both, Completion.both]
      refine others.behind (fun state state' related => ?_) releases
      have agree := polls state state' related
      revert agree
      generalize advance state = poll, advance' state' = poll'
      rintro (_ | ⟨moved, next, rejoins⟩)
      · exact .blocked
      · cases next with
        | ready agree =>
            cases agree with
            | error agree => exact .failed agree moved
            | ok agree =>
                exact .moved (fun _ _ => rejoins) (fun _ _ => id) moved
        | pending _ releases => exact .moved (fun _ _ => rejoins) releases moved

end Joins

section Lists

variable {failures : ε → ε' → Prop} {values : α → α' → Prop}
  {completions : List (Completion σ (Except ε α))}
  {completions' : List (Completion σ (Except ε' α'))}

/-- Related values of a number of completions, one of each. -/
def Joined (values : α → α' → Prop) (number : Nat) (joined : List α)
    (joined' : List α') : Prop :=
  List.Forall₂ values joined joined' ∧ joined.length = number

theorem Joined.cons
    {number : Nat} {value : α} {value' : α'} {joined : List α}
    {joined' : List α'}
    (agree : values value value') (rest : Joined values number joined joined') :
    Joined values (number + 1) (value :: joined) (value' :: joined') :=
  ⟨.cons agree rest.1, congrArg Nat.succ rest.2⟩

theorem inStep_together
    (inStep : List.Forall₂ (InStep states (ResultsAgree failures values))
      completions completions') :
    InStep states (ResultsAgree failures (Joined values completions.length))
      (together completions) (together completions') := by
  induction inStep with
  | nil => exact .ready (.ok ⟨.nil, rfl⟩)
  | cons first _ ih =>
      exact first.both (fun _ _ agree _ _ rest => rest.cons agree) ih

theorem abandonAll_inStep
    (inStep : List.Forall₂ (InStep states (ResultsAgree failures values))
      completions completions')
    (related : states state state') :
    states (abandonAll completions state) (abandonAll completions' state') := by
  induction inStep generalizing state state' with
  | nil => exact related
  | cons first _ ih => exact ih (first.abandon related)

/-- Joins of lists of completions in step start in step. -/
theorem all_inStep
    (inStep : List.Forall₂ (InStep states (ResultsAgree failures values))
      completions completions')
    (related : states state state') :
    StartInStep states
      (ResultsAgree failures (Joined values completions.length))
      (all completions state) (all completions' state') := by
  induction inStep with
  | nil => exact ⟨.ready (.ok ⟨.nil, rfl⟩), related⟩
  | cons first rest ih =>
      have joined := inStep_together (.cons first rest)
      cases first with
      | ready agree =>
          cases agree with
          | error agree =>
              rw [all, all]
              exact ⟨.ready (.error agree), abandonAll_inStep rest related⟩
          | ok agree =>
              rw [all, all]
              exact ⟨ih.completions.map fun _ _ values => values.cons agree,
                ih.states⟩
      | pending _ _ =>
          rw [all, all]
          exact ⟨joined, related⟩

end Lists

/-- Driving completions in step from related states leads to related results, or
both wait for nothing that could come. -/
theorem InStep.drive
    (inStep : InStep states results completion completion')
    (related : states state state') :
    Option.Rel results (completion.drive state).1 (completion'.drive state').1 ∧
      states (completion.drive state).2 (completion'.drive state').2 := by
  induction inStep using InStep.ind generalizing state state' with
  | ready result result' agree =>
      rw [Completion.drive, Completion.drive]
      exact ⟨.some agree, related⟩
  | pending advance advance' release release' polls releases _ =>
      rw [Completion.drive, Completion.drive]
      have agree := polls state state' related
      revert agree
      generalize advance state = poll, advance' state' = poll'
      rintro (_ | ⟨moved, -, driven⟩)
      · rw [Completion.drivePoll, Completion.drivePoll]
        exact ⟨.none, related⟩
      · rw [Completion.drivePoll, Completion.drivePoll]
        exact driven moved

end Completion

end Phrasebook
