import Phrasebook.Proofs.Completion.Drive
import Phrasebook.Proofs.Completion.Round
import Phrasebook.Proofs.Rerender.Watch

/-!
# Completions among others

A completion *tends* to a fact when, from data that are found now, each of its
polls is a step of the places that it holds, dropping it gives them up, and the
fact holds of its result and of the data once it has one.  The others may act
between its polls, as long as it can rely on what they do; so only facts that
last through such changes are of use.  Nothing is said of how long a completion
takes, or that it ends at all.

The operations on completions respect this, and what is joined holds places of
its own.
-/

namespace Phrasebook

namespace Watch

variable {σ τ ρ ω ε α β γ : Type} (watch : Watch) (view : σ → RenderData)

/-- A fact that others do not spoil. -/
def Lasts (fact : RenderData → Prop) : Prop :=
  ∀ data data', watch.Rely ∅ data data' → fact data → fact data'

mutual

/-- A completion that holds the places `held` on data, and comes to a fact. -/
def Tends (fact : ρ → RenderData → Prop) :
    Completion σ ρ → Set Place → RenderData → Prop
  | .ready result, held, data => held = ∅ ∧ fact result data
  | .pending advance release, held, data =>
    ∀ state, watch.Rely held data (view state) →
      PollTends fact (advance state) held state ∧
        watch.Step held ∅ (view state) (view (release state))

/-- A poll at a state, of a completion that held the places `held`. -/
def PollTends (fact : ρ → RenderData → Prop) : Poll σ ρ → Set Place → σ → Prop
  | .blocked, _, _ => True
  | .advanced next after, held, state =>
    ∃ held', watch.Step held held' (view state) (view after) ∧
      Tends fact next held' (view after)

end

/-- A computation has led from data to a completion that tends to a fact. -/
def Starts
    (fact : ρ → RenderData → Prop) (held : Set Place) (before : RenderData)
    (started : Completion σ ρ × σ) : Prop :=
  ∃ held', watch.Step held held' before (view started.2) ∧
    watch.Tends view fact started.1 held' (view started.2)

/-- A fact about the value of a success. -/
def OnSuccess
    (fact : α → RenderData → Prop) (result : Except ε α) (data : RenderData) :
    Prop :=
  ∀ value, result = .ok value → fact value data

variable {watch view} {fact fact' : ρ → RenderData → Prop}
  {completion : Completion σ ρ}
  {held held' held'' frame : Set Place} {before data data' : RenderData}
  {state : σ}

/-- A fact of every value that lasts also lasts of a success. -/
theorem Lasts.onSuccess
    {fact : α → RenderData → Prop} (lasts : ∀ value, watch.Lasts (fact value))
    (result : Except ε α) :
    watch.Lasts (OnSuccess fact result) :=
  fun data data' rely holds value same =>
    lasts value data data' rely (holds value same)

/-- What others do in between makes no difference. -/
theorem Tends.later
    (lasts : ∀ result, watch.Lasts (fact result))
    (tends : watch.Tends view fact completion held data)
    (rely : watch.Rely held data data') :
    watch.Tends view fact completion held data' := by
  cases completion with
  | ready result =>
      rcases tends with ⟨rfl, holds⟩
      exact ⟨rfl, lasts result data data' rely holds⟩
  | pending advance release =>
      exact fun state rely' => tends state (rely.trans rely')

/-- Abandoning a completion gives up all places that it holds. -/
theorem Tends.abandon
    (sound : watch.Sound (view state))
    (tends : watch.Tends view fact completion held (view state)) :
    watch.Step held ∅ (view state) (view (completion.abandon state)) := by
  cases completion with
  | ready result =>
      rcases tends with ⟨rfl, -⟩
      exact .refl sound issued_empty
  | pending advance release => exact (tends state (.refl sound)).2

theorem Tends.poll
    (sound : watch.Sound (view state)) (issued : watch.Issued held (view state))
    (tends : watch.Tends view fact completion held (view state)) :
    watch.Starts view fact held (view state) (completion.poll state) := by
  cases completion with
  | ready result => exact ⟨held, .refl sound issued, tends⟩
  | pending advance release =>
      have reached := (tends state (.refl sound)).1
      rw [Completion.poll]
      cases polled : advance state with
      | blocked => exact ⟨held, .refl sound issued, tends⟩
      | advanced next after =>
          rw [polled] at reached
          exact reached

/-- A poll that is known to have happened. -/
theorem Starts.pollTends
    {next : Completion σ ρ} {after : σ}
    (starts : watch.Starts view fact held (view state) (next, after)) :
    watch.PollTends view fact (.advanced next after) held state :=
  starts

/-- What starts after a step of its own starts from before. -/
theorem Starts.after
    (sound : watch.Sound before) (step : watch.Step held held' before data)
    {started : Completion σ ρ × σ}
    (starts : watch.Starts view fact held' data started) :
    watch.Starts view fact held before started := by
  rcases starts with ⟨held'', later, tends⟩
  exact ⟨held'', step.trans sound later, tends⟩

/-- A result for which the fact holds tends to it without holding a place. -/
theorem starts_ready (sound : watch.Sound (view state)) {result : ρ}
    (holds : fact result (view state)) :
    watch.Starts view fact ∅ (view state) (.ready result, state) :=
  ⟨∅, .refl sound issued_empty, rfl, holds⟩

theorem starts_ok
    {fact : α → RenderData → Prop} (sound : watch.Sound (view state))
    {value : α} (holds : fact value (view state)) :
    watch.Starts view (OnSuccess fact) ∅ (view state)
      (.ready (.ok value : Except ε α), state) := by
  refine starts_ready sound ?_
  rintro _ ⟨⟩
  exact holds

theorem starts_error
    {fact : α → RenderData → Prop} (sound : watch.Sound (view state))
    (error : ε) :
    watch.Starts view (OnSuccess fact) ∅ (view state) (.ready (.error error),
      state) :=
  starts_ready sound nofun

/-- The data stay sound when something starts. -/
theorem Starts.sound
    {started : Completion σ ρ × σ}
    (starts : watch.Starts view fact held before started)
    (sound : watch.Sound before) :
    watch.Sound (view started.2) := by
  rcases starts with ⟨held', step, -⟩
  exact step.sound sound

/-- Polling what has been started is a start as well. -/
theorem Starts.poll
    {started : Completion σ ρ × σ} (sound : watch.Sound before)
    (starts : watch.Starts view fact held before started) :
    watch.Starts view fact held before (started.1.poll started.2) := by
  have sound' := starts.sound sound
  rcases starts with ⟨held', step, tends⟩
  exact .after sound step (tends.poll sound' step.issued)

/-- A completion tends to what follows from its fact and from what was known
before, if that lasts. -/
theorem Tends.imp
    {known : RenderData → Prop} (lasts : watch.Lasts known)
    (implies : ∀ result data, known data → fact result data → fact' result data)
    (tends : watch.Tends view fact completion held data) (knows : known data) :
    watch.Tends view fact' completion held data := by
  induction completion using Completion.ind generalizing held data with
  | ready result => exact ⟨tends.1, implies result data knows tends.2⟩
  | pending advance release ih =>
      intro state rely
      refine ⟨?_, (tends state rely).2⟩
      have reached := (tends state rely).1
      cases polled : advance state with
      | blocked => trivial
      | advanced next after =>
          rw [polled] at reached
          rcases reached with ⟨held', step, tends'⟩
          refine ⟨held', step, ih state next after polled tends' ?_⟩
          have knows' := lasts data (view state) rely.nothing knows
          exact lasts _ _ (step.rely rely.sound apart_empty_right) knows'

theorem Starts.imp
    {known : RenderData → Prop} (lasts : watch.Lasts known)
    (implies : ∀ result data, known data → fact result data → fact' result data)
    {started : Completion σ ρ × σ} (sound : watch.Sound before)
    (starts : watch.Starts view fact held before started)
    (knows : known before) :
    watch.Starts view fact' held before started := by
  rcases starts with ⟨held', step, tends⟩
  exact ⟨held', step,
    tends.imp lasts implies
      (lasts _ _ (step.rely sound apart_empty_right) knows)⟩

theorem lasts_true : watch.Lasts fun _ => True :=
  fun _ _ _ _ => trivial

theorem Tends.mono
    (implies : ∀ result data, fact result data → fact' result data)
    (tends : watch.Tends view fact completion held data) :
    watch.Tends view fact' completion held data :=
  tends.imp lasts_true (fun result data _ => implies result data) trivial

theorem Starts.mono
    (implies : ∀ result data, fact result data → fact' result data)
    {started : Completion σ ρ × σ}
    (starts : watch.Starts view fact held before started) :
    watch.Starts view fact' held before started := by
  rcases starts with ⟨held', step, tends⟩
  exact ⟨held', step, tends.mono implies⟩

/-- A mapped result tends to what follows for it. -/
theorem Tends.mapResult
    {fact' : ω → RenderData → Prop} (f : ρ → ω)
    (implies : ∀ result data, fact result data → fact' (f result) data)
    (tends : watch.Tends view fact completion held data) :
    watch.Tends view fact' (completion.mapResult f) held data := by
  induction completion using Completion.ind generalizing held data with
  | ready result =>
      rw [Completion.mapResult]
      exact ⟨tends.1, implies result data tends.2⟩
  | pending advance release ih =>
      rw [Completion.mapResult]
      intro state rely
      refine ⟨?_, (tends state rely).2⟩
      have reached := (tends state rely).1
      dsimp only
      cases polled : advance state with
      | blocked => trivial
      | advanced next after =>
          rw [polled] at reached
          rcases reached with ⟨held', step, tends'⟩
          exact ⟨held', step, ih state next after polled tends'⟩

/-- A completion on a part of the state that shows the same data. -/
theorem Tends.within
    {view' : τ → RenderData} {part : τ → σ} {update : σ → τ → τ}
    (parts : ∀ whole, view (part whole) = view' whole)
    (updates : ∀ state whole, view' (update state whole) = view state)
    (tends : watch.Tends view fact completion held data) :
    watch.Tends view' fact (completion.within part update) held data := by
  induction completion using Completion.ind generalizing held data with
  | ready result => exact tends
  | pending advance release ih =>
      rw [Completion.within]
      intro whole rely
      rw [← parts whole] at rely ⊢
      have reached := (tends (part whole) rely).1
      refine ⟨?_, by rw [updates]; exact (tends (part whole) rely).2⟩
      dsimp only
      cases polled : advance (part whole) with
      | blocked => trivial
      | advanced next after =>
          rw [polled] at reached
          rcases reached with ⟨held', step, tends'⟩
          refine ⟨held', ?_, ?_⟩
          · rw [← parts whole, updates]
            exact step
          · rw [updates]
            exact ih (part whole) next after polled tends'

section Chains

variable {completion : Completion σ (Except ε α)}
  {next : α → σ → Completion σ (Except ε β) × σ}
  {fact : α → RenderData → Prop} {fact' : β → RenderData → Prop}
  (continues : ∀ value state, watch.Sound (view state) →
    fact value (view state) →
    watch.Starts view (OnSuccess fact') ∅ (view state) (next value state))

theorem Tends.map
    (f : α → β) (implies : ∀ value data, fact value data → fact' (f value) data)
    (tends : watch.Tends view (OnSuccess fact) completion held data) :
    watch.Tends view (OnSuccess fact') (completion.map f) held data := by
  refine tends.mapResult _ fun result data holds value same => ?_
  cases result with
  | error error => cases same
  | ok value' =>
      cases same
      exact implies value' data (holds value' rfl)

theorem Starts.map
    (f : α → β) (implies : ∀ value data, fact value data → fact' (f value) data)
    {started : Completion σ (Except ε α) × σ}
    (starts : watch.Starts view (OnSuccess fact) held before started) :
    watch.Starts view (OnSuccess fact') held before (started.1.map f,
      started.2) := by
  rcases starts with ⟨held', step, tends⟩
  exact ⟨held', step, tends.map f implies⟩

include continues

theorem Tends.resume
    (sound : watch.Sound (view state)) (issued : watch.Issued held (view state))
    (tends : watch.Tends view (OnSuccess fact) completion held (view state)) :
    watch.Starts view (OnSuccess fact') held (view state)
      (completion.resume next state) := by
  induction completion using Completion.ind generalizing held state with
  | ready result =>
      rcases tends with ⟨rfl, holds⟩
      cases result with
      | error error =>
          rw [Completion.resume]
          exact starts_error sound error
      | ok value =>
          rw [Completion.resume]
          exact (continues value state sound (holds value rfl)).poll sound
  | pending advance release ih =>
      rw [Completion.resume]
      refine ⟨held, .refl sound issued, fun state' rely =>
        ⟨?_, (tends state' rely).2⟩⟩
      have reached := (tends state' rely).1
      dsimp only
      cases polled : advance state' with
      | blocked => trivial
      | advanced later after =>
          rw [polled] at reached
          rcases reached with ⟨held', step, tends'⟩
          rw [Completion.resumePoll]
          have goesOn :=
            ih state' later after polled (step.sound rely.sound)
              step.issued tends'
          exact (Starts.after rely.sound step goesOn).pollTends

/-- A chain tends to the fact of what follows its first computation. -/
theorem Starts.andThen
    {started : Completion σ (Except ε α) × σ} (sound : watch.Sound before)
    (starts : watch.Starts view (OnSuccess fact) held before started) :
    watch.Starts view (OnSuccess fact') held before
      (started.1.andThen next started.2) := by
  rcases starts with ⟨held', step, tends⟩
  have sound' := step.sound sound
  refine .after sound step ?_
  rcases started with ⟨completion, state⟩
  match completion with
  | .ready (.ok value) =>
      rcases tends with ⟨rfl, holds⟩
      exact continues value state sound' (holds value rfl)
  | .ready (.error error) => exact tends.resume continues sound' step.issued
  | .pending advance release => exact tends.resume continues sound' step.issued

end Chains

section Joins

open Completion
  (both round round_of_first_failed round_of_second_failed round_of_none_failed
    failing)

variable {combine : α → β → γ} {first : Completion σ (Except ε α)}
  {second : Completion σ (Except ε β)}
  {fact : α → RenderData → Prop} {fact' : β → RenderData → Prop}
  {fact'' : γ → RenderData → Prop}

theorem tends_error
    (error : ε) :
    watch.Tends view (OnSuccess fact) (.ready (.error error) : Completion σ _)
      ∅ data :=
  ⟨rfl, nofun⟩

theorem tends_both_ready
    (lasts : ∀ value, watch.Lasts (fact value))
    (combines : ∀ value other data, fact value data → fact' other data →
      fact'' (combine value other) data)
    {value : α} (holds : fact value data)
    (tends : watch.Tends view (OnSuccess fact') second held data) :
    watch.Tends view (OnSuccess fact'')
      (both combine (.ready (.ok value)) second) held data := by
  rw [both]
  have both : watch.Tends view (OnSuccess fun other data => fact value data ∧
      fact' other data) second held data :=
    tends.imp (lasts value)
      (fun _ _ knows onSuccess other same =>
        ⟨knows, onSuccess other same⟩) holds
  exact both.map (combine value) fun other data facts =>
    combines value other data facts.1 facts.2

/-- A round of two completions: the first one is polled and then, from the data
it has left, the other. -/
theorem pollTends_round
    (lasts : ∀ value, watch.Lasts (fact value))
    (lasts' : ∀ value, watch.Lasts (fact' value))
    (sound : watch.Sound (view state))
    (tends : watch.Tends view (OnSuccess fact) first held (view state))
    (tends' : watch.Tends view (OnSuccess fact') second held' (view state))
    (apart : watch.Apart held held') (issued : watch.Issued held (view state))
    (issued' : watch.Issued held' (view state))
    (goesOn : ∀ held₁ held₂,
      let polled := first.poll state
      let polled' := second.poll polled.2
      polled'.1.failure? = none →
        (first.rests state && second.rests polled.2) = false →
        watch.Tends view (OnSuccess fact) polled.1 held₁ (view polled'.2) →
        watch.Tends view (OnSuccess fact') polled'.1 held₂ (view polled'.2) →
        watch.Apart held₁ held₂ → watch.Issued held₁ (view polled'.2) →
        watch.Issued held₂ (view polled'.2) →
          watch.Tends view (OnSuccess fact'') (both combine polled.1 polled'.1)
            (held₁ ∪ held₂)
            (view polled'.2)) :
    watch.PollTends view (OnSuccess fact'') (round combine first second state)
      (held ∪ held') state := by
  rcases tends.poll sound issued with ⟨held₁, step, reached⟩
  have sound₁ := step.sound sound
  have apart₁ := step.apart apart issued'
  have issued₁ := step.keeps_issued issued'
  have waits := tends'.later (Lasts.onSuccess lasts') (step.rely sound apart)
  cases met : (first.poll state).1.failure? with
  | some error =>
      rw [round_of_first_failed met]
      rw [Completion.failure?_eq_some.mp met] at reached
      rcases reached with ⟨rfl, -⟩
      exact ⟨∅, step.release_both sound issued' (waits.abandon sound₁),
        tends_error error⟩
  | none =>
      rcases waits.poll sound₁ issued₁ with ⟨held₂, step', reached'⟩
      have sound₂ := step'.sound sound₁
      have apart₂ := (step'.apart apart₁.symm step.issued).symm
      have stays :=
        reached.later (Lasts.onSuccess lasts) (step'.rely sound₁ apart₁.symm)
      have issued₂ := step'.keeps_issued step.issued
      have both :=
        (step.beside issued').trans sound (step'.beside_left step.issued)
      cases met' : (second.poll (first.poll state).2).1.failure? with
      | some error =>
          rw [round_of_second_failed met met']
          rw [Completion.failure?_eq_some.mp met'] at reached'
          rcases reached' with ⟨rfl, -⟩
          rw [Set.union_empty] at both
          exact ⟨∅, both.trans sound (stays.abandon sound₂), tends_error error⟩
      | none =>
          rw [round_of_none_failed met met']
          split_ifs with rests
          · trivial
          · rw [Bool.not_eq_true] at rests
            exact ⟨held₁ ∪ held₂, both,
              goesOn held₁ held₂ met' rests stays reached' apart₂ issued₂
                step'.issued⟩

/-- Completions that are driven together hold places of their own. -/
theorem tends_both
    (lasts : ∀ value, watch.Lasts (fact value))
    (lasts' : ∀ value, watch.Lasts (fact' value))
    (combines : ∀ value other data, fact value data → fact' other data →
      fact'' (combine value other) data)
    (tends : watch.Tends view (OnSuccess fact) first held data)
    (tends' : watch.Tends view (OnSuccess fact') second held' data)
    (apart : watch.Apart held held') (issued : watch.Issued held data)
    (issued' : watch.Issued held' data) :
    watch.Tends view (OnSuccess fact'') (both combine first second)
      (held ∪ held') data := by
  induction first, second using Completion.ind_rounds
      generalizing held held' data with
  | ready result second =>
      rcases tends with ⟨rfl, holds⟩
      rw [Set.empty_union]
      cases result with
      | ok value =>
          exact tends_both_ready lasts combines (holds value rfl) tends'
      | error error =>
          rw [both]
          intro state rely
          have freed :=
            (tends'.later (Lasts.onSuccess lasts') rely).abandon rely.sound
          exact ⟨⟨∅, freed, tends_error error⟩, freed⟩
  | pending advance release second ih =>
      rcases Completion.both_pending combine advance release second with
        ⟨release', rounds⟩
      have released :=
        Completion.abandon_both_pending combine advance release second
      rw [rounds] at released ⊢
      intro state rely
      have rely₁ := rely.mono Set.subset_union_left
      have rely₂ := rely.mono Set.subset_union_right
      have sound := rely.sound
      have issued₁ := rely.issued issued
      have issued₂ := rely.issued issued'
      have here := tends.later (Lasts.onSuccess lasts) rely₁
      have here' := tends'.later (Lasts.onSuccess lasts') rely₂
      refine ⟨?_, ?_⟩
      · exact pollTends_round lasts lasts' sound here here' apart
          issued₁ issued₂
          fun held₁ held₂ met moved => ih state met moved
      · rw [show release' state = _ from released state]
        have freed := here.abandon sound
        have others :=
          here'.later (Lasts.onSuccess lasts') (freed.rely sound apart)
        exact freed.release_both sound issued₂
          (others.abandon (freed.sound sound))

end Joins

section Lists

variable {facts : List (α → RenderData → Prop)}
  {completions : List (Completion σ (Except ε α))}

/-- Completions that tend to facts of their own and hold places of their own. -/
inductive AllTend (watch : Watch) (view : σ → RenderData) (data : RenderData) :
    List (α → RenderData → Prop) → List (Completion σ (Except ε α)) →
      Set Place → Prop
  | nil : AllTend watch view data [] [] ∅
  | cons {fact : α → RenderData → Prop} {facts : List (α → RenderData → Prop)}
      {completion : Completion σ (Except ε α)}
      {completions : List (Completion σ (Except ε α))} {held held' : Set Place}
      (lasts : ∀ value, watch.Lasts (fact value))
      (tends : watch.Tends view (OnSuccess fact) completion held data)
      (rest : AllTend watch view data facts completions held')
      (apart : watch.Apart held held') :
      AllTend watch view data (fact :: facts) (completion :: completions)
        (held ∪ held')

/-- Each value of a list is as its own fact says. -/
def AllHold (facts : List (α → RenderData → Prop)) (values : List α)
    (data : RenderData) : Prop :=
  List.Forall₂ (fun fact value => fact value data) facts values

/-- Facts that last do so of all values together. -/
theorem AllTend.lasts (allTend : AllTend watch view data facts completions held)
    (values : List α) :
    watch.Lasts (AllHold facts values) := by
  induction allTend generalizing values with
  | nil =>
      intro data data' _ holds
      cases holds
      exact .nil
  | cons lasts _ _ _ ih =>
      intro data data' rely holds
      cases holds with
      | cons first others =>
          exact .cons (lasts _ data data' rely first)
            (ih _ data data' rely others)

/-- What the others do in between makes no difference. -/
theorem AllTend.later
    (allTend : AllTend watch view data facts completions held)
    (rely : watch.Rely held data data') :
    AllTend watch view data' facts completions held := by
  induction allTend with
  | nil => exact .nil
  | cons lasts tends _ apart ih =>
      exact .cons lasts
        (tends.later (Lasts.onSuccess lasts) (rely.mono Set.subset_union_left))
        (ih (rely.mono Set.subset_union_right)) apart

theorem AllTend.abandonAll
    (sound : watch.Sound (view state)) (issued : watch.Issued held (view state))
    (allTend : AllTend watch view (view state) facts completions held) :
    watch.Step held ∅ (view state)
      (view (Completion.abandonAll completions state)) := by
  induction completions generalizing facts held state with
  | nil =>
      cases allTend
      exact .refl sound issued
  | cons completion rest ih =>
      cases allTend with
      | cons lasts tends others apart =>
          have issued' := (issued_union.mp issued).2
          have freed := tends.abandon sound
          have later := others.later (freed.rely sound apart)
          exact freed.release_both sound issued'
            (ih (freed.sound sound) (freed.keeps_issued issued') later)

/-- Completions that tend to their facts tend to all of them when they are
driven together. -/
theorem AllTend.together
    (issued : watch.Issued held data)
    (allTend : AllTend watch view data facts completions held) :
    watch.Tends view (OnSuccess (AllHold facts))
      (Completion.together completions) held data := by
  induction allTend with
  | nil =>
      rw [Completion.together]
      refine ⟨rfl, fun values same => ?_⟩
      cases same
      exact .nil
  | cons lasts tends others apart ih =>
      rcases issued_union.mp issued with ⟨issued, issued'⟩
      rw [Completion.together]
      exact tends_both lasts others.lasts (fun _ _ _ first rest =>
        .cons first rest) tends (ih issued') apart
        issued issued'

/-- A join tends to what each of its elements tends to. -/
theorem AllTend.all
    (sound : watch.Sound (view state)) (issued : watch.Issued held (view state))
    (allTend : AllTend watch view (view state) facts completions held) :
    watch.Starts view (OnSuccess (AllHold facts)) held (view state)
      (Completion.all completions state) := by
  induction completions generalizing facts held with
  | nil =>
      cases allTend
      rw [Completion.all]
      exact starts_ok sound .nil
  | cons completion rest ih =>
      have whole := allTend
      cases allTend with
      | @cons fact facts _ _ held held' lasts tends others apart =>
          cases completion with
          | ready result =>
              rcases tends with ⟨rfl, holds⟩
              rw [Set.empty_union] at issued ⊢
              cases result with
              | ok value =>
                  rw [Completion.all]
                  have joined := (ih issued others).imp (lasts value)
                    (fun _ _ knows onSuccess values same =>
                      And.intro knows (onSuccess values same)) sound
                    (holds value rfl)
                  exact Starts.map (value :: ·) (fun values data facts =>
                    .cons facts.1 facts.2) joined
              | error error =>
                  rw [Completion.all]
                  exact ⟨∅, others.abandonAll sound issued, tends_error error⟩
          | pending advance release =>
              rw [Completion.all]
              exact ⟨held ∪ held', .refl sound issued, whole.together issued⟩

end Lists

end Watch

end Phrasebook
