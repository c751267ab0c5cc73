import Mathlib.Data.Set.BooleanAlgebra
import Mathlib.Order.CompletePartialOrder
import Phrasebook.Proofs.Completion.Alongside
import Phrasebook.Proofs.Completion.Round
import Phrasebook.Proofs.Turns.Trace

/-!
# Working side by side on a trace

A computation *works* at some addresses when it adds to the trace only deeds for
the expressions there, while whatever else goes on between its polls adds deeds
elsewhere only; the trace stays coherent all along, and giving the computation
up adds nothing.  When it ends, a fact holds of its result and of the trace.

The operations on completions respect this, and completions that are joined work
at addresses of their own.  What is known of other addresses beside those is not
lost in the meantime.
-/

namespace Phrasebook

namespace Trace

/-- A coherent trace has grown by deeds at some addresses. -/
structure Step (outlines : Address → Option Outline) (mine : Set Address)
    (before after : Trace) : Prop where
  coherent : Coherent outlines after
  grows : before <+: after
  elsewhere : ∀ address ∉ mine, own address after = own address before

variable {σ ρ ω ε α β γ : Type} {outlines : Address → Option Outline}
  {mine mine' wider aside : Set Address}
  {trace before between after : Trace}

namespace Step

theorem refl (coherent : Coherent outlines trace) :
    Step outlines mine trace trace :=
  ⟨coherent, List.prefix_refl trace, fun _ _ => rfl⟩

theorem trans
    (first : Step outlines mine before between)
    (second : Step outlines mine between after) :
    Step outlines mine before after :=
  ⟨second.coherent, first.grows.trans second.grows,
    fun address outside =>
      (second.elsewhere address outside).trans
        (first.elsewhere address outside)⟩

theorem mono (step : Step outlines mine before after) (more : mine ⊆ mine') :
    Step outlines mine' before after :=
  ⟨step.coherent, step.grows, fun address outside =>
    step.elsewhere address fun member => outside (more member)⟩

/-- Others need not mind what happens at addresses that are not theirs. -/
theorem others
    (step : Step outlines mine before after) (apart : Disjoint mine mine') :
    Step outlines (mine')ᶜ before after :=
  step.mono (Set.subset_compl_iff_disjoint_right.mpr apart)

end Step

variable (outlines mine) in
mutual

/-- A completion that works at some addresses, from a trace on, and comes to a
fact. -/
def Works (fact : ρ → Trace → Prop) : Completion (σ × Trace) ρ → Trace → Prop
  | .ready result, trace => ∀ later, Step outlines mineᶜ trace later →
      fact result later
  | .pending advance release, trace =>
    ∀ whole : σ × Trace, Step outlines mineᶜ trace whole.2 →
      PollWorks fact (advance whole) whole.2 ∧ (release whole).2 = whole.2

/-- A poll of a completion that works at some addresses. -/
def PollWorks (fact : ρ → Trace → Prop) : Poll (σ × Trace) ρ → Trace → Prop
  | .blocked, _ => True
  | .advanced next after, trace => Step outlines mine trace after.2 ∧
      Works fact next after.2

end

/-- A computation that was started has worked at some addresses, and its
completion goes on to. -/
structure Begins
    (outlines : Address → Option Outline) (mine : Set Address)
    (fact : ρ → Trace → Prop) (before : Trace)
    (started : Completion (σ × Trace) ρ × (σ × Trace)) : Prop where
  step : Step outlines mine before started.2.2
  works : Works outlines mine fact started.1 started.2.2

/-- Nothing is said of the result. -/
def Anyway (_ : ρ) (_ : Trace) : Prop :=
  True

/-- A fact about the value of a success. -/
def OnSuccess
    (fact : α → Trace → Prop) (result : Except ε α) (trace : Trace) : Prop :=
  ∀ value, result = .ok value → fact value trace

/-- What others do at other addresses does not spoil what is known. -/
def Lasts (outlines : Address → Option Outline) (mine : Set Address)
    (known : Trace → Prop) : Prop :=
  ∀ before after, Step outlines mineᶜ before after → known before → known after

variable {fact fact' : ρ → Trace → Prop} {completion : Completion (σ × Trace) ρ}
  {whole : σ × Trace}
  {started : Completion (σ × Trace) ρ × (σ × Trace)}

theorem Works.later
    (works : Works outlines mine fact completion before)
    (others : Step outlines mineᶜ before after) :
    Works outlines mine fact completion after := by
  cases completion with
  | ready result => exact fun later step => works later (others.trans step)
  | pending advance release =>
      exact fun whole step => works whole (others.trans step)

theorem works_ready {result : ρ} (lasts : Lasts outlines mine (fact result))
    (holds : fact result trace) :
    Works outlines mine fact (.ready result : Completion (σ × Trace) ρ) trace :=
  fun later others => lasts trace later others holds

theorem begins_ready
    {result : ρ} (coherent : Coherent outlines whole.2)
    (lasts : Lasts outlines mine (fact result)) (holds : fact result whole.2) :
    Begins outlines mine fact whole.2 (.ready result, whole) :=
  ⟨.refl coherent, works_ready lasts holds⟩

theorem lasts_anyway (result : ρ) : Lasts outlines mine (Anyway result) :=
  fun _ _ _ _ => trivial

theorem lasts_onSuccess
    {fact : α → Trace → Prop}
    (lasts : ∀ value, Lasts outlines mine (fact value)) (result : Except ε α) :
    Lasts outlines mine (OnSuccess fact result) :=
  fun before after step holds value same =>
    lasts value before after step (holds value same)

theorem Works.abandon
    (works : Works outlines mine fact completion whole.2)
    (coherent : Coherent outlines whole.2) :
    (completion.abandon whole).2 = whole.2 := by
  cases completion with
  | ready result => rfl
  | pending advance release => exact (works whole (.refl coherent)).2

/-- Polling a completion that works is beginning again. -/
theorem Works.poll
    (works : Works outlines mine fact completion whole.2)
    (coherent : Coherent outlines whole.2) :
    Begins outlines mine fact whole.2 (completion.poll whole) := by
  cases completion with
  | ready result => exact ⟨.refl coherent, works⟩
  | pending advance release =>
      have reached := (works whole (.refl coherent)).1
      rw [Completion.poll]
      cases polled : advance whole with
      | blocked => exact ⟨.refl coherent, works⟩
      | advanced next after =>
          rw [polled] at reached
          exact ⟨reached.1, reached.2⟩

theorem Begins.preceded (step : Step outlines mine before trace)
    (begins : Begins outlines mine fact trace started) :
    Begins outlines mine fact before started :=
  ⟨step.trans begins.step, begins.works⟩

theorem Begins.poll (begins : Begins outlines mine fact before started) :
    Begins outlines mine fact before (started.1.poll started.2) :=
  (begins.works.poll begins.step.coherent).preceded begins.step

/-- What is known of addresses beside those that a completion works at is still
known when it ends. -/
theorem Works.frame
    {known : Trace → Prop} (works : Works outlines mine fact completion trace)
    (narrower : mine ⊆ wider) (beside : aside ⊆ wider)
    (apart : Disjoint mine aside) (lasts : Lasts outlines aside known)
    (knows : known trace) :
    Works outlines wider (fun result trace => fact result trace ∧ known trace)
      completion trace := by
  have outside := Set.compl_subset_compl.mpr narrower
  have outside' := Set.compl_subset_compl.mpr beside
  induction completion using Completion.ind generalizing trace with
  | ready result =>
      exact fun later others =>
        ⟨works later (others.mono outside),
          lasts _ _ (others.mono outside') knows⟩
  | pending advance release ih =>
      intro whole others
      have knows := lasts _ _ (others.mono outside') knows
      refine ⟨?_, (works whole (others.mono outside)).2⟩
      have reached := (works whole (others.mono outside)).1
      cases polled : advance whole with
      | blocked => trivial
      | advanced next after =>
          rw [polled] at reached
          exact ⟨reached.1.mono narrower,
            ih whole next after polled reached.2
              (lasts _ _ (reached.1.others apart) knows)⟩

/-- A completion works whatever its result is mapped to. -/
theorem Works.mapResult
    {fact' : ω → Trace → Prop} (f : ρ → ω)
    (implies : ∀ result trace, fact result trace → fact' (f result) trace)
    (works : Works outlines mine fact completion trace) :
    Works outlines mine fact' (completion.mapResult f) trace := by
  induction completion using Completion.ind generalizing trace with
  | ready result =>
      rw [Completion.mapResult]
      exact fun later others => implies result later (works later others)
  | pending advance release ih =>
      rw [Completion.mapResult]
      intro whole others
      refine ⟨?_, (works whole others).2⟩
      have reached := (works whole others).1
      dsimp only
      cases polled : advance whole with
      | blocked => trivial
      | advanced next after =>
          rw [polled] at reached
          exact ⟨reached.1, ih whole next after polled reached.2⟩

/-- A fact that follows from the one that a completion comes to. -/
theorem Works.mono
    (works : Works outlines mine fact completion trace)
    (implies : ∀ result trace, fact result trace → fact' result trace) :
    Works outlines mine fact' completion trace := by
  induction completion using Completion.ind generalizing trace with
  | ready result =>
      exact fun later others => implies result later (works later others)
  | pending advance release ih =>
      intro whole others
      refine ⟨?_, (works whole others).2⟩
      have reached := (works whole others).1
      cases polled : advance whole with
      | blocked => trivial
      | advanced next after =>
          rw [polled] at reached
          exact ⟨reached.1, ih whole next after polled reached.2⟩

/-- Deeds that are noted at the end. -/
theorem Works.ending
    {write : ρ → Trace → Trace}
    (writes : ∀ result trace, Coherent outlines trace → fact result trace →
      Step outlines mine trace (write result trace) ∧
        fact' result (write result trace))
    (lasts : ∀ result, Lasts outlines mine (fact' result))
    (works : Works outlines mine fact completion whole.2)
    (coherent : Coherent outlines whole.2) :
    Begins outlines mine fact' whole.2
      (completion.ending (fun result whole => (whole.1, write result whole.2))
        id whole) := by
  induction completion using Completion.ind generalizing whole with
  | ready result =>
      rw [Completion.ending]
      rcases writes result whole.2 coherent
        (works whole.2 (.refl coherent)) with ⟨step, holds⟩
      exact ⟨step, works_ready (lasts result) holds⟩
  | pending advance release ih =>
      rw [Completion.ending]
      refine ⟨.refl coherent, fun whole' others =>
        ⟨?_, (works whole' others).2⟩⟩
      have reached := (works whole' others).1
      dsimp only
      cases polled : advance whole' with
      | blocked => trivial
      | advanced next after =>
          rw [polled] at reached
          have ended := ih whole' next after polled reached.2 reached.1.coherent
          exact ⟨(ended.preceded reached.1).step, ended.works⟩

/-- What knows nothing of the trace adds nothing to it. -/
theorem works_alongside
    (completion : Completion σ ρ)
    (lasts : ∀ result, Lasts outlines mine (fact result))
    (holds : ∀ result, fact result trace) :
    Works outlines mine fact (completion.alongside Trace) trace := by
  induction completion using Completion.ind generalizing trace with
  | ready result =>
      rw [Completion.alongside_ready]
      exact works_ready (lasts result) (holds result)
  | pending advance release ih =>
      rw [Completion.alongside_pending]
      intro whole others
      have holds' : ∀ result, fact result whole.2 := fun result =>
        lasts result _ _ others (holds result)
      refine ⟨?_, rfl⟩
      dsimp only
      cases polled : advance whole.1 with
      | blocked => trivial
      | advanced next after =>
          exact ⟨.refl others.coherent, ih whole.1 next after polled holds'⟩

/-- Whoever works at some addresses works at more of them. -/
theorem Works.widen (works : Works outlines mine fact completion trace)
    (narrower : mine ⊆ wider) :
    Works outlines wider fact completion trace := by
  have lasts : Lasts outlines ∅ fun _ => True := fun _ _ _ _ => trivial
  have framed :=
    works.frame narrower (Set.empty_subset wider) (Set.disjoint_empty mine)
      lasts trivial
  exact framed.mono fun _ _ facts => facts.1

section Chains

variable {completion : Completion (σ × Trace) (Except ε α)}
  {next : α → σ × Trace → Completion (σ × Trace) (Except ε β) × (σ × Trace)}
  {fact : Except ε α → Trace → Prop} {fact' : Except ε β → Trace → Prop}
  (continues : ∀ value whole, Coherent outlines whole.2 →
    fact (.ok value) whole.2 →
    Begins outlines mine fact' whole.2 (next value whole))
  (fails : ∀ error trace, fact (.error error) trace →
    fact' (.error error) trace)

include continues fails

/-- A completion is resumed with what begins behind its result. -/
theorem Works.resume
    (works : Works outlines mine fact completion whole.2)
    (coherent : Coherent outlines whole.2) :
    Begins outlines mine fact' whole.2 (completion.resume next whole) := by
  induction completion using Completion.ind generalizing whole with
  | ready result =>
      cases result with
      | error error =>
          rw [Completion.resume]
          exact ⟨.refl coherent, fun later others =>
            fails error later (works later others)⟩
      | ok value =>
          rw [Completion.resume]
          exact
            (continues value whole coherent
              (works whole.2 (.refl coherent))).poll
  | pending advance release ih =>
      rw [Completion.resume]
      refine ⟨.refl coherent, fun whole' others =>
        ⟨?_, (works whole' others).2⟩⟩
      have reached := (works whole' others).1
      dsimp only
      cases polled : advance whole' with
      | blocked => trivial
      | advanced later after =>
          rw [polled] at reached
          rw [Completion.resumePoll]
          have goesOn :=
            ih whole' later after polled reached.2 reached.1.coherent
          exact ⟨(goesOn.preceded reached.1).step, goesOn.works⟩

/-- Two programs in a row begin if the second one begins behind the first. -/
theorem Begins.andThen
    {started : Completion (σ × Trace) (Except ε α) × (σ × Trace)}
    (begins : Begins outlines mine fact before started) :
    Begins outlines mine fact' before (started.1.andThen next started.2) := by
  have coherent := begins.step.coherent
  have works := begins.works
  refine Begins.preceded begins.step ?_
  rcases started with ⟨completion, whole⟩
  match completion with
  | .ready (.ok value) =>
      exact continues value whole coherent (works whole.2 (.refl coherent))
  | .ready (.error error) => exact works.resume continues fails coherent
  | .pending advance release => exact works.resume continues fails coherent

end Chains

/-- One program after the other. -/
theorem Begins.bind
    {program : Program (σ × Trace) α} {next : α → Program (σ × Trace) β}
    {fact : Except EngineError α → Trace → Prop}
    {fact' : Except EngineError β → Trace → Prop}
    (begins : Begins outlines mine fact before (program whole))
    (continues : ∀ value whole, Coherent outlines whole.2 →
      fact (.ok value) whole.2 →
      Begins outlines mine fact' whole.2 (next value whole))
    (fails : ∀ error trace, fact (.error error) trace →
      fact' (.error error) trace) :
    Begins outlines mine fact' before (program.bind next whole) :=
  begins.andThen continues fails

section Joins

open Completion
  (both round round_of_first_failed round_of_second_failed round_of_none_failed
    failing)

variable {combine : α → β → γ} {first : Completion (σ × Trace) (Except ε α)}
  {second : Completion (σ × Trace) (Except ε β)}

/-- A round of two completions: the first one is polled and then, from the trace
it has left, the other. -/
theorem pollWorks_round
    (works : Works outlines mine Anyway first whole.2)
    (works' : Works outlines mine' Anyway second whole.2)
    (apart : Disjoint mine mine') (coherent : Coherent outlines whole.2)
    (goesOn :
      let polled := first.poll whole
      let polled' := second.poll polled.2
      polled'.1.failure? = none →
        (first.rests whole && second.rests polled.2) = false →
        Works outlines mine Anyway polled.1 polled'.2.2 →
          Works outlines mine' Anyway polled'.1 polled'.2.2 →
          Works outlines (mine ∪ mine') Anyway (both combine polled.1 polled'.1)
            polled'.2.2) :
    PollWorks outlines (mine ∪ mine') Anyway (round combine first second whole)
      whole.2 := by
  have left : mine ⊆ mine ∪ mine' := Set.subset_union_left
  have right : mine' ⊆ mine ∪ mine' := Set.subset_union_right
  rcases works.poll coherent with ⟨step, reached⟩
  have waits := works'.later (step.others apart)
  cases met : (first.poll whole).1.failure? with
  | some error =>
      rw [round_of_first_failed met]
      refine ⟨?_, works_ready (lasts_anyway _) trivial⟩
      rw [waits.abandon step.coherent]
      exact step.mono left
  | none =>
      rcases waits.poll step.coherent with ⟨step', reached'⟩
      have stays := reached.later (step'.others apart.symm)
      have both := (step.mono left).trans (step'.mono right)
      cases met' : (second.poll (first.poll whole).2).1.failure? with
      | some error =>
          rw [round_of_second_failed met met']
          refine ⟨?_, works_ready (lasts_anyway _) trivial⟩
          rw [stays.abandon step'.coherent]
          exact both
      | none =>
          rw [round_of_none_failed met met']
          split_ifs with rests
          · trivial
          · rw [Bool.not_eq_true] at rests
            exact ⟨both, goesOn met' rests stays reached'⟩

/-- Completions that are driven together work at addresses of their own. -/
theorem works_both
    (works : Works outlines mine Anyway first trace)
    (works' : Works outlines mine' Anyway second trace)
    (apart : Disjoint mine mine') :
    Works outlines (mine ∪ mine') Anyway (both combine first second) trace := by
  have left : (mine ∪ mine')ᶜ ⊆ mineᶜ :=
    Set.compl_subset_compl.mpr Set.subset_union_left
  have right : (mine ∪ mine')ᶜ ⊆ (mine')ᶜ :=
    Set.compl_subset_compl.mpr Set.subset_union_right
  induction first, second using Completion.ind_rounds generalizing trace with
  | ready result second =>
      cases result with
      | ok value =>
          rw [both]
          exact (works'.mapResult _ fun _ _ _ =>
            trivial).widen Set.subset_union_right
      | error error =>
          rw [both]
          unfold failing
          intro whole others
          have kept :=
            (works'.later (others.mono right)).abandon others.coherent
          refine ⟨⟨?_, works_ready (lasts_anyway _) trivial⟩, kept⟩
          rw [kept]
          exact .refl others.coherent
  | pending advance release second ih =>
      rcases Completion.both_pending combine advance release second with
        ⟨release', rounds⟩
      have released :=
        Completion.abandon_both_pending combine advance release second
      rw [rounds] at released ⊢
      intro whole others
      have here := works.later (others.mono left)
      have here' := works'.later (others.mono right)
      refine ⟨pollWorks_round here here' apart others.coherent
        fun met moved => ih whole met moved, ?_⟩
      rw [show release' whole = _ from released whole]
      have kept : (release whole).2 = whole.2 := here.abandon others.coherent
      rw [← kept] at here'
      exact (here'.abandon (kept ▸ others.coherent)).trans kept

/-- Completions that work at addresses of their own, together at these. -/
inductive AllWork (outlines : Address → Option Outline) (trace : Trace) :
    Set Address → List (Completion (σ × Trace) (Except ε α)) → Prop
  | nil : AllWork outlines trace ∅ []
  | cons {mine mine' : Set Address}
      {completion : Completion (σ × Trace) (Except ε α)}
      {completions : List (Completion (σ × Trace) (Except ε α))}
      (works : Works outlines mine Anyway completion trace)
      (rest : AllWork outlines trace mine' completions)
      (apart : Disjoint mine mine') :
      AllWork outlines trace (mine ∪ mine') (completion :: completions)

variable {completions : List (Completion (σ × Trace) (Except ε α))}

/-- Completions that all work do so together. -/
theorem AllWork.together (allWork : AllWork outlines trace mine completions) :
    Works outlines mine Anyway (Completion.together completions) trace := by
  induction allWork with
  | nil =>
      rw [Completion.together]
      exact works_ready (lasts_anyway _) trivial
  | cons works _ apart ih =>
      rw [Completion.together]
      exact works_both works ih apart

/-- Abandoning completions adds nothing to the trace. -/
theorem AllWork.abandonAll
    (allWork : AllWork outlines whole.2 mine completions)
    (coherent : Coherent outlines whole.2) :
    (Completion.abandonAll completions whole).2 = whole.2 := by
  induction completions generalizing whole mine with
  | nil => rfl
  | cons completion rest ih =>
      cases allWork with
      | cons works others apart =>
          have kept := works.abandon coherent
          rw [← kept] at others coherent
          exact (ih others coherent).trans kept

/-- A join works where its elements do. -/
theorem AllWork.all
    (allWork : AllWork outlines whole.2 mine completions)
    (coherent : Coherent outlines whole.2) :
    Begins outlines mine Anyway whole.2 (Completion.all completions whole) := by
  induction completions generalizing mine with
  | nil => exact begins_ready coherent (lasts_anyway _) trivial
  | cons completion rest ih =>
      have together := allWork.together
      cases allWork with
      | cons works others apart =>
          match completion with
          | .ready (.ok value) =>
              rw [Completion.all]
              have joined := ih others
              exact ⟨joined.step.mono Set.subset_union_right,
                (joined.works.mapResult _ fun _ _ _ =>
                  trivial).widen Set.subset_union_right⟩
          | .ready (.error error) =>
              rw [Completion.all]
              refine ⟨?_, works_ready (lasts_anyway _) trivial⟩
              rw [others.abandonAll coherent]
              exact .refl coherent
          | .pending advance release =>
              rw [Completion.all]
              exact ⟨.refl coherent, together⟩

end Joins

end Trace

end Phrasebook
