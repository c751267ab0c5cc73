import Phrasebook.Proofs.Turns.Footing
import Phrasebook.Proofs.Turns.Tracing

/-!
# The turns of one part

The deeds for one part of an expression come in the phases that its outline
allows.  The resolvers of a chain are asked one after the other, each from the
position where the turn has come to; and a lookup goes through the scopes,
asking the whole chain at each of them, before it goes outwards.  In the end the
part can settle as its result says.
-/

namespace Phrasebook

open Trace

namespace Evaluator

/-- The outline of an expression. -/
def outline (evaluator : Evaluator) (expression : Expression) : Outline where
  parts := expression.parts.length
  arguments part := (expression.parts[part]?).elim 0 fun found =>
    found.arguments.length
  chain part :=
    match part, expression.qualifier with
    | 0, some qualifier => (evaluator.engine.namespaces.get? qualifier).getD []
    | _, _ => evaluator.engine.resolvers

variable {evaluator : Evaluator} {expression : Expression}

theorem chain_unqualified
    (unqualified : expression.qualifier = none) (index : Nat) :
    (evaluator.outline expression).chain index =
      evaluator.engine.resolvers := by
  simp [outline, unqualified]

theorem chain_qualified
    {qualifier : String} (qualified : expression.qualifier = some qualifier) :
    (evaluator.outline expression).chain 0 =
      (evaluator.engine.namespaces.get? qualifier).getD [] := by
  simp [outline, qualified]

theorem chain_later {index : Nat} (later : index ≠ 0) :
    (evaluator.outline expression).chain index =
      evaluator.engine.resolvers := by
  cases index with
  | zero => exact (later rfl).elim
  | succ index => rfl

end Evaluator

namespace Trace

variable {outlines : Address → Option Outline} {address : Address}
  {outline : Outline} {phase phase' : Phase}
  {trace : Trace} {deed : Deed} {mine : Set Address}

/-- The evaluation of the expression at an address has got to a phase. -/
structure At (outlines : Address → Option Outline) (address : Address)
    (outline : Outline) (phase : Phase)
    (trace : Trace) : Prop where
  here : outlines address = some outline
  coherent : Coherent outlines trace
  entered : Entered address trace
  reaches : outline.Reaches (own address trace) phase

theorem Entered.mono {later : Trace} (entered : Entered address trace)
    (grows : trace <+: later) :
    Entered address later :=
  fun parent part argument same =>
    grows.subset (entered parent part argument same)

/-- What others do leaves the phase as it is. -/
theorem lasts_at (member : address ∈ mine) (outline : Outline) (phase : Phase) :
    Lasts outlines mine (At outlines address outline phase) := by
  intro before after step at'
  refine ⟨at'.here, step.coherent, at'.entered.mono step.grows, ?_⟩
  rw [step.elsewhere address (Set.notMem_compl_iff.mpr member)]
  exact at'.reaches

theorem At.note (at' : At outlines address outline phase trace)
    (moves : outline.Moves phase deed phase') :
    At outlines address outline phase' (note address deed trace) where
  here := at'.here
  coherent := at'.coherent.note at'.here at'.reaches moves at'.entered
  entered := at'.entered.mono (List.prefix_append trace _)
  reaches := by
    rw [own_note_self]
    exact at'.reaches.snoc moves

/-- A permitted deed at an address of one's own is a step. -/
theorem At.step
    (at' : At outlines address outline phase trace)
    (moves : outline.Moves phase deed phase') (member : address ∈ mine) :
    Step outlines mine trace (Trace.note address deed trace) where
  coherent := (at'.note moves).coherent
  grows := List.prefix_append trace _
  elsewhere := by
    intro other outside
    refine own_note_of_ne ?_
    rintro rfl
    exact outside member

/-- A program that is preceded by a deed. -/
theorem At.preceded
    {σ α : Type} {program : Program (σ × Trace) α}
    {fact : Except EngineError α → Trace → Prop}
    {whole : σ × Trace} (at' : At outlines address outline phase whole.2)
    (moves : outline.Moves phase deed phase') (member : address ∈ mine)
    (goesOn : ∀ whole : σ × Trace, At outlines address outline phase' whole.2 →
      Begins outlines mine fact whole.2 (program whole)) :
    Begins outlines mine fact whole.2
      (program.preceded (Trace.note address deed) whole) :=
  (goesOn (whole.1, Trace.note address deed whole.2) (at'.note moves)).preceded
    (at'.step moves member)

end Trace

namespace Evaluator

namespace Traced

variable {outlines : Address → Option Outline} {evaluator : Evaluator}
  {expression : Expression}
  {address : Address} {index level : Nat} {outline : Outline} {phase : Phase}
  {whole : Scene × Trace}

/-- The phase in which a chain has been asked. -/
def askedPhase (outline : Outline) (index level : Nat) : Outcome → Phase
  | .notFound => .turn index level (outline.chain index).length
  | outcome => .answered index outcome

/-- A chain that has been asked settles the part, or the next level does. -/
theorem settles_askedPhase
    (outline : Outline) (index level : Nat) (outcome : Outcome) :
    outline.Settles (askedPhase outline index level outcome) index outcome := by
  cases outcome with
  | notFound => exact .exhausted index level
  | found => exact .answered index .found
  | failed => exact .answered index .failed

/-- The phase after an answer. -/
def answeredPhase (index level position : Nat) : Outcome → Phase
  | .notFound => .turn index level (position + 1)
  | outcome => .answered index outcome

/-- The answer of a resolver moves the part on to its phase. -/
theorem moves_answered
    (outline : Outline) (index level position : Nat) (outcome : Outcome) :
    outline.Moves (.asking index level position)
      (.answered index level position outcome)
      (answeredPhase index level position outcome) := by
  cases outcome with
  | notFound => exact .pass index level position
  | found => exact .answer index level position nofun
  | failed => exact .answer index level position nofun

/-- The chain has been asked, with a result. -/
def Asked (outlines : Address → Option Outline) (address : Address)
    (outline : Outline) (index level : Nat)
    (result : Except EngineError Settled) (trace : Trace) : Prop :=
  At outlines address outline
    (askedPhase outline index level (.of result)) trace

/-- The part can settle as a result says. -/
def CanSettle (outlines : Address → Option Outline) (address : Address)
    (outline : Outline) (index : Nat)
    (result : Except EngineError Settled) (trace : Trace) : Prop :=
  ∃ phase, At outlines address outline phase trace ∧
    outline.Settles phase index (.of result)

theorem lasts_canSettle (result : Except EngineError Settled) :
    Lasts outlines {address}
      (CanSettle outlines address outline index result) := by
  rintro before after step ⟨phase, at', settles⟩
  exact ⟨phase,
    lasts_at (Set.mem_singleton address) outline phase before after step at',
      settles⟩

/-- An answer is settled, and how it settled is written down. -/
theorem answer_begins
    (answer : Resolved Scene) {position : Nat} (whole : Scene × Trace)
    (asking :
      At outlines address outline (.asking index level position) whole.2) :
    Begins outlines {address}
      (fun result =>
        At outlines address outline
          (answeredPhase index level position (.of result))) whole.2
      (((settling evaluator expression answer).alongside Trace).noting
        (noteAnswer address index level position)
        whole) := by
  have mine : address ∈ ({address} : Set Address) := Set.mem_singleton address
  have works : Works outlines {address}
      (fun _ : Except EngineError Settled =>
        At outlines address outline (.asking index level position))
      ((settling evaluator expression answer whole.1).1.alongside Trace)
          whole.2 :=
    works_alongside _ (fun _ => lasts_at mine outline _) fun _ => asking
  refine Works.ending (fun result trace _ asking => ?_) (fun result =>
    lasts_at mine outline _) works
    asking.coherent
  have moves := moves_answered outline index level position (.of result)
  exact ⟨asking.step moves mine, asking.note moves⟩

/-- A chain is asked in turn, from the resolver whose turn it is. -/
theorem ask_begins
    (request : Request) {passed chain : Chain}
    (split : outline.chain index = passed ++ chain) (whole : Scene × Trace)
    (at' :
      At outlines address outline (.turn index level passed.length) whole.2) :
    Begins outlines {address}
      (Asked outlines address outline index level) whole.2
      (ask evaluator expression address index level request chain passed.length
        whole) := by
  have mine : address ∈ ({address} : Set Address) := Set.mem_singleton address
  induction chain generalizing passed whole with
  | nil =>
      rw [List.append_nil] at split
      rw [← split] at at'
      exact begins_ready at'.coherent (lasts_at mine outline _) at'
  | cons resolver rest ih =>
      have here : (outline.chain index)[passed.length]? = some resolver := by
        simp [split]
      have next : ∀ whole : Scene × Trace,
          At outlines address outline (.turn index level (passed.length + 1))
            whole.2 →
            Begins outlines {address}
              (Asked outlines address outline index level) whole.2
              (ask evaluator expression address index level request rest
                  (passed.length + 1) whole) := by
        have goesOn := @ih (passed ++ [resolver]) (by simp [split])
        rw [List.length_append, List.length_singleton] at goesOn
        exact goesOn
      unfold ask
      split_ifs with applies
      · refine at'.preceded (.ask level here) mine fun whole asking => ?_
        generalize resolver.resolve request whole.1 = said
        rcases said with ⟨_ | answer, scene⟩
        · have asking' :
              At outlines address outline (.asking index level passed.length)
              ((scene, whole.2) : Scene × Trace).2 := asking
          exact asking'.preceded (.decline index level passed.length) mine next
        · refine (answer_begins answer (scene, whole.2) asking).bind
            (fun settled whole _ answered => ?_)
            fun _ _ answered => answered
          cases found : settled.isNotFound with
          | true =>
              simp only [Outcome.of, found, if_true] at answered ⊢
              exact next whole answered
          | false =>
              simp only [Outcome.of, found, Bool.false_eq_true, if_false]
                at answered ⊢
              have asked : At outlines address outline
                  (askedPhase outline index level .found) whole.2 := answered
              refine begins_ready answered.coherent (lasts_at mine outline _) ?_
              simpa only [Asked, Outcome.of, found, Bool.false_eq_true,
                if_false] using asked
      · have more : passed.length < (outline.chain index).length :=
          (List.getElem?_eq_some_iff.mp here).1
        exact at'.preceded (.skip level more) mine next

/-- A chain is asked from the start. -/
theorem askAll_begins
    (evaluator : Evaluator) (expression : Expression) (request : Request)
    (whole : Scene × Trace)
    (at' : At outlines address outline (.turn index level 0) whole.2) :
    Begins outlines {address}
      (Asked outlines address outline index level) whole.2
      (ask evaluator expression address index level request
        (outline.chain index) 0 whole) :=
  ask_begins request (List.nil_append (outline.chain index)).symm whole at'

theorem asked_canSettle
    {result : Except EngineError Settled} {trace : Trace}
    (asked : Asked outlines address outline index level result trace) :
    CanSettle outlines address outline index result trace :=
  ⟨_, asked, settles_askedPhase outline index level _⟩

/-- At the beginning of a level a part can settle to anything. -/
theorem at_canSettle
    {trace : Trace}
    (at' : At outlines address outline (.turn index level 0) trace)
    (result : Except EngineError Settled) :
    CanSettle outlines address outline index result trace :=
  ⟨_, at', .binding index level _⟩

/-- The lookup through the scopes goes level by level, each asking its chain. -/
theorem lookupScopes_begins
    (part : Part) (arguments : List Json) (scopes : List (Dictionary Json))
    (chain : outline.chain index = evaluator.engine.resolvers)
    (whole : Scene × Trace) (at' : At outlines address outline phase whole.2)
    (moves :
      outline.Moves phase (.searched index level) (.turn index level 0)) :
    Begins outlines {address} (CanSettle outlines address outline index) whole.2
      (lookupScopes evaluator expression address index part arguments level
        scopes whole) := by
  have mine : address ∈ ({address} : Set Address) := Set.mem_singleton address
  induction scopes generalizing level phase whole with
  | nil =>
      unfold lookupScopes
      refine at'.preceded moves mine fun whole turn => ?_
      dsimp only
      generalize (if part.isMethod then none else whole.1.data.get? part.name) =
        found
      generalize (if part.isMethod then none else whole.1.data.cell?
        part.name) = computed
      cases found with
      | some value =>
          exact begins_ready turn.coherent (lasts_canSettle _)
            (at_canSettle turn _)
      | none =>
          cases computed with
          | some cell =>
              exact ⟨.refl turn.coherent,
                works_alongside _ lasts_canSettle (at_canSettle turn)⟩
          | none =>
              have asked := askAll_begins evaluator expression
                (evaluator.request part arguments .null true) whole turn
              rw [chain] at asked
              exact ⟨asked.step, asked.works.mono fun _ _ => asked_canSettle⟩
  | cons bindings outer ih =>
      unfold lookupScopes
      refine at'.preceded moves mine fun whole turn => ?_
      cases absent :
          (if part.isMethod then none else bindings.get? part.name) with
      | some value =>
          exact begins_ready turn.coherent (lasts_canSettle _)
            (at_canSettle turn _)
      | none =>
          have asked := askAll_begins evaluator expression
            (evaluator.request part arguments (.object bindings) true)
              whole turn
          rw [chain] at asked
          refine asked.bind (fun settled whole _ asked => ?_) fun _ _ =>
            asked_canSettle
          cases found : settled.isNotFound with
          | true =>
              simp only [Asked, Outcome.of, found, if_true] at asked ⊢
              exact ih whole asked (.outward index level)
          | false =>
              simp only [Bool.false_eq_true, if_false]
              exact begins_ready asked.coherent (lasts_canSettle _)
                (asked_canSettle asked)

/-- A part is resolved once all its arguments have been started. -/
theorem resolvePart_begins
    (scopes : List (Dictionary Json)) (part : Part) (arguments : List Json)
    {base : Option Json}
    (first : base = none ↔ index = 0) (whole : Scene × Trace)
    (at' : At outlines address (evaluator.outline expression)
      (.arguments index ((evaluator.outline expression).arguments index))
        whole.2) :
    Begins outlines {address}
      (CanSettle outlines address (evaluator.outline expression) index) whole.2
      (resolvePart evaluator expression address index scopes part arguments base
        whole) := by
  have mine : address ∈ ({address} : Set Address) := Set.mem_singleton address
  have search : (evaluator.outline expression).Moves _ (.searched index 0)
      (.turn index 0 0) := .search index
  unfold resolvePart
  cases base with
  | some base =>
      have later : index ≠ 0 := fun same => nomatch first.mpr same
      refine at'.preceded search mine fun whole turn => ?_
      have asked :=
        askAll_begins evaluator expression
          (evaluator.request part arguments base false) whole turn
      rw [chain_later later] at asked
      exact ⟨asked.step, asked.works.mono fun _ _ => asked_canSettle⟩
  | none =>
      obtain rfl : index = 0 := first.mp rfl
      cases qualified : expression.qualifier with
      | none =>
          exact lookupScopes_begins part arguments scopes
            (chain_unqualified qualified 0) whole at' search
      | some qualifier =>
          refine at'.preceded search mine fun whole turn => ?_
          cases found : evaluator.engine.namespaces.get? qualifier with
          | none =>
              exact ⟨.refl turn.coherent,
                works_alongside _ lasts_canSettle (at_canSettle turn)⟩
          | some chain =>
              have asked :=
                askAll_begins evaluator expression
                  (evaluator.request part arguments .null true) whole turn
              rw [chain_qualified qualified, found, Option.getD_some] at asked
              exact ⟨asked.step, asked.works.mono fun _ _ => asked_canSettle⟩

end Traced

end Evaluator

end Phrasebook
