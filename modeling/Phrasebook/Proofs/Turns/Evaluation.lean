import Phrasebook.Proofs.Turns.Part

/-!
# Evaluations in turns

The evaluation of an expression at an address works at the addresses inside it.
The induction follows the evaluator: the arguments of a part, each at an address
of its own, are started one after the other and then joined; meanwhile nothing
happens at the address of the expression itself and at the addresses inside its
later parts, so the part can be resolved after that and the next one can begin.
-/

namespace Phrasebook

namespace Trace

/-- The addresses of an expression and of all that is inside it. -/
def inside (address : Address) : Set Address :=
  { inner | address <+: inner }

/-- The addresses inside the arguments of a part, from a number on. -/
def insideArguments (address : Address) (part argument : Nat) : Set Address :=
  { inner | ∃ number, argument ≤ number ∧ ∃ rest,
      inner = address ++ (part, number) :: rest }

/-- The addresses inside the parts of an expression, from an index on. -/
def insideParts (address : Address) (part : Nat) : Set Address :=
  { inner | ∃ index argument, part ≤ index ∧ ∃ rest,
      inner = address ++ (index, argument) :: rest }

/-- Nothing has been done at some addresses. -/
def Fresh (mine : Set Address) (trace : Trace) : Prop :=
  ∀ address ∈ mine, own address trace = []

variable {outlines : Address → Option Outline} {mine mine' : Set Address}
  {address : Address} {part argument : Nat}
  {trace : Trace} {deed : Deed}

theorem mem_inside (address : Address) : address ∈ inside address :=
  List.prefix_refl address

theorem self_notMem_insideParts (address : Address) (part : Nat) :
    address ∉ insideParts address part := by
  rintro ⟨index, argument, -, rest, same⟩
  simp at same

theorem insideParts_subset (address : Address) (part : Nat) :
    insideParts address part ⊆ inside address := by
  rintro _ ⟨index, argument, -, rest, rfl⟩
  exact List.prefix_append address _

theorem insideParts_anti {part' : Nat} (later : part ≤ part') :
    insideParts address part' ⊆ insideParts address part := by
  rintro _ ⟨index, argument, least, inner⟩
  exact ⟨index, argument, later.trans least, inner⟩

theorem insideArguments_subset (address : Address) (part argument : Nat) :
    insideArguments address part argument ⊆ insideParts address part := by
  rintro _ ⟨number, -, rest, rfl⟩
  exact ⟨part, number, le_rfl, rest, rfl⟩

theorem insideArguments_anti {argument' : Nat} (later : argument ≤ argument') :
    insideArguments address part argument' ⊆
      insideArguments address part argument := by
  rintro _ ⟨number, least, inner⟩
  exact ⟨number, later.trans least, inner⟩

theorem inside_argument_subset (address : Address) (part argument : Nat) :
    inside (address ++ [(part, argument)]) ⊆
      insideArguments address part argument := by
  rintro _ ⟨rest, rfl⟩
  exact ⟨argument, le_rfl, rest, by simp⟩

/-- Different arguments have different addresses inside them. -/
theorem disjoint_inside_argument (address : Address) (part argument : Nat) :
    Disjoint (inside (address ++ [(part, argument)]))
      (insideArguments address part (argument + 1)) := by
  rw [Set.disjoint_left]
  rintro _ ⟨rest, rfl⟩ ⟨number, least, rest', same⟩
  simp only [List.append_assoc, List.append_cancel_left_eq, List.cons_append,
    List.nil_append, List.cons.injEq, Prod.mk.injEq] at same
  omega

theorem disjoint_insideArguments (address : Address) (part : Nat) :
    Disjoint (insideArguments address part 0)
      (insert address (insideParts address (part + 1))) := by
  rw [Set.disjoint_left]
  rintro _ ⟨number, -, rest, rfl⟩ (same | ⟨index, argument, least, rest', same⟩)
  · simp at same
  · simp only [List.append_cancel_left_eq, List.cons.injEq, Prod.mk.injEq]
      at same
    omega

/-- Neither an expression nor what is inside the arguments of one of its parts
is inside its later parts. -/
theorem disjoint_insideParts (address : Address) (part : Nat) :
    Disjoint (insert address (insideArguments address part 0))
      (insideParts address (part + 1)) := by
  rw [Set.disjoint_insert_left]
  exact ⟨self_notMem_insideParts address (part + 1),
    (Set.disjoint_insert_right.mp (disjoint_insideArguments address part)).2⟩

theorem self_notMem_insideArguments (address : Address) (part argument : Nat) :
    address ∉ insideArguments address part argument :=
  fun member =>
    self_notMem_insideParts address part
      (insideArguments_subset address part argument member)

theorem Fresh.mono (fresh : Fresh mine trace) (fewer : mine' ⊆ mine) :
    Fresh mine' trace :=
  fun address member => fresh address (fewer member)

theorem lasts_fresh
    (mine : Set Address) : Lasts outlines mine (Fresh mine) := by
  intro before after step fresh address member
  rw [step.elsewhere address (Set.notMem_compl_iff.mpr member)]
  exact fresh address member

theorem Fresh.note (fresh : Fresh mine trace) (outside : address ∉ mine) :
    Fresh mine (note address deed trace) := by
  intro other member
  rw [own_note_of_ne (by rintro rfl; exact outside member)]
  exact fresh other member

/-- An argument that has just been started is entered. -/
theorem entered_started
    (address : Address) (part argument : Nat) (trace : Trace) :
    Entered (address ++ [(part, argument)])
      (note address (.started part argument) trace) := by
  intro parent part' argument' same
  rcases List.append_inj' same rfl with ⟨rfl, ⟨⟩⟩
  exact List.mem_append_right _ (List.mem_singleton_self _)

end Trace

open Trace

namespace Evaluator

/-- The outlines of an expression and of all that is inside it. -/
def outlines (evaluator : Evaluator) (root : Expression) (address : Address) :
    Option Outline :=
  (root.at? address).map evaluator.outline

namespace Traced

variable {evaluator : Evaluator} {root expression : Expression}
  {address : Address} {index : Nat}

/-- A part can begin: no argument of it has been started, and nothing has been
done inside it and the later ones. -/
structure PartReady (evaluator : Evaluator) (root expression : Expression)
    (address : Address) (index : Nat)
    (trace : Trace) : Prop where
  at' : At (evaluator.outlines root) address (evaluator.outline expression)
    (.arguments index 0) trace
  fresh : Fresh (insideParts address index) trace

/-- The arguments of a part are there. -/
structure ArgumentsReady (evaluator : Evaluator) (root expression : Expression)
    (address : Address) (index : Nat)
    (trace : Trace) : Prop where
  at' : At (evaluator.outlines root) address (evaluator.outline expression)
    (.arguments index ((evaluator.outline expression).arguments index)) trace
  fresh : Fresh (insideParts address (index + 1)) trace

/-- The next part can begin, if the result is something found and there is a
next part. -/
def NextReady (evaluator : Evaluator) (root expression : Expression)
    (address : Address) (index : Nat)
    (settled : Settled) (trace : Trace) : Prop :=
  settled.isNotFound = false → index + 1 < expression.parts.length →
    PartReady evaluator root expression address (index + 1) trace

/-- An argument of a part can be started, and nothing has been done inside it
and the later ones. -/
structure ArgumentReady
    (evaluator : Evaluator) (root expression : Expression) (address : Address)
    (index argument : Nat) (trace : Trace) : Prop where
  at' : At (evaluator.outlines root) address (evaluator.outline expression)
    (.arguments index argument) trace
  fresh : Fresh (insideArguments address index argument) trace

/-- The arguments of a part have been started, those from a number on since a
trace; they work at the addresses inside them. -/
def AllLaunched (evaluator : Evaluator) (root expression : Expression)
    (address : Address) (index argument : Nat) (before : Trace)
    (started : List (Evaluation (Scene × Trace) Json) × (Scene × Trace)) :
    Prop :=
  ∃ mine ⊆ insideArguments address index argument,
    Step (evaluator.outlines root)
        (insert address (insideArguments address index argument)) before
        started.2.2 ∧
      AllWork (evaluator.outlines root) started.2.2 mine started.1 ∧
        At (evaluator.outlines root) address (evaluator.outline expression)
          (.arguments index ((evaluator.outline expression).arguments index))
            started.2.2

/-- The readiness of arguments lasts while others work elsewhere. -/
theorem lasts_argumentsReady :
    Lasts (evaluator.outlines root)
      (insert address (insideParts address (index + 1)))
      (ArgumentsReady evaluator root expression address index) := by
  intro before after step ready
  have self := Set.mem_insert address (insideParts address (index + 1))
  refine ⟨lasts_at self _ _ before after step ready.at',
    lasts_fresh _ before after (step.mono ?_) ready.fresh⟩
  exact Set.compl_subset_compl.mpr (Set.subset_insert _ _)

/-- The readiness of a part lasts while others work elsewhere. -/
theorem lasts_partReady :
    Lasts (evaluator.outlines root) (inside address)
      (PartReady evaluator root expression address index) := by
  intro before after step ready
  refine ⟨lasts_at (mem_inside address) _ _ before after step ready.at',
    lasts_fresh _ before after (step.mono ?_) ready.fresh⟩
  exact Set.compl_subset_compl.mpr (insideParts_subset address index)

theorem lasts_nextReady (settled : Settled) :
    Lasts (evaluator.outlines root) (inside address)
      (NextReady evaluator root expression address index settled) :=
  fun before after step next found more =>
    lasts_partReady before after step (next found more)

/-- An argument is started, and then the ones after it. -/
theorem AllLaunched.cons
    {argument : Nat} {program : Program (Scene × Trace) Json}
    {programs : List (Program (Scene × Trace) Json)} {whole : Scene × Trace}
    (more : argument < (evaluator.outline expression).arguments index)
    (ready :
      ArgumentReady evaluator root expression address index argument whole.2)
    (begins :
      let entered := note address (.started index argument) whole.2
      Coherent (evaluator.outlines root) entered →
        Fresh (inside (address ++ [(index, argument)])) entered →
        Begins (evaluator.outlines root)
          (inside (address ++ [(index, argument)])) Anyway entered
          (program (whole.1, entered)))
    (launches : ∀ whole,
      ArgumentReady evaluator root expression address index
        (argument + 1) whole.2 →
      AllLaunched evaluator root expression address index (argument + 1) whole.2
        (Program.startEach programs whole)) :
    AllLaunched evaluator root expression address index argument whole.2
      (Program.startEach
        (program.preceded (note address (.started index argument)) :: programs)
        whole) := by
  have moves : (evaluator.outline expression).Moves (.arguments index argument)
      (.started index argument)
      (.arguments index (argument + 1)) := .start more
  have outside := self_notMem_insideArguments address index argument
  have narrow := inside_argument_subset address index argument
  have apart := disjoint_inside_argument address index argument
  have anti : insideArguments address index (argument + 1) ⊆
      insideArguments address index argument :=
    insideArguments_anti (Nat.le_succ argument)
  have noted :=
    ready.at'.step moves
      (Set.mem_insert address (insideArguments address index argument))
  have untouched : Fresh _ (note address (.started index argument) whole.2) :=
    ready.fresh.note outside
  have begun := begins noted.coherent (untouched.mono narrow)
  have elsewhere :
      Disjoint (inside (address ++ [(index, argument)])) {address} :=
    Set.disjoint_singleton_right.mpr fun member => outside (narrow member)
  -- Neither the expression nor the later arguments have been touched by this
  -- one.
  have next : ArgumentReady evaluator root expression address index
      (argument + 1) _ :=
    ⟨lasts_at (Set.mem_singleton address) _ _ _ _ (begun.step.others elsewhere)
      (ready.at'.note moves),
      lasts_fresh _ _ _ (begun.step.others apart) (untouched.mono anti)⟩
  rcases launches _ next with ⟨mine, narrower, step, allWork, last⟩
  have works := begun.works.later (step.others (Set.disjoint_insert_left.mpr
    ⟨fun member => outside (narrow member), apart.symm⟩))
  refine ⟨_, Set.union_subset narrow (narrower.trans anti), ?_,
    .cons works allWork (apart.mono_right narrower), last⟩
  exact
    (noted.trans (begun.step.mono (narrow.trans (Set.subset_insert _ _)))).trans
    (step.mono (Set.insert_subset_insert anti))

/-- Once all arguments of a part have been started, they are joined; a failure
of one of them is one of the part. -/
theorem join_begins
    {programs : List (Program (Scene × Trace) Json)} {whole : Scene × Trace}
    {mine : Set Address} (narrower : mine ⊆ insideArguments address index 0)
    (step : Step (evaluator.outlines root) (inside address) whole.2
      (Program.startEach programs whole).2.2)
    (allWork : AllWork (evaluator.outlines root)
      (Program.startEach programs whole).2.2 mine
      (Program.startEach programs whole).1)
    (ready : ArgumentsReady evaluator root expression address index
      (Program.startEach programs whole).2.2) :
    Begins (evaluator.outlines root) (inside address)
      (OnSuccess fun _ =>
        ArgumentsReady evaluator root expression address index) whole.2
      ((Program.joinEach programs).noting (noteFailure address index)
        whole) := by
  have self := mem_inside address
  have joined := allWork.all step.coherent
  have aside : insert address (insideParts address (index + 1)) ⊆
      inside address :=
    Set.insert_subset self (insideParts_subset address (index + 1))
  have wider : mine ⊆ inside address :=
    narrower.trans
      ((insideArguments_subset address index 0).trans
        (insideParts_subset address index))
  have apart :
      Disjoint mine (insert address (insideParts address (index + 1))) :=
    (disjoint_insideArguments address index).mono_left narrower
  have ready' := lasts_argumentsReady _ _ (joined.step.others apart) ready
  have works := joined.works.frame wider aside apart lasts_argumentsReady ready'
  have joinStep := step.trans (joined.step.mono wider)
  refine Begins.preceded joinStep
    (works.ending (fun result trace coherent facts => ?_) (fun result => ?_)
    joinStep.coherent)
  · cases result with
    | ok values => exact ⟨.refl coherent, fun _ _ => facts.2⟩
    | error error =>
        have settles : (evaluator.outline expression).Settles _ index .failed :=
          .argument index
        exact ⟨facts.2.at'.step (.finish settles nofun) self, nofun⟩
  · refine lasts_onSuccess (fun _ before after step ready => ?_) result
    exact lasts_argumentsReady before after
      (step.mono (Set.compl_subset_compl.mpr aside)) ready

/-- A part is resolved and settles. -/
theorem part_begins
    (scopes : List (Dictionary Json)) (part : Part) (values : List Json)
    {base : Option Json}
    (first : base = none ↔ index = 0) (whole : Scene × Trace)
    (ready : ArgumentsReady evaluator root expression address index whole.2) :
    Begins (evaluator.outlines root) (inside address)
      (OnSuccess (NextReady evaluator root expression address index)) whole.2
      ((resolvePart evaluator expression address index scopes part values
        base).noting
        (noteSettled address index) whole) := by
  have self := mem_inside address
  have later := insideParts_subset address (index + 1)
  have resolved := resolvePart_begins scopes part values first whole ready.at'
  have narrower : {address} ⊆ inside address :=
    Set.singleton_subset_iff.mpr self
  have apart : Disjoint {address} (insideParts address (index + 1)) :=
    Set.disjoint_singleton_left.mpr
      (self_notMem_insideParts address (index + 1))
  have fresh := lasts_fresh _ _ _ (resolved.step.others apart) ready.fresh
  have works := resolved.works.frame narrower later apart (lasts_fresh _) fresh
  have step := resolved.step.mono narrower
  refine Begins.preceded step (works.ending (fun result trace _ facts => ?_)
    (lasts_onSuccess lasts_nextReady) step.coherent)
  rcases facts with ⟨⟨phase, at', settles⟩, fresh⟩
  by_cases goesOn : Outcome.of result = .found ∧
    index + 1 < expression.parts.length
  · rw [goesOn.1] at settles
    rw [noteSettled, goesOn.1]
    have moves := Outline.Moves.goOn settles goesOn.2
    exact ⟨at'.step moves self, fun _ _ _ _ =>
      ⟨at'.note moves,
        fresh.note (self_notMem_insideParts address (index + 1))⟩⟩
  · have moves := Outline.Moves.finish settles fun found =>
      not_lt.mp fun more => goesOn ⟨found, more⟩
    refine ⟨at'.step moves self, ?_⟩
    rintro settled rfl found more
    refine (goesOn ⟨?_, more⟩).elim
    simp [Outcome.of, found]

mutual

/-- The evaluation of an expression at an address where nothing has been done
works at the addresses inside it. -/
theorem evaluate_begins
    (scopes : List (Dictionary Json)) (address : Address)
    (expression : Expression)
    (here : root.at? address = some expression) (whole : Scene × Trace)
    (coherent : Coherent (evaluator.outlines root) whole.2)
    (entered : Entered address whole.2)
    (fresh : Fresh (inside address) whole.2) :
    Begins (evaluator.outlines root) (inside address) Anyway whole.2
      (evaluate evaluator scopes address expression whole) := by
  match expression with
  | .mk qualifier parts constant origin =>
      rw [evaluate]
      cases (Expression.mk qualifier parts constant origin).literalValue? with
      | some value => exact begins_ready coherent (lasts_anyway _) trivial
      | none =>
          have start : At (evaluator.outlines root) address
              (evaluator.outline (.mk qualifier parts constant origin))
              (.arguments 0 0) whole.2 := by
            refine ⟨by rw [outlines, here]; rfl, coherent, entered, ?_⟩
            rw [fresh address (mem_inside address)]
            exact .nil
          exact evaluateParts_begins scopes address
            (.mk qualifier parts constant origin) here [] parts rfl none
            (iff_of_true rfl rfl) whole ⟨start,
              fresh.mono (insideParts_subset address 0)⟩
termination_by structural expression

/-- The parts of an expression begin in order, with the right turns. -/
theorem evaluateParts_begins
    (scopes : List (Dictionary Json)) (address : Address)
    (expression : Expression) (here : root.at? address = some expression)
    (passed parts : List Part) (split : expression.parts = passed ++ parts)
    (base : Option Json) (first : base = none ↔ passed.length = 0)
    (whole : Scene × Trace)
    (ready :
      PartReady evaluator root expression address passed.length whole.2) :
    Begins (evaluator.outlines root) (inside address) Anyway whole.2
      (evaluateParts evaluator scopes address expression base passed.length
        parts whole) := by
  match parts with
  | [] =>
      rw [evaluateParts]
      exact begins_ready ready.at'.coherent (lasts_anyway _) trivial
  | part :: rest =>
      rw [evaluateParts]
      have arguments : Begins (evaluator.outlines root) (inside address)
          (OnSuccess fun _ =>
            ArgumentsReady evaluator root expression address passed.length)
            whole.2
          ((Program.joinEach
            (argumentPrograms evaluator scopes address passed.length
              part)).noting
            (noteFailure address passed.length) whole) :=
        arguments_begin scopes address expression here passed part rest
          split whole ready
      refine arguments.bind (fun values whole _ ready => ?_) fun _ _ _ =>
        trivial
      refine (part_begins scopes part values first whole
        (ready values rfl)).bind
        (fun settled whole coherent next => ?_) fun _ _ _ => trivial
      split_ifs with ends
      · exact begins_ready coherent (lasts_anyway _) trivial
      · rw [Bool.or_eq_true, not_or, Bool.not_eq_true, List.isEmpty_iff] at ends
        have more : passed.length + 1 < expression.parts.length := by
          have := List.length_pos_iff.mpr ends.2
          rw [split, List.length_append, List.length_cons]
          omega
        have ready := next settled rfl ends.1 more
        have goesOn :=
          evaluateParts_begins scopes address expression here
            (passed ++ [part]) rest (by simp [split])
          (some settled.toValue) (by simp) whole
        rw [List.length_append, List.length_singleton] at goesOn
        exact goesOn ready
termination_by structural parts

/-- The arguments of a part begin in order, each at its own address. -/
theorem arguments_begin
    (scopes : List (Dictionary Json)) (address : Address)
    (expression : Expression) (here : root.at? address = some expression)
    (passed : List Part) (part : Part) (rest : List Part)
    (split : expression.parts = passed ++ part :: rest) (whole : Scene × Trace)
    (ready :
      PartReady evaluator root expression address passed.length whole.2) :
    Begins (evaluator.outlines root) (inside address)
      (OnSuccess fun _ =>
        ArgumentsReady evaluator root expression address passed.length) whole.2
      ((Program.joinEach
        (argumentPrograms evaluator scopes address passed.length part)).noting
        (noteFailure address passed.length) whole) := by
  have count : (evaluator.outline expression).arguments passed.length =
      part.arguments.length := by
    simp [outline, split]
  have started :
      AllLaunched evaluator root expression address passed.length 0 whole.2
      (Program.startEach
          (argumentPrograms evaluator scopes address passed.length part)
          whole) := by
    match part with
    | .property _ =>
        rw [argumentPrograms]
        exact ⟨∅, Set.empty_subset _, .refl ready.at'.coherent,
          .nil, by rw [count]; exact ready.at'⟩
    | .method _ arguments =>
        rw [argumentPrograms]
        refine evaluateAll_begin scopes address expression passed.length 0
          arguments (fun number inner found => ?_)
          ((Nat.zero_add _).trans count.symm) whole
          ⟨ready.at', ready.fresh.mono (insideArguments_subset _ _ _)⟩
        rw [Expression.at?_append, here, Nat.zero_add]
        simp [Expression.at?, split, Part.arguments, found]
  rcases started with ⟨mine, narrower, step, allWork, at'⟩
  have fresh :=
    lasts_fresh _ _ _ (step.others (disjoint_insideParts address passed.length))
      (ready.fresh.mono (insideParts_anti (Nat.le_succ _)))
  refine join_begins narrower (step.mono ?_) allWork ⟨at', fresh⟩
  exact Set.insert_subset (mem_inside address)
    ((insideArguments_subset _ _ _).trans (insideParts_subset _ _))
termination_by structural part

/-- Expressions that are evaluated together begin at addresses of their own. -/
theorem evaluateAll_begin
    (scopes : List (Dictionary Json)) (address : Address)
    (expression : Expression) (index argument : Nat)
    (expressions : List Expression)
    (members : ∀ number inner, expressions[number]? = some inner →
      root.at? (address ++ [(index, argument + number)]) = some inner)
    (count : argument + expressions.length =
      (evaluator.outline expression).arguments index)
    (whole : Scene × Trace)
    (ready :
      ArgumentReady evaluator root expression address index argument whole.2) :
    AllLaunched evaluator root expression address index argument whole.2
      (Program.startEach
        (evaluateAll evaluator scopes address index argument expressions)
        whole) := by
  match expressions with
  | [] =>
      rw [evaluateAll]
      rw [List.length_nil, Nat.add_zero] at count
      exact ⟨∅, Set.empty_subset _, .refl ready.at'.coherent, .nil,
        count ▸ ready.at'⟩
  | inner :: rest =>
      rw [evaluateAll]
      rw [List.length_cons] at count
      refine .cons (by omega) ready (fun coherent fresh =>
        ?_) fun whole ready => ?_
      · have begun :=
          evaluate_begins scopes (address ++ [(index, argument)]) inner
            (members 0 inner rfl)
          (whole.1, note address (.started index argument) whole.2) coherent
          (entered_started address index argument whole.2) fresh
        exact ⟨begun.step,
          begun.works.mapResult (Except.map Settled.toValue) fun _ _ _ =>
            trivial⟩
      · refine evaluateAll_begin scopes address expression index
          (argument + 1) rest (fun number later found => ?_)
          (by omega) whole ready
        have there := members (number + 1) later found
        rwa [Nat.add_comm number, ← Nat.add_assoc] at there
termination_by structural expressions

end

end Traced

end Evaluator

end Phrasebook
