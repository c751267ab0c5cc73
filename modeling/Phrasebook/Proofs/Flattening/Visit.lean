import Phrasebook.Proofs.Flattening.Layer

/-!
# The polls of a flattening

To see which handles of an answer are polled, every handle in it is replaced by
one that writes down each of its polls: at which layer it stands, and whether
the poll found its answer.  What flattening such an answer writes down is then
compared with the layers that are stripped: layer after layer, the polls of each
handle up to the one that finds its answer, and nothing else.  So no handle is
polled again after its end, none before it is its turn, and none that is inside
a failure or is not allowed.
-/

namespace Phrasebook

namespace Resolved

/-- A poll of a handle: the number of layers around it, and whether its answer
was found. -/
structure Visit where
  depth : Nat
  found : Bool
  deriving DecidableEq, Repr

variable {σ : Type}

mutual

/-- The same answer inside a number of layers, with handles that write down
their polls. -/
def observed (depth : Nat) : Resolved σ → Resolved (σ × List Visit)
  | .value found => .value found
  | .notFound => .notFound
  | .node result => .node result
  | .failed cause => .failed cause
  | .completed inner => .completed (observed (depth + 1) inner)
  | .pending handle => .pending (observedHandle depth handle)
  | .foreign handle => .foreign (observedHandle depth handle)

/-- The same handle, which writes down its polls. -/
def observedHandle (depth : Nat) : Completion σ (Resolved σ) →
    Completion (σ × List Visit) (Resolved (σ × List Visit))
  | .ready answer =>
    .pending (fun (state, log) =>
      .advanced (.ready (observed (depth + 1) answer)) (state,
        log ++ [⟨depth, true⟩])) id
  | .pending advance release =>
    .pending (fun (state, log) => observedPoll depth log (advance state))
      fun (state, log) => (release state, log)

/-- The same poll of a handle, written down. -/
def observedPoll (depth : Nat) (log : List Visit) :
    Poll σ (Resolved σ) → Poll (σ × List Visit) (Resolved (σ × List Visit))
  | .blocked => .blocked
  | .advanced next state =>
    match next with
    | .ready answer =>
      .advanced (.ready (observed (depth + 1) answer)) (state,
        log ++ [⟨depth, true⟩])
    | .pending advance release =>
      .advanced (observedHandle depth (.pending advance release)) (state,
        log ++ [⟨depth, false⟩])

end

/-- The polls that strip a layer. -/
def Layer.visits (depth : Nat) : Layer → List Visit
  | .completed => []
  | .handle waits => List.replicate waits ⟨depth, false⟩ ++ [⟨depth, true⟩]

/-- The polls that strip layers off an answer which is inside others already. -/
def visits (depth : Nat) : List Layer → List Visit
  | [] => []
  | layer :: layers => layer.visits depth ++ visits (depth + 1) layers

/-- An observed handle finishes when the handle does, and puts each of its polls
down. -/
theorem finishes_observedHandle
    {handle : Completion σ (Resolved σ)} {inner : Resolved σ} {state after : σ}
    {waits : Nat} (finishes : handle.Finishes inner after state waits)
    (depth : Nat) (log : List Visit) :
    (observedHandle depth handle).Finishes (observed (depth + 1) inner)
      (after, log ++ (Layer.handle waits).visits depth) (state, log) waits := by
  induction finishes generalizing log with
  | ready =>
      rw [observedHandle]
      exact .last rfl
  | last polled =>
      rw [observedHandle]
      refine .last ?_
      dsimp only
      rw [polled, observedPoll]
      rfl
  | @more advance advance' release release' state middle waits polled _ ih =>
      have later := ih (log ++ [⟨depth, false⟩])
      rw [observedHandle] at later ⊢
      have visits : log ++ (Layer.handle (waits + 1)).visits depth =
          log ++ [⟨depth, false⟩] ++ (Layer.handle waits).visits depth := by
        rw [List.append_assoc]
        rfl
      rw [visits]
      refine .more ?_ later
      dsimp only
      rw [polled, observedPoll, observedHandle]

theorem handle?_observed
    {unrestricted : Bool} {answer : Resolved σ}
    {handle : Completion σ (Resolved σ)}
    (awaited : answer.handle? unrestricted = some handle) (depth : Nat) :
    (observed depth answer).handle? unrestricted =
      some (observedHandle depth handle) := by
  cases answer with
  | pending own =>
      cases awaited
      rw [observed]
      rfl
  | foreign own =>
      cases unrestricted with
      | true =>
          cases awaited
          rw [observed]
          rfl
      | false => cases awaited
  | value | notFound | node | failed | completed => cases awaited

theorem strips_observed
    {unrestricted : Bool} {answer inner : Resolved σ} {state middle : σ}
    {layer : Layer}
    (strips : Strips unrestricted answer state layer inner middle) (depth : Nat)
    (log : List Visit) :
    Strips unrestricted (observed depth answer) (state, log) layer
      (observed (depth + 1) inner)
      (middle, log ++ layer.visits depth) := by
  cases strips with
  | completed =>
      rw [observed, Layer.visits, List.append_nil]
      exact .completed
  | handle awaited finishes =>
      exact .handle (handle?_observed awaited depth)
        (finishes_observedHandle finishes depth log)

/-- The layers of an answer are stripped off with their polls written down. -/
theorem stripped_observed
    {unrestricted : Bool} {answer core : Resolved σ} {state after : σ}
    {layers : List Layer}
    (stripped : Stripped unrestricted core after answer state layers)
    (depth : Nat) (log : List Visit) :
    Stripped unrestricted (observed (depth + layers.length) core) (after,
      log ++ visits depth layers)
      (observed depth answer) (state, log) layers := by
  induction stripped generalizing depth log with
  | core =>
      rw [visits, List.append_nil]
      exact .core
  | @layer answer inner state middle layer layers strips _ ih =>
      have later := ih (depth + 1) (log ++ layer.visits depth)
      rw [List.append_assoc, Nat.add_right_comm] at later
      exact .layer (strips_observed strips depth log) later

theorem comesTo_observed
    {expression : Expression} {unrestricted : Bool} {core : Resolved σ}
    {outcome : Except EngineError Settled}
    (ends : core.ComesTo expression unrestricted outcome) (depth : Nat) :
    (observed depth core).ComesTo expression unrestricted outcome := by
  cases ends with
  | value found =>
      rw [observed]
      exact .value found
  | notFound =>
      rw [observed]
      exact .notFound
  | node result =>
      rw [observed]
      exact .node result
  | untagged fresh =>
      rw [observed]
      exact .untagged fresh
  | tagged known =>
      rw [observed]
      exact .tagged known
  | refused restricted =>
      rw [observed]
      exact .refused restricted

/--
Flattening an answer.  Driven to its end, it strips the layers of the answer
from the outside in and ends with the outcome of the core, and it does not come
to an end only where a handle does not.  It is ready when the layers are all
completed ones.  And of the handles, exactly those among the layers are polled,
one after the other, each until its answer is found and not again.
-/
theorem flatten_strips_layers
    (expression : Expression) (unrestricted : Bool) (answer : Resolved σ)
    (state : σ) :
    (∀ outcome after, (answer.flatten expression unrestricted).drive state =
      (some outcome, after) ↔
      ∃ layers core, Stripped unrestricted core after answer state layers ∧
        core.ComesTo expression unrestricted outcome) ∧
    (((answer.flatten expression unrestricted).drive state).1 = none ↔
      ∃ layers core after handle,
        Stripped unrestricted core after answer state layers ∧
        core.handle? unrestricted = some handle ∧
          (handle.drive after).1 = none) ∧
    ((answer.flatten expression unrestricted).isReady = true ↔
      ∃ layers core after outcome,
        Stripped unrestricted core after answer state layers ∧
        core.ComesTo expression unrestricted outcome ∧ ∀ layer ∈ layers,
          layer = .completed) ∧
    ∀ layers core after outcome log,
      Stripped unrestricted core after answer state layers →
      core.ComesTo expression unrestricted outcome →
        ((observed 0 answer).flatten expression unrestricted).drive
          (state, log) =
          (some outcome, (after, log ++ visits 0 layers)) := by
  have ending := exists_stripped expression unrestricted answer state
  refine ⟨fun outcome after => ⟨fun driven => ?_, ?_⟩, ⟨fun stuck => ?_, ?_⟩,
    ⟨fun ready => ?_, ?_⟩, ?_⟩
  · rcases ending with
      ⟨layers, core, after', stripped,
        ⟨outcome', ends⟩ | ⟨handle, awaited, stuck⟩⟩
    · have same := driven.symm.trans (stripped.drive_of_ends ends)
      cases same
      exact ⟨layers, core, stripped, ends⟩
    · have nothing : ((answer.flatten expression unrestricted).drive state).1 =
          none :=
        stripped.drive_of_stuck awaited stuck
      rw [driven] at nothing
      cases nothing
  · rintro ⟨layers, core, stripped, ends⟩
    exact stripped.drive_of_ends ends
  · rcases ending with
      ⟨layers, core, after, stripped, ⟨outcome, ends⟩ | ⟨handle, rest⟩⟩
    · rw [stripped.drive_of_ends ends] at stuck
      cases stuck
    · exact ⟨layers, core, after, handle, stripped, rest⟩
  · rintro ⟨layers, core, after, handle, stripped, awaited, stuck⟩
    exact stripped.drive_of_stuck awaited stuck
  · rcases ending with
      ⟨layers, core, after, stripped, ⟨outcome, ends⟩ | ⟨handle, awaited, -⟩⟩
    · exact ⟨layers, core, after, outcome, stripped, ends,
        (stripped.isReady_flatten.mp ready).1⟩
    · have suspended := (stripped.isReady_flatten.mp ready).2
      rw [flatten_of_handle? awaited, isReady_awaiting] at suspended
      cases suspended
  · rintro ⟨layers, core, after, outcome, stripped, ends, completed⟩
    refine stripped.isReady_flatten.mpr ⟨completed, ?_⟩
    rw [ends.flatten]
    rfl
  · intro layers core after outcome log stripped ends
    exact (stripped_observed stripped 0 log).drive_of_ends
      (comesTo_observed ends _)

/-- The expression of a price. -/
def itemPrice : Expression :=
  .path none [.property "item", .property "price"] ⟨"inner", 9⟩

/-- Another expression of two parts. -/
def otherExpression : Expression :=
  .path none [.property "x", .property "y"] ⟨"inner", 9⟩

/-- A completed answer with a handle inside that is pending for two polls,
changes the state at its end and finds a foreign handle. -/
def foreignBehindHandle : Resolved Nat :=
  .completed (.pending (.after 2 Nat.succ (.foreign (.ready .notFound))))

/-- In restricted mode the inner one of two handles is refused after three polls
of the outer one. -/
theorem foreignBehindHandle_refused :
    (foreignBehindHandle.flatten itemPrice false).drive 5 =
        (some (.error (.render (.of .foreignAsyncValue itemPrice))), 6) ∧
      ((observed 0 foreignBehindHandle).flatten itemPrice false).drive (5, []) =
        (some (.error (.render (.of .foreignAsyncValue itemPrice))),
          (6, [⟨1, false⟩, ⟨1, false⟩, ⟨1, true⟩])) := by
  rcases flatten_strips_layers itemPrice false foreignBehindHandle 5 with
    ⟨outcomes, -, -, visited⟩
  have finishes : Completion.Finishes (.foreign (.ready .notFound)) 6
      (.after 2 Nat.succ (.foreign (.ready .notFound)) :
          Completion Nat (Resolved Nat)) 5 2 :=
    .more rfl (.more rfl (.last rfl))
  have stripped :
      Stripped false (.foreign (.ready .notFound)) 6 foreignBehindHandle 5
      [.completed, .handle 2] :=
    .layer .completed (.layer (.handle rfl finishes) .core)
  have ends :
      ComesTo itemPrice false (.foreign (.ready .notFound) : Resolved Nat)
      (.error (.render (.of .foreignAsyncValue itemPrice))) :=
    .refused rfl
  exact ⟨(outcomes _ 6).mpr ⟨_, _, stripped, ends⟩,
    visited _ _ _ _ [] stripped ends⟩

/-- The failure of another expression is not tagged anew: the flattening ends
with it as it is. -/
theorem other_expression_kept :
    ¬ ∀ error : EngineError,
      ((.failed (.resolution (.of .propertyNotFound otherExpression)) :
        Resolved Unit).flatten
        itemPrice false).drive () = (some (.error error), ()) →
          ∃ reason, error = .render (.of reason itemPrice) := by
  intro tagged
  rcases tagged (.render (.of .propertyNotFound otherExpression))
    (by rw [flatten, Completion.drive_ready]; rfl)
    with ⟨reason, same⟩
  have texts : otherExpression.text = itemPrice.text :=
    congrArg ResolutionError.expression (EngineError.render.inj same)
  exact absurd texts (by decide)

end Resolved

end Phrasebook
