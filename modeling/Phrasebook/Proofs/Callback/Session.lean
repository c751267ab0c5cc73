import Phrasebook.Proofs.Callback.Firing

/-!
# Sessions with one instance

A session is what a user does with one instance of a template over time:
register callbacks, set values and computed bindings, render, start renders that
are polled and dropped later, several of them in flight at once.  Its history
says when a callback was registered, and when a render ended and how.

The history alone determines what fires: each success fires the callbacks that
were registered since the one before, in the order of registration, and those
that they register wait for the next.  So every callback fires once at most, and
once exactly when a render succeeds after its registration.
-/

namespace Phrasebook

/-- What the user does next. -/
inductive Move where
  | onComplete (callback : Callback)
  | set (key : String) (value : Json)
  | setComputed (key supplier : String)
  | render
  | launch
  | poll (place : Nat)
  | drop (place : Nat)

/-- What has happened to callbacks or renders. -/
inductive Happening where
  | registered (callback : Callback)
  | finished (result : Except EngineError String)
  | dropped

/-- An instance of a template in use: the renders of it that are in flight, and
what has happened. -/
structure Session where
  target : Instance
  state : EngineState
  inFlight : List (Evaluation (Instance × EngineState) String) := []
  history : List Happening := []

namespace Session

/-- Puts down what a move has led to. -/
def record
    (session : Session) (whole : Instance × EngineState)
    (inFlight : List (Evaluation (Instance × EngineState) String))
    (happened : List Happening) :
    Session :=
  ⟨whole.1, whole.2, inFlight, session.history ++ happened⟩

def pollRender
    (render : Evaluation (Instance × EngineState) String) (place : Nat)
    (session : Session) : Session :=
  match render.poll (session.target, session.state) with
  | (.ready result, whole) =>
    session.record whole (session.inFlight.eraseIdx place) [.finished result]
  | (render, whole) =>
    session.record whole (session.inFlight.set place render) []

def dropRender
    (render : Evaluation (Instance × EngineState) String) (place : Nat)
    (session : Session) : Session :=
  session.record (render.abandon (session.target, session.state))
    (session.inFlight.eraseIdx place)
    [.dropped]

def step (engine : Engine) (session : Session) : Move → Session
  | .onComplete callback =>
    session.record (session.target.onComplete callback, session.state)
      session.inFlight
      [.registered callback]
  | .set key value =>
    session.record (session.target.updateBindings (Bindings.set key value),
      session.state)
      session.inFlight []
  | .setComputed key supplier =>
    session.record
      (session.target.updateBindings (Bindings.setComputed key supplier),
        session.state)
      session.inFlight []
  | .render =>
    let (result, whole) := engine.renderBlocking session.target session.state
    session.record whole session.inFlight [.finished result]
  | .launch =>
    session.record (session.target, session.state)
      (session.inFlight ++ [engine.render]) []
  | .poll place =>
    match session.inFlight[place]? with
    | some render => session.pollRender render place
    | none => session
  | .drop place =>
    match session.inFlight[place]? with
    | some render => session.dropRender render place
    | none => session

def run (engine : Engine) (moves : List Move) (session : Session) : Session :=
  moves.foldl (step engine) session

end Session

namespace Happening

/-- The callbacks that are registered at a happening while some callbacks
wait. -/
def registers (waiting : List Callback) : Happening → List Callback
  | .registered callback => [callback]
  | .finished (.ok _) => waiting.flatMap Callback.registers
  | _ => []

/-- The callbacks that fire at a happening. -/
def fires (waiting : List Callback) : Happening → List Callback
  | .finished (.ok _) => waiting
  | _ => []

/-- The callbacks that wait after a happening: a success leaves those that were
registered in it. -/
def leaves (waiting : List Callback) (happening : Happening) : List Callback :=
  match happening with
  | .finished (.ok _) => happening.registers waiting
  | _ => waiting ++ happening.registers waiting

theorem fires_append_leaves (waiting : List Callback) (happening : Happening) :
    happening.fires waiting ++ happening.leaves waiting =
      waiting ++ happening.registers waiting := by
  rcases happening with callback | (error | text) | _ <;> rfl

end Happening

namespace Callback

/-- The callbacks that wait after a history. -/
def waitingAfter (waiting : List Callback) (history : List Happening) :
    List Callback :=
  history.foldl Happening.leaves waiting

/-- The callbacks that fire in a history, success by success. -/
def fired (waiting : List Callback) : List Happening → List Callback
  | [] => []
  | happening :: rest =>
    happening.fires waiting ++ fired (happening.leaves waiting) rest

/-- All callbacks that are registered in a history, in the order of
registration. -/
def registered (waiting : List Callback) : List Happening → List Callback
  | [] => []
  | happening :: rest =>
    happening.registers waiting ++ registered (happening.leaves waiting) rest

theorem waitingAfter_append
    (waiting : List Callback) (history rest : List Happening) :
    waitingAfter waiting (history ++ rest) =
      waitingAfter (waitingAfter waiting history) rest :=
  List.foldl_append

theorem fired_append (waiting : List Callback) (history rest : List Happening) :
    fired waiting (history ++ rest) =
      fired waiting history ++ fired (waitingAfter waiting history) rest := by
  induction history generalizing waiting with
  | nil => rfl
  | cons happening history ih =>
      rw [List.cons_append, fired, fired, ih, List.append_assoc]
      rfl

/-- What has fired and what still waits is all that was registered, in the order
of registration. -/
theorem fired_append_waitingAfter
    (waiting : List Callback) (history : List Happening) :
    fired waiting history ++ waitingAfter waiting history =
      waiting ++ registered waiting history := by
  induction history generalizing waiting with
  | nil => exact (List.append_nil waiting).symm
  | cons happening rest ih =>
      calc
        happening.fires waiting ++ fired (happening.leaves waiting) rest ++
            waitingAfter (happening.leaves waiting) rest =
          (happening.fires waiting ++ happening.leaves waiting) ++
            registered (happening.leaves waiting) rest := by
          rw [List.append_assoc, ih, List.append_assoc]
        _ =
            waiting ++
                (happening.registers waiting ++
                    registered (happening.leaves waiting) rest) := by
          rw [happening.fires_append_leaves, List.append_assoc]

/-- When a render succeeds, all callbacks registered before have fired. -/
theorem registered_isPrefix_fired
    (waiting : List Callback) (past future : List Happening) (text : String) :
    waiting ++ registered waiting past <+:
      fired waiting (past ++ .finished (.ok text) :: future) := by
  rw [fired_append, fired, ← fired_append_waitingAfter]
  simp [Happening.fires]

end Callback

open Callback (waitingAfter fired registered)
open Engine (noNote)

namespace Session

variable {engine : Engine} {marked : String → Bool} {waiting : List Callback}
  {notes : List String}

/-- A render is under way, and commits when it ends. -/
structure UnderWay
    (engine : Engine) (marked : String → Bool)
    (render : Evaluation (Instance × EngineState) String) :
    Prop where
  pending : render.isReady = false
  commits : render.Commits (fun ledger =>
    engine.Silences marked ledger.suppliers) (Ledger.of marked)
    (Ledger.fire marked)

/-- A session whose callbacks and notes are as its history says: at its
beginning some callbacks waited, and some marked notes were in the journal. -/
structure Accounts
    (engine : Engine) (marked : String → Bool) (waiting : List Callback)
    (notes : List String)
    (session : Session) : Prop where
  waits : session.target.callbacks = waitingAfter waiting session.history
  noted : session.state.notes marked =
    notes ++ ((fired waiting session.history).map Callback.report).filter marked
  silences : engine.Silences marked session.target.bindings.suppliers
  renders : ∀ render ∈ session.inFlight, UnderWay engine marked render

namespace Accounts

variable {session : Session}
  (accounts : Accounts engine marked waiting notes session)
  {inFlight : List (Evaluation (Instance × EngineState) String)}
  {whole : Instance × EngineState}
  (renders : ∀ render ∈ inFlight, UnderWay engine marked render)

include accounts renders

/-- Accounts are kept when what happened is put down together with what it led
to. -/
theorem record
    {happened : List Happening}
    (waits : whole.1.callbacks = waitingAfter session.target.callbacks happened)
    (noted : whole.2.notes marked = session.state.notes marked ++
      ((fired session.target.callbacks happened).map Callback.report).filter
        marked)
    (silences : engine.Silences marked whole.1.bindings.suppliers) :
    Accounts engine marked waiting notes
      (session.record whole inFlight happened) where
  waits := by
    rw [accounts.waits, ← Callback.waitingAfter_append] at waits
    exact waits
  noted := by
    rw [accounts.noted, accounts.waits, List.append_assoc, ← List.filter_append,
      ← List.map_append, ← Callback.fired_append] at noted
    exact noted
  silences := silences
  renders := renders

/-- A render has ended. -/
theorem finish
    {result : Except EngineError String}
    (ended : Ledger.of marked whole =
      (Ledger.of marked (session.target, session.state)).finish marked result) :
    Accounts engine marked waiting notes
      (session.record whole inFlight [.finished result]) := by
  have suppliers : whole.1.bindings.suppliers =
      session.target.bindings.suppliers :=
    (congrArg Ledger.suppliers ended).trans
      (Ledger.suppliers_finish marked result _)
  have waits := congrArg Ledger.waiting ended
  have noted := congrArg Ledger.notes ended
  apply accounts.record renders
  · cases result with
    | ok text => exact waits
    | error error => exact waits.trans (List.append_nil _).symm
  · cases result with
    | ok text =>
        simp only [fired, Happening.fires, List.append_nil]
        exact noted
    | error error => exact noted.trans (List.append_nil _).symm
  · rw [suppliers]
    exact accounts.silences

/-- Nothing has happened that callbacks could notice. -/
theorem keep
    {happened : List Happening} (idle : happened = [] ∨ happened = [.dropped])
    (kept : Ledger.of marked whole =
      Ledger.of marked (session.target, session.state)) :
    Accounts engine marked waiting notes
      (session.record whole inFlight happened) := by
  have suppliers : whole.1.bindings.suppliers =
      session.target.bindings.suppliers :=
    congrArg Ledger.suppliers kept
  have waits : whole.1.callbacks = session.target.callbacks :=
    congrArg Ledger.waiting kept
  have noted : whole.2.notes marked = session.state.notes marked :=
    congrArg Ledger.notes kept
  apply accounts.record renders
  · rcases idle with rfl | rfl
    · exact waits
    · exact waits.trans (List.append_nil _).symm
  · rcases idle with rfl | rfl <;> exact noted.trans (List.append_nil _).symm
  · rw [suppliers]
    exact accounts.silences

end Accounts

section Moves

variable {session : Session}
  (accounts : Accounts engine marked waiting notes session)
  {render : Evaluation (Instance × EngineState) String} {place : Nat}

include accounts

/-- Polling a render keeps the accounts. -/
theorem Accounts.pollRender (found : session.inFlight[place]? = some render) :
    Accounts engine marked waiting notes (session.pollRender render place) := by
  have underWay := accounts.renders render (List.mem_of_getElem? found)
  have silences : engine.Silences marked
      (Ledger.of marked (session.target, session.state)).suppliers :=
        accounts.silences
  have polled := underWay.commits.poll underWay.pending silences
  rw [Session.pollRender]
  revert polled
  generalize render.poll (session.target, session.state) = polled
  rcases polled with ⟨result | ⟨advance, release⟩, whole⟩
  · rintro ⟨done, -⟩
    apply accounts.finish fun render member =>
      accounts.renders render (List.mem_of_mem_eraseIdx member)
    cases result <;> exact done
  · rintro ⟨done, commits⟩
    refine accounts.keep (fun render member => ?_) (.inl rfl) done
    rcases List.mem_or_eq_of_mem_set member with member | rfl
    · exact accounts.renders render member
    · exact ⟨rfl, commits⟩

theorem Accounts.dropRender (found : session.inFlight[place]? = some render) :
    Accounts engine marked waiting notes (session.dropRender render place) := by
  have underWay := accounts.renders render (List.mem_of_getElem? found)
  apply accounts.keep
  · exact fun render member =>
      accounts.renders render (List.mem_of_mem_eraseIdx member)
  · exact .inr rfl
  · exact underWay.commits.abandon _

/-- Every move leaves callbacks and notes as the history says. -/
theorem Accounts.step
    (quiet : engine.QuietThroughout marked) (move : Move) :
    Accounts engine marked waiting notes (session.step engine move) := by
  cases move with
  | onComplete callback =>
      apply accounts.record accounts.renders
      · rfl
      · exact (List.append_nil _).symm
      · exact accounts.silences
  | set key value => exact accounts.keep accounts.renders (.inl rfl) rfl
  | setComputed key supplier =>
      exact accounts.keep accounts.renders (.inl rfl) rfl
  | render =>
      exact accounts.finish accounts.renders
        (Engine.ledger_renderBlocking quiet accounts.silences)
  | launch =>
      refine accounts.keep (fun render member => ?_) (.inl rfl) rfl
      rcases List.mem_append.mp member with member | member
      · exact accounts.renders render member
      · rw [List.mem_singleton.mp member]
        exact ⟨rfl, Engine.render_commits quiet⟩
  | poll place =>
      rw [Session.step]
      split
      next found => exact accounts.pollRender found
      next => exact accounts
  | drop place =>
      rw [Session.step]
      split
      next found => exact accounts.dropRender found
      next => exact accounts

theorem Accounts.run
    (quiet : engine.QuietThroughout marked) (moves : List Move) :
    Accounts engine marked waiting notes (session.run engine moves) := by
  induction moves generalizing session with
  | nil => exact accounts
  | cons move rest ih => exact ih (accounts.step quiet move)

end Moves

/-- At its beginning a session has kept its accounts. -/
theorem accounts_open
    {target : Instance}
    (silences : engine.Silences marked target.bindings.suppliers)
    (state : EngineState) :
    Accounts engine marked target.callbacks (state.notes marked)
      { target, state } where
  waits := rfl
  noted := (List.append_nil _).symm
  silences := silences
  renders := List.forall_mem_nil _

/-- Whatever is done with an instance, its callbacks fire as the history says:
at each success those registered since the one before, in the order of
registration.  Nothing fires twice, for what has fired, with what still waits,
is what was registered; and nothing is lost, for what was registered before a
success has fired.  The notes of those that have fired are in the journal in
this order, together with what resolvers, mappers and suppliers leave there. -/
theorem callbacks_fire_once
    (engine : Engine) (target : Instance) (state : EngineState)
    (moves : List Move) :
    let after := Session.run engine moves { target, state }
    let fired := Callback.fired target.callbacks after.history
    after.target.callbacks = waitingAfter target.callbacks after.history ∧
      fired ++ after.target.callbacks =
        target.callbacks ++ registered target.callbacks after.history ∧
      (∀ past text future,
        after.history = past ++ .finished (.ok text) :: future →
        target.callbacks ++ registered target.callbacks past <+: fired) ∧
      ∀ marked, engine.QuietThroughout marked →
        engine.Silences marked target.bindings.suppliers →
        after.state.notes marked =
          state.notes marked ++ (fired.map Callback.report).filter marked := by
  intro after fired
  have waits : after.target.callbacks =
      waitingAfter target.callbacks after.history := by
    have silences : engine.Silences noNote target.bindings.suppliers :=
      fun _ => Supplier.quietUnder_noNote engine _
    exact
      ((accounts_open silences state).run engine.quietThroughout_noNote
        moves).waits
  refine ⟨waits, ?_, ?_, ?_⟩
  · rw [waits]
    exact Callback.fired_append_waitingAfter _ _
  · intro past text future history
    have within :=
      Callback.registered_isPrefix_fired target.callbacks past future text
    rwa [← history] at within
  · intro marked quiet silences
    exact ((accounts_open silences state).run quiet moves).noted

/-- An engine for which a missing value fails the render. -/
def strictEngine : Engine :=
  ⟨[], [], [], [], { strictRendering := true }⟩

theorem build_strictEngine :
    Engine.build [] [] [] [] { strictRendering := true } = strictEngine := by
  simp [strictEngine, Engine.build, Engine.grouped, Chain.ofResolvers,
    Mapper.chain]

/-- Suppliers whose answers need some polls, each of them named by its
answer. -/
def lateNames : Suppliers :=
  fun name _ _ _ scene =>
    (.pending (.after 3 id (.value (.string name))), scene)

def nameTemplate : Template :=
  ⟨"greeting", "1",
    [.text "Hi ",
      .placeholder (.mk none [.property "name"] none ⟨"greeting", 1⟩)]⟩

/-- A new instance of the template, whose computed bindings answer late. -/
def lateTarget : Instance :=
  { template := nameTemplate, bindings := { suppliers := lateNames } }

/-- A callback is registered, a render fails for want of a name, and another one
is dropped.  Then two renders wait for the same computed binding while one more
callback is registered and the binding gets another supplier.  The render that
had the supplier running is dropped, the other one is polled to its end, and one
more render follows. -/
def sampleMoves : List Move :=
  [.onComplete (.mk "first" [.mk "second" []]), .render,
    .setComputed "name" "Ada",
    .launch, .poll 0, .drop 0, .launch, .launch, .poll 0, .poll 1,
      .onComplete (.mk "third" []),
    .setComputed "name" "Eve", .drop 0, .poll 0, .poll 0, .poll 0, .poll 0,
      .render]

theorem lateNames_quietUnder
    (marked : String → Bool) (engine : Engine) (name : String) :
    (lateNames name).QuietUnder marked engine := by
  intro depth key call scene
  have answer : (Resolved.value (.string name)).Keeps (Scene.notes marked) :=
    trivial
  exact ⟨rfl, Resolved.handleKeeps_after (fun _ => rfl) answer 3⟩

/-- The render that is left ends with the supplier that it began to wait for,
and fires the first and the third callback; the callback that the first one
registers fires in the render that follows, which asks the new supplier. -/
theorem sampleMoves_fire_once :
    let after :=
      Session.run strictEngine sampleMoves
        { target := lateTarget, state := .empty }
    after.state.notes (fun _ => true) = ["first", "third", "second"] ∧
      after.history.drop 5 =
          [.finished (.ok "Hi Ada"), .finished (.ok "Hi Eve")] := by
  have fires := callbacks_fire_once strictEngine lateTarget .empty sampleMoves
  have silences : strictEngine.Silences (fun _ => true) lateNames :=
    lateNames_quietUnder _ _
  have quiet : strictEngine.QuietThroughout fun _ => true := by
    rw [← build_strictEngine]
    exact Engine.quietThroughout_builtIn _ (List.forall_mem_nil _) _ _
  constructor
  · rw [fires.2.2.2 (fun _ => true) quiet silences]
    rfl
  · rfl

end Session

end Phrasebook
