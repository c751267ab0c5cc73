import Phrasebook.Proofs.Callback.Session
import Phrasebook.Proofs.Rerender.Flight

/-!
# What is recalled through a session

A session is *tended* when the renders in flight hold places of their own,
nobody else stands in the lines that are followed unless a render got stuck, and
every text that a render has ended in is recalled from now on. Every move keeps
a session tended, and changes the data only as others may rely on; so values
that have been kept stay, with the number of calls of their suppliers.
-/

namespace Phrasebook

open Watch

namespace Watch

variable {watch : Watch} {held mine mine' theirs : Set Place}
  {before after : RenderData}

/-- Whoever stands in a line that is followed holds a place of these. -/
def Owned (watch : Watch) (held : Set Place) (data : RenderData) : Prop :=
  ∀ cell, watch.Covers cell → ∀ ticket ∈ (data.memo cell).line,
    ticket ∈ ticketsOf cell held

theorem Step.owned
    (step : watch.Step mine mine' before after)
    (owned : watch.Owned (mine ∪ theirs) before) :
    watch.Owned (mine' ∪ theirs) after := by
  intro cell covers ticket inLine
  rcases (step.memo cell covers).owned ticket inLine with
    new | ⟨earlier, notMine⟩
  · exact .inl new
  · exact .inr ((owned cell covers ticket earlier).resolve_left notMine)

/-- The memos are the same, and what is bound to keys is admitted. -/
theorem rely_of_memos
    (sound : watch.Sound before) (admits : watch.Admits after)
    (same : ∀ cell, after.memo cell = before.memo cell) :
    watch.Rely held before after := by
  refine ⟨admits, fun cell covers => ?_⟩
  rw [same cell]
  exact .refl (sound.tidy cell covers)

end Watch

namespace Session

/-- The data of the instance in use. -/
def data (session : Session) : RenderData :=
  renderData (session.target, session.state)

/-- A render ended because it waited for itself. -/
def GotStuck (history : List Happening) : Prop :=
  .finished (.error Engine.stuck) ∈ history

/-- A session whose renders and whose data are as a regime says. -/
structure Tended {engine : Engine} (regime : Regime engine) (held : Set Place)
    (session : Session) : Prop where
  good : regime.good (fixtureOf (session.target, session.state))
  sound : regime.watch.Sound session.data
  issued : regime.watch.Issued held session.data
  flights : regime.AllUnderWay session.data session.inFlight held
  owned : ¬ GotStuck session.history → regime.watch.Owned held session.data
  told : ∀ text, .finished (.ok text) ∈ session.history →
    regime.watch.Recalled regime.again text session.data

/-- What has been done keeps a session tended, as far as the others are
concerned, and leaves keys bound in a certain way. -/
structure Passes
    {engine : Engine} (regime : Regime engine)
    (bound : Dictionary Json × Dictionary Cell)
    (before after : Session) : Prop where
  tended : ∃ held, Tended regime held after
  rely : regime.watch.Rely ∅ before.data after.data
  bound : after.data.bound = bound

namespace Tended

variable {engine : Engine} {regime : Regime engine} {session : Session}
  {held held' : Set Place}
  {whole : Instance × EngineState}
  {inFlight : List (Evaluation (Instance × EngineState) String)}
  {happened : List Happening} {bound : Dictionary Json × Dictionary Cell}
  (tended : Tended regime held session)

include tended

theorem record
    (good : regime.good (fixtureOf whole))
    (rely : regime.watch.Rely ∅ session.data (renderData whole))
    (issued : regime.watch.Issued held' (renderData whole))
    (flights : regime.AllUnderWay (renderData whole) inFlight held')
    (owned : ¬ GotStuck session.history → ¬ GotStuck happened →
      regime.watch.Owned held' (renderData whole))
    (tells : ∀ text, .finished (.ok text) ∈ happened →
      regime.watch.Recalled regime.again text (renderData whole))
    (binds : (renderData whole).bound = bound) :
    Passes regime bound session (session.record whole inFlight happened) := by
  refine ⟨⟨held', good, rely.sound, issued, flights, fun fine => ?_,
    fun text told => ?_⟩, rely, binds⟩
  · exact owned (fun stuck => fine (List.mem_append_left _ stuck))
      fun stuck => fine (List.mem_append_right _ stuck)
  · rcases List.mem_append.mp told with earlier | now
    · exact lasts_recalled regime.again text _ _ rely (tended.told text earlier)
    · exact tells text now

/-- Only the callbacks have changed. -/
theorem onComplete (callback : Callback) :
    Passes regime session.data.bound session
      (session.step engine (.onComplete callback)) := by
  refine tended.record tended.good (.refl tended.sound) tended.issued
    tended.flights
    (fun fine _ => tended.owned fine) ?_ rfl
  simp

theorem launch :
    Passes regime session.data.bound session (session.step engine .launch) := by
  have flights : regime.AllUnderWay session.data
      (session.inFlight ++ [engine.render]) held := by
    have listed :=
      Regime.AllUnderWay.cons (Regime.underWay_render session.data)
        tended.flights apart_empty_left
    rw [Set.empty_union] at listed
    exact listed.perm (List.perm_append_singleton _ _).symm
  exact tended.record tended.good (.refl tended.sound) tended.issued flights
    (fun fine _ => tended.owned fine) nofun rfl

/-- New bindings, if what is bound to keys is not followed. They touch no
memo. -/
theorem rebind
    (change : Bindings → Bindings)
    (good :
      regime.good
        (fixtureOf (session.target.updateBindings change, session.state)))
    (admits : regime.watch.Admits (change session.target.bindings).data)
    (same : ∀ cell, (change session.target.bindings).data.memo cell =
      session.data.memo cell) :
    Passes regime (change session.target.bindings).data.bound session
      (session.record (session.target.updateBindings change, session.state)
        session.inFlight []) := by
  have rely : ∀ held,
      regime.watch.Rely held session.data
          (change session.target.bindings).data :=
    fun held => rely_of_memos tended.sound admits same
  refine tended.record good (rely ∅) ((rely held).issued tended.issued)
    (tended.flights.later (rely held))
    (fun fine _ => ?_) nofun rfl
  intro cell covers
  exact (same cell) ▸ tended.owned fine cell covers

/-- A blocking render.  One that gets stuck leaves its places in line. -/
theorem render :
    Passes regime session.data.bound session (session.step engine .render) := by
  have starts :=
    regime.starts (session.target, session.state) tended.good tended.sound
  have fixture := engine.render_keeps.drive (session.target, session.state)
  have driven := starts.drive tended.sound
  rw [← Completion.drive_deferred (fun whole =>
    engine.renderInstance (engine.servicesIn whole.2) whole),
    ← Engine.render] at driven
  rw [Session.step, Engine.renderBlocking]
  revert fixture driven
  generalize engine.render.drive (session.target, session.state) = driven
  rcases driven with ⟨result, whole⟩
  rintro fixture ⟨left, step, ends⟩
  have good : regime.good (fixtureOf whole) := by
    rw [show fixtureOf whole = _ from fixture]
    exact tended.good
  have flights := tended.flights.later (step.rely tended.sound apart_empty_left)
  have rely := step.rely tended.sound apart_empty_right
  have issued := step.keeps_issued tended.issued
  cases result with
  | none =>
      have stuck : GotStuck [.finished (.error Engine.stuck)] :=
        List.mem_singleton_self _
      refine tended.record good rely issued flights (fun _ notStuck =>
        (notStuck stuck).elim)
        (fun text told => ?_) step.bound
      cases List.mem_singleton.mp told
  | some result =>
      rcases ends result rfl with ⟨rfl, tells⟩
      refine tended.record good rely issued flights (fun fine _ => ?_)
        (fun text told => ?_) step.bound
      · have before : regime.watch.Owned (∅ ∪ held) session.data := by
          rw [Set.empty_union]
          exact tended.owned fine
        have after := step.owned before
        rw [Set.empty_union] at after
        exact after
      · cases result with
        | error error => cases List.mem_singleton.mp told
        | ok text' =>
            cases List.mem_singleton.mp told
            exact tells text rfl

section Polls

variable {render : Evaluation (Instance × EngineState) String} {place : Nat}
  (found : session.inFlight[place]? = some render)

include found

/-- One of the renders in flight is singled out. -/
theorem single :
    ∃ mine theirs, held = mine ∪ theirs ∧
      regime.UnderWay render mine session.data ∧
      regime.AllUnderWay session.data (session.inFlight.eraseIdx place) theirs ∧
        regime.watch.Apart mine theirs := by
  rcases List.getElem?_eq_some_iff.mp found with ⟨within, rfl⟩
  have listed :=
    tended.flights.perm (List.getElem_cons_eraseIdx_perm within).symm
  cases listed with
  | cons one rest apart => exact ⟨_, _, rfl, one, rest, apart⟩

/-- Polling a render passes. -/
theorem pollRender :
    Passes regime session.data.bound session
      (session.pollRender render place) := by
  rcases tended.single found with ⟨mine, theirs, rfl, underWay, others, apart⟩
  rcases issued_union.mp tended.issued with ⟨issued, issued'⟩
  rcases List.getElem?_eq_some_iff.mp found with ⟨within, -⟩
  have starts := underWay.poll tended.good tended.sound issued
  have keeps := underWay.1.poll (session.target, session.state)
  rw [Session.pollRender]
  revert starts keeps
  generalize render.poll (session.target, session.state) = polled
  rcases polled with ⟨reached, whole⟩
  rintro ⟨mine', step, tends⟩ ⟨fixture, keeps⟩
  have good : regime.good (fixtureOf whole) := by
    rw [show fixtureOf whole = _ from fixture]
    exact tended.good
  have rely := step.rely tended.sound apart_empty_right
  have others' := others.later (step.rely tended.sound apart)
  have issued'' := step.keeps_issued issued'
  have owned := fun fine => step.owned (tended.owned fine)
  cases reached with
  | ready result =>
      rcases tends with ⟨rfl, tells⟩
      rw [Set.empty_union] at owned
      refine tended.record good rely issued'' others' (fun fine _ => owned fine)
        (fun text told => ?_) step.bound
      cases List.mem_singleton.mp told
      exact tells text rfl
  | pending advance release =>
      have listed :=
        Regime.AllUnderWay.cons ⟨keeps, .inr tends⟩ others'
          (step.apart apart issued')
      have flights := listed.perm (List.set_perm_cons_eraseIdx within _).symm
      exact tended.record good rely (issued_union.mpr ⟨step.issued, issued''⟩)
        flights (fun fine _ => owned fine)
        (fun _ told => absurd told List.not_mem_nil) step.bound

theorem dropRender :
    Passes regime session.data.bound session
      (session.dropRender render place) := by
  rcases tended.single found with ⟨mine, theirs, rfl, underWay, others, apart⟩
  rcases issued_union.mp tended.issued with ⟨-, issued'⟩
  have step := underWay.abandon tended.sound
  have fixture := underWay.1.abandon (session.target, session.state)
  have owned := fun fine => step.owned (tended.owned fine)
  rw [Set.empty_union] at owned
  refine tended.record (fixture ▸ tended.good)
    (step.rely tended.sound apart_empty_right)
    (step.keeps_issued issued') (others.later (step.rely tended.sound apart))
    (fun fine _ => owned fine) ?_
    step.bound
  simp

end Polls

end Tended

end Session

namespace Move

/-- What a move binds to keys. -/
def binds (move : Move) (data : RenderData) : RenderData :=
  match move with
  | .set key value => data.set key value
  | .setComputed key supplier => data.setComputed key supplier
  | _ => data

/-- A move that does not register a computed binding under a key. -/
def Spares (key : String) : Move → Prop
  | .setComputed asked _ => asked ≠ key
  | _ => True

/-- The cell of a key is bound by registering it only. -/
theorem Spares.cell?_binds
    {key : String} {move : Move} (spares : move.Spares key)
    (data : RenderData) :
    (move.binds data).cell? key = data.cell? key := by
  cases move with
  | setComputed asked supplier =>
      exact Dictionary.get?_insert_of_ne (Ne.symm spares) _ _
  | _ => rfl

end Move

theorem RenderData.cell?_congr
    {data data' : RenderData} (same : data.bound = data'.bound) (key : String) :
    data.cell? key = data'.cell? key :=
  congrArg (Dictionary.get? key) (congrArg Prod.snd same)

namespace Session

/-- A move that changes nothing that is followed. -/
def Allows {engine : Engine} (regime : Regime engine) : Move → Prop
  | .set _ _ | .setComputed _ _ => ∃ cell, regime.watch = .binding cell
  | _ => True

variable {engine : Engine} {regime : Regime engine} {session : Session}
  {held : Set Place}

/-- Every move keeps a session tended. -/
theorem Tended.step
    (tended : Tended regime held session) (move : Move)
    (allowed : Allows regime move) :
    Passes regime (move.binds session.data).bound session
      (session.step engine move) := by
  cases move with
  | onComplete callback => exact tended.onComplete callback
  | set key value =>
      rcases allowed with ⟨cell, isWatch⟩
      refine tended.rebind (Bindings.set key value) tended.good ?_ fun _ => rfl
      rw [isWatch]
      trivial
  | setComputed key supplier =>
      rcases allowed with ⟨cell, isWatch⟩
      refine tended.rebind (Bindings.setComputed key supplier) tended.good ?_
        fun _ => rfl
      rw [isWatch]
      trivial
  | render => exact tended.render
  | launch => exact tended.launch
  | poll place =>
      rw [Session.step]
      split
      next found => exact tended.pollRender found
      next => exact ⟨⟨held, tended⟩, .refl tended.sound, rfl⟩
  | drop place =>
      rw [Session.step]
      split
      next found => exact tended.dropRender found
      next => exact ⟨⟨held, tended⟩, .refl tended.sound, rfl⟩

theorem Tended.run
    (tended : Tended regime held session) (moves : List Move)
    (allowed : ∀ move ∈ moves, Allows regime move) :
    (∃ held, Tended regime held (session.run engine moves)) ∧
      regime.watch.Rely ∅ session.data (session.run engine moves).data ∧
        ∀ key, (∀ move ∈ moves, move.Spares key) →
          (session.run engine moves).data.cell? key =
            session.data.cell? key := by
  induction moves generalizing session held with
  | nil => exact ⟨⟨held, tended⟩, .refl tended.sound, fun _ _ => rfl⟩
  | cons move rest ih =>
      rcases List.forall_mem_cons.mp allowed with ⟨first, others⟩
      rcases tended.step move first with ⟨⟨held', tended'⟩, rely, bound⟩
      rcases ih tended' others with ⟨later, rely', cells⟩
      refine ⟨later, rely.trans rely', fun key spare => ?_⟩
      rcases List.forall_mem_cons.mp spare with ⟨spares, spare'⟩
      calc
        _ = (session.step engine move).data.cell? key := cells key spare'
        _ = (move.binds session.data).cell? key :=
          RenderData.cell?_congr bound key
        _ = session.data.cell? key := spares.cell?_binds _

end Session

end Phrasebook
