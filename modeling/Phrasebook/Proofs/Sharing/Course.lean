import Mathlib.Tactic.SplitIfs
import Phrasebook.Completion.Join
import Phrasebook.Proofs.Completion.Conduct
import Phrasebook.Proofs.Completion.Round
import Phrasebook.Proofs.Sharing.Place

/-!
# Completions that share a scene

`Setting.Meets` says of a completion what it may do to a scene on which others
act as well, and what it ends in: it makes only steps of its own places, it
waits only while each of its places has another one before it in line, and in
the end it holds no place and its result is the one expected. Only success and
the value of a success are fixed: of several failures any may be met first.

The operations on completions respect `Meets`. A completion that alone holds all
places that are taken can never be blocked, since the first place in each line
is one of its own; driving it therefore ends, and ends as expected.
-/

namespace Phrasebook

namespace Scene

/-- Everybody at these places has to wait: somebody is in line, and nobody is
first. -/
def Waits (places : Set Place) (scene : Scene) : Prop :=
  (∃ place ∈ places, scene.InLine place) ∧ ∀ place ∈ places,
    ¬ scene.IsFirst place

/-- Places that can be waited for can be waited for together. -/
theorem Waits.union
    {places more : Set Place} {scene : Scene}
    (left : scene.Waits places) (right : scene.Waits more) :
    scene.Waits (places ∪ more) := by
  rcases left.1 with ⟨place, member, inLine⟩
  refine ⟨⟨place, .inl member, inLine⟩, ?_⟩
  rintro place (member | member)
  · exact left.2 place member
  · exact right.2 place member

end Scene

namespace Setting

variable {ε α β γ : Type}

mutual

/-- A completion that holds the places `held` and ends in `meaning`, which is
`none` for a failure. -/
def Meets (setting : Setting) (meaning : Option α) :
    Completion Scene (Except ε α) → Set Place → Prop
  | .ready result, held => held = ∅ ∧ result.toOption = meaning
  | .pending advance release, held =>
    ∀ scene, setting.Sound scene → scene.Holds held →
      PollMeets setting meaning (advance scene) held scene ∧
        setting.Step held ∅ scene (release scene)

/-- A poll at a scene, of a completion that held the places `held`. -/
def PollMeets (setting : Setting) (meaning : Option α) :
    Poll Scene (Except ε α) → Set Place → Scene → Prop
  | .blocked, held, scene => scene.Waits held
  | .advanced next after, held, scene =>
    ∃ held', setting.Step held held' scene after ∧
      Meets setting meaning next held'

end

/-- A computation has led from a scene, at which it held the places `held`, to a
completion and the scene after it. -/
def Starts
    (setting : Setting) (meaning : Option α) (held : Set Place) (before : Scene)
    (started : Completion Scene (Except ε α) × Scene) : Prop :=
  ∃ held', setting.Step held held' before started.2 ∧
    setting.Meets meaning started.1 held'

variable
  {setting : Setting} {meaning : Option α} {meaning' : Option β}
  {held held' held'' : Set Place} {before scene : Scene}

theorem meets_ready
    {result : Except ε α} (result_eq : result.toOption = meaning) :
    setting.Meets meaning (.ready result) ∅ := by
  rw [Meets]
  exact ⟨rfl, result_eq⟩

theorem meets_ready_iff
    {result : Except ε α} :
    setting.Meets meaning (.ready result) held ↔
      held = ∅ ∧ result.toOption = meaning := by
  rw [Meets]

theorem starts_ready
    {result : Except ε α} (sound : setting.Sound scene)
    (result_eq : result.toOption = meaning) :
    setting.Starts meaning ∅ scene (.ready result, scene) :=
  ⟨∅, .refl sound (Scene.holds_empty scene), meets_ready result_eq⟩

/-- A step in front of a start makes no difference to what is started. -/
theorem Starts.after
    {started : Completion Scene (Except ε α) × Scene}
    (sound : setting.Sound before) (step : setting.Step held held' before scene)
    (starts : setting.Starts meaning held' scene started) :
    setting.Starts meaning held before started := by
  rcases starts with ⟨held'', later, meets⟩
  exact ⟨held'', step.trans sound later, meets⟩

theorem Starts.sound
    {started : Completion Scene (Except ε α) × Scene}
    (starts : setting.Starts meaning held before started) :
    setting.Sound started.2 := by
  rcases starts with ⟨held', step, -⟩
  exact step.sound

/-- A poll leads from the places that the completion held to those that what is
left holds. -/
theorem Meets.poll
    {completion : Completion Scene (Except ε α)}
    (meets : setting.Meets meaning completion held)
    (sound : setting.Sound scene) (holds : scene.Holds held) :
    setting.Starts meaning held scene (completion.poll scene) := by
  cases completion with
  | ready result => exact ⟨held, .refl sound holds, meets⟩
  | pending advance release =>
      have polled := meets
      rw [Meets] at polled
      have reached := (polled scene sound holds).1
      simp only [Completion.poll]
      cases poll : advance scene with
      | blocked => exact ⟨held, .refl sound holds, meets⟩
      | advanced next after =>
          rw [poll, PollMeets] at reached
          exact reached

/-- Abandoning a completion gives up the places it holds. -/
theorem Meets.abandon
    {completion : Completion Scene (Except ε α)}
    (meets : setting.Meets meaning completion held)
    (sound : setting.Sound scene) (holds : scene.Holds held) :
    setting.Step held ∅ scene (completion.abandon scene) := by
  cases completion with
  | ready result =>
      rcases meets_ready_iff.mp meets with ⟨rfl, -⟩
      exact .refl sound holds
  | pending advance release =>
      rw [Meets] at meets
      exact (meets scene sound holds).2

theorem Starts.poll
    {started : Completion Scene (Except ε α) × Scene}
    (sound : setting.Sound scene)
    (starts : setting.Starts meaning held scene started) :
    setting.Starts meaning held scene (started.1.poll started.2) := by
  rcases starts with ⟨held', step, meets⟩
  exact .after sound step (meets.poll step.sound step.holds)

/-- A completion that is never blocked, keeps the data and yields one success,
or failures only. -/
theorem meets_of_keeps
    {completion : Completion Scene (Except ε α)}
    (keeps : completion.Keeps Scene.data)
    (yields : completion.Yields fun result => result.toOption = meaning) :
    setting.Meets meaning completion ∅ := by
  induction completion using Completion.ind with
  | ready result => exact meets_ready yields
  | pending advance release ih =>
      rw [Meets]
      intro scene sound holds
      have kept := keeps.1 scene
      have expected := yields scene
      refine ⟨?_, .of_data sound (keeps.2 scene) holds⟩
      cases poll : advance scene with
      | blocked =>
          rw [poll] at expected
          exact expected.elim
      | advanced next after =>
          rw [poll] at kept expected
          rw [PollMeets]
          exact ⟨∅, .of_data sound kept.1 holds,
            ih scene next after poll kept.2 expected⟩

theorem meets_mapResult
    {ω : Type} (f : Except ε α → Except ω β)
    {completion : Completion Scene (Except ε α)}
    (result_eq : ∀ result : Except ε α, result.toOption = meaning →
      (f result).toOption = meaning')
    (meets : setting.Meets meaning completion held) :
    setting.Meets meaning' (completion.mapResult f) held := by
  induction completion using Completion.ind generalizing held with
  | ready result =>
      rcases meets_ready_iff.mp meets with ⟨rfl, equal⟩
      rw [Completion.mapResult]
      exact meets_ready (result_eq result equal)
  | pending advance release ih =>
      rw [Meets] at meets
      rw [Completion.mapResult, Meets]
      intro scene sound holds
      rcases meets scene sound holds with ⟨reached, released⟩
      refine ⟨?_, released⟩
      cases poll : advance scene with
      | blocked =>
          rw [poll, PollMeets] at reached
          rw [Completion.mapPoll, PollMeets]
          exact reached
      | advanced next after =>
          rw [poll, PollMeets] at reached
          rcases reached with ⟨held', step, meets'⟩
          rw [Completion.mapPoll, PollMeets]
          exact ⟨held', step, ih scene next after poll meets'⟩

theorem Meets.map
    {completion : Completion Scene (Except ε α)}
    (f : α → β) (meets : setting.Meets meaning completion held) :
    setting.Meets (meaning.map f) (completion.map f) held := by
  refine meets_mapResult _ ?_ meets
  rintro (error | value) rfl <;> rfl

theorem Starts.map
    {started : Completion Scene (Except ε α) × Scene}
    (f : α → β) (starts : setting.Starts meaning held scene started) :
    setting.Starts (meaning.map f) held scene (started.1.map f, started.2) := by
  rcases starts with ⟨held', step, meets⟩
  exact ⟨held', step, meets.map f⟩

section Chains

variable {next : α → Scene → Completion Scene (Except ε β) × Scene}
  {after : α → Option β}

/-- Continuations of a chain: from every scene they start without places. -/
def Continues
    (setting : Setting) (meaning : Option α) (after : α → Option β)
    (next : α → Scene → Completion Scene (Except ε β) × Scene) : Prop :=
  ∀ value, meaning = some value → ∀ scene, setting.Sound scene →
    setting.Starts (after value) ∅ scene (next value scene)

/-- A completion is resumed with what continues its meaning. -/
theorem Meets.resume
    {completion : Completion Scene (Except ε α)}
    (continues : setting.Continues meaning after next)
    (meets : setting.Meets meaning completion held)
    (sound : setting.Sound scene) (holds : scene.Holds held) :
    setting.Starts (meaning.bind after) held scene
      (completion.resume next scene) := by
  induction completion using Completion.ind generalizing held scene with
  | ready result =>
      rcases meets_ready_iff.mp meets with ⟨rfl, rfl⟩
      cases result with
      | error error =>
          rw [Completion.resume]
          exact starts_ready sound rfl
      | ok value =>
          rw [Completion.resume]
          exact (continues value rfl scene sound).poll sound
  | pending advance release ih =>
      rw [Completion.resume]
      refine ⟨held, .refl sound holds, ?_⟩
      rw [Meets] at meets ⊢
      intro scene sound holds
      rcases meets scene sound holds with ⟨reached, released⟩
      refine ⟨?_, released⟩
      cases poll : advance scene with
      | blocked =>
          rw [poll, PollMeets] at reached
          rw [Completion.resumePoll, PollMeets]
          exact reached
      | advanced next' after' =>
          rw [poll, PollMeets] at reached
          rcases reached with ⟨held', step, meets'⟩
          rw [Completion.resumePoll, PollMeets]
          exact (ih scene next' after' poll meets' step.sound step.holds).after
            sound step

/-- Two programs in a row mean what the second one makes of the meaning of the
first. -/
theorem Meets.andThen
    {completion : Completion Scene (Except ε α)}
    (continues : setting.Continues meaning after next)
    (meets : setting.Meets meaning completion held)
    (sound : setting.Sound scene) (holds : scene.Holds held) :
    setting.Starts (meaning.bind after) held scene
      (completion.andThen next scene) := by
  match completion with
  | .ready (.ok value) =>
      rcases meets_ready_iff.mp meets with ⟨rfl, rfl⟩
      exact continues value rfl scene sound
  | .ready (.error _) => exact meets.resume continues sound holds
  | .pending _ _ => exact meets.resume continues sound holds

theorem Starts.andThen
    {started : Completion Scene (Except ε α) × Scene}
    (sound : setting.Sound scene)
    (starts : setting.Starts meaning held scene started)
    (continues : setting.Continues meaning after next) :
    setting.Starts (meaning.bind after) held scene
      (started.1.andThen next started.2) := by
  rcases starts with ⟨held', step, meets⟩
  exact .after sound step (meets.andThen continues step.sound step.holds)

end Chains

section Joins

variable {combine : α → β → γ}
  {rejoin : Completion Scene (Except ε β) → Completion Scene (Except ε γ)}

/-- A way to go on with the second of two completions, after a first one that
holds the places `held` and ends in `meaning`. -/
def Rejoins
    (setting : Setting) (combine : α → β → γ) (meaning : Option α)
    (held : Set Place)
    (rejoin : Completion Scene (Except ε β) → Completion Scene (Except ε γ)) :
    Prop :=
  ∀ (second : Completion Scene (Except ε β)) (meaning' : Option β)
    (held' : Set Place),
    Disjoint held held' → setting.Meets meaning' second held' →
      setting.Meets (meaning.bind fun value => meaning'.map (combine value))
        (rejoin second) (held ∪ held')

/-- What polling the first of two completions at a scene led to, when it held
the places `held`. -/
def LeadMeets
    (setting : Setting) (combine : α → β → γ) (meaning : Option α)
    (held : Set Place)
    (scene : Scene) : Completion.Lead Scene ε β γ → Prop
  | .blocked => scene.Waits held
  | .failed _ after => setting.Step held ∅ scene after ∧ meaning = none
  | .moved rejoin release after =>
    ∃ held', setting.Step held held' scene after ∧
      (∀ later, setting.Sound later → later.Holds held' →
        setting.Step held' ∅ later (release later)) ∧
      setting.Rejoins combine meaning held' rejoin

/-- Without a second value there is no value for both. -/
theorem bind_map_none (combine : α → β → γ) (meaning : Option α) :
    (meaning.bind fun value => (none : Option β).map (combine value)) =
      none := by
  cases meaning <;> rfl

theorem Step.release_both
    {after last : Scene} (sound : setting.Sound scene)
    (holds : scene.Holds held') (apart : Disjoint held held')
    (first : setting.Step held ∅ scene after)
    (second : after.Holds held' → setting.Step held' ∅ after last) :
    setting.Step (held ∪ held') ∅ scene last := by
  have left := first.beside holds apart
  rw [Set.empty_union] at left
  exact left.trans sound (second (first.keeps_holds holds apart))

section Behind

variable
  {lead : Scene → Completion.Lead Scene ε β γ} {leadRelease : Scene → Scene}
  (leads :
    ∀ scene, setting.Sound scene → scene.Holds held →
      setting.LeadMeets combine meaning held scene (lead scene))
  (releases :
    ∀ scene, setting.Sound scene → scene.Holds held →
      setting.Step held ∅ scene (leadRelease scene))

include leads releases

/-- Behind the first completion, a second one that is ready waits for the first
one, and one that failed releases it at the next poll. -/
theorem meets_behind_ready
    {result : Except ε β} (result_eq : result.toOption = meaning') :
    setting.Meets (meaning.bind fun value => meaning'.map (combine value))
      (Completion.behind lead leadRelease (.ready result)) held := by
  subst result_eq
  cases result with
  | error error =>
      have fails :
          (meaning.bind fun value =>
            ((Except.error error : Except ε β).toOption).map (combine value)) =
            none :=
        bind_map_none combine meaning
      rw [Completion.behind, Meets, fails]
      intro scene sound holds
      refine ⟨?_, releases scene sound holds⟩
      have led := leads scene sound holds
      cases moved : lead scene with
      | blocked => exact ⟨∅, releases scene sound holds, meets_ready rfl⟩
      | failed first after =>
          rw [moved] at led
          exact ⟨∅, led.1, meets_ready rfl⟩
      | moved rejoin release after =>
          rw [moved] at led
          rcases led with ⟨held', step, released, -⟩
          have freed := released after step.sound step.holds
          exact ⟨∅, step.trans sound freed, meets_ready rfl⟩
  | ok value =>
      rw [Completion.behind, Meets]
      intro scene sound holds
      refine ⟨?_, releases scene sound holds⟩
      have led := leads scene sound holds
      cases moved : lead scene with
      | blocked =>
          rw [moved] at led
          exact led
      | failed first after =>
          rw [moved] at led
          rcases led with ⟨step, rfl⟩
          exact ⟨∅, step, meets_ready rfl⟩
      | moved rejoin release after =>
          rw [moved] at led
          rcases led with ⟨held', step, -, rejoins⟩
          have joined :=
            rejoins (.ready (.ok value)) (some value) ∅ (Set.disjoint_empty _)
              (meets_ready rfl)
          rw [Set.union_empty] at joined
          exact ⟨held', step, joined⟩

omit leads

/-- A poll of the second completion while the first one waits. -/
theorem pollMeets_behindPoll
    {poll : Poll Scene (Except ε β)}
    (behind :
      ∀ next after held', poll = .advanced next after →
        setting.Meets meaning' next held' →
        Disjoint held held' →
          setting.Meets (meaning.bind fun value => meaning'.map (combine value))
            (Completion.behind lead leadRelease next) (held ∪ held'))
    (holds : scene.Holds held) (apart : Disjoint held held')
    (sound : setting.Sound scene) (waits : scene.Waits held)
    (reached : setting.PollMeets meaning' poll held' scene) :
    setting.PollMeets (meaning.bind fun value => meaning'.map (combine value))
      (Completion.behindPoll lead leadRelease poll) (held ∪ held') scene := by
  match poll with
  | .blocked =>
      rw [PollMeets] at reached
      exact waits.union reached
  | .advanced next after =>
      rw [PollMeets] at reached
      rcases reached with ⟨held'', step, meets⟩
      have behind' :=
        behind next after held'' rfl meets (step.disjoint holds apart.symm).symm
      match next with
      | .ready (.error error) =>
          rcases meets_ready_iff.mp meets with ⟨rfl, rfl⟩
          have freed := step.release_both sound holds apart.symm
            fun holds => releases after step.sound holds
          rw [Set.union_comm] at freed
          exact ⟨∅, freed, meets_ready (bind_map_none combine meaning).symm⟩
      | .ready (.ok value) =>
          exact ⟨held ∪ held'', step.beside_left holds apart, behind'⟩
      | .pending advance release =>
          exact ⟨held ∪ held'', step.beside_left holds apart, behind'⟩

end Behind

/-- A poll of the second completion in the round in which the first one
moved. -/
theorem pollMeets_endRound
    {release : Scene → Scene} {second : Completion Scene (Except ε β)}
    {poll : Poll Scene (Except ε β)}
    (released :
      ∀ later, setting.Sound later → later.Holds held →
        setting.Step held ∅ later (release later))
    (rejoins : setting.Rejoins combine meaning held rejoin)
    (meets : setting.Meets meaning' second held') (apart : Disjoint held held')
    (sound : setting.Sound scene) (holds : scene.Holds held)
    (holds' : scene.Holds held')
    (reached : setting.PollMeets meaning' poll held' scene) :
    setting.PollMeets (meaning.bind fun value => meaning'.map (combine value))
      (Completion.endRound rejoin release second scene poll)
      (held ∪ held') scene := by
  match poll with
  | .blocked =>
      exact ⟨held ∪ held', .refl sound (Scene.holds_union.mpr ⟨holds, holds'⟩),
        rejoins second meaning' held' apart meets⟩
  | .advanced next after =>
      rw [PollMeets] at reached
      rcases reached with ⟨held'', step, meets'⟩
      have joined :=
        rejoins next meaning' held''
          (step.disjoint holds apart.symm).symm meets'
      match next with
      | .ready (.error error) =>
          rcases meets_ready_iff.mp meets' with ⟨rfl, rfl⟩
          have freed := step.release_both sound holds apart.symm
            fun holds => released after step.sound holds
          rw [Set.union_comm] at freed
          exact ⟨∅, freed, meets_ready (bind_map_none combine meaning).symm⟩
      | .ready (.ok value) =>
          exact ⟨held ∪ held'', step.beside_left holds apart, joined⟩
      | .pending advance release' =>
          exact ⟨held ∪ held'', step.beside_left holds apart, joined⟩

theorem PollMeets.after
    {poll : Poll Scene (Except ε α)} {after : Scene}
    (sound : setting.Sound scene) (step : setting.Step held held' scene after)
    (advances : ∃ next last, poll = .advanced next last)
    (reached : setting.PollMeets meaning poll held' after) :
    setting.PollMeets meaning poll held scene := by
  rcases advances with ⟨next, last, rfl⟩
  rw [PollMeets] at reached ⊢
  rcases reached with ⟨held'', later, meets⟩
  exact ⟨held'', step.trans sound later, meets⟩

/-- The second of two completions behind a first one. -/
theorem meets_behind
    {lead : Scene → Completion.Lead Scene ε β γ} {leadRelease : Scene → Scene}
    {second : Completion Scene (Except ε β)}
    (leads :
      ∀ scene, setting.Sound scene → scene.Holds held →
        setting.LeadMeets combine meaning held scene (lead scene))
    (releases :
      ∀ scene, setting.Sound scene → scene.Holds held →
        setting.Step held ∅ scene (leadRelease scene))
    (meets : setting.Meets meaning' second held')
    (apart : Disjoint held held') :
    setting.Meets (meaning.bind fun value => meaning'.map (combine value))
      (Completion.behind lead leadRelease second) (held ∪ held') := by
  induction second using Completion.ind generalizing held' with
  | ready result =>
      rcases meets_ready_iff.mp meets with ⟨rfl, result_eq⟩
      rw [Set.union_empty]
      exact meets_behind_ready leads releases result_eq
  | pending advance release ih =>
      have second := meets
      rw [Meets] at meets
      rw [Completion.behind_pending, Meets]
      intro scene sound holds
      rcases Scene.holds_union.mp holds with ⟨holdsFirst, holdsSecond⟩
      have led := leads scene sound holdsFirst
      have freed := releases scene sound holdsFirst
      refine ⟨?_, freed.release_both sound holdsSecond apart
        fun holds => (meets _ freed.sound holds).2⟩
      cases moved : lead scene with
      | blocked =>
          rw [moved] at led
          exact pollMeets_behindPoll releases
            (fun next after _ reached => ih scene next after reached) holdsFirst
              apart sound led
            (meets scene sound holdsSecond).1
      | failed error after =>
          rw [moved] at led
          rcases led with ⟨step, rfl⟩
          have given := step.release_both sound holdsSecond apart
            fun holds => (meets _ step.sound holds).2
          exact ⟨∅, given, meets_ready rfl⟩
      | moved rejoin leadRelease' after =>
          rw [moved] at led
          rcases led with ⟨first, step, released, rejoins⟩
          have holds' := step.keeps_holds holdsSecond apart
          have apart' := step.disjoint holdsSecond apart
          have round :=
            pollMeets_endRound released rejoins second apart' step.sound
              step.holds holds'
            (meets after step.sound holds').1
          exact round.after sound (step.beside holdsSecond apart)
            (Completion.endRound_advances _ _ _ _ _)

/-- Two completions driven together end in both values. -/
theorem meets_both
    (combine : α → β → γ) {first : Completion Scene (Except ε α)}
    {second : Completion Scene (Except ε β)}
    (meets : setting.Meets meaning first held)
    (meets' : setting.Meets meaning' second held')
    (apart : Disjoint held held') :
    setting.Meets (meaning.bind fun value => meaning'.map (combine value))
      (Completion.both combine first second) (held ∪ held') := by
  induction first using Completion.ind
      generalizing second meaning' held held' with
  | ready result =>
      rcases meets_ready_iff.mp meets with ⟨rfl, rfl⟩
      rw [Set.empty_union]
      cases result with
      | error error =>
          rw [Completion.both]
          unfold Completion.failing
          rw [Meets]
          intro scene sound holds
          have freed := meets'.abandon sound holds
          exact ⟨⟨∅, freed, meets_ready rfl⟩, freed⟩
      | ok value =>
          rw [Completion.both]
          exact meets'.map (combine value)
  | pending advance release ih =>
      rw [Meets] at meets
      rw [Completion.both]
      refine meets_behind ?_ (fun scene sound holds =>
        (meets scene sound holds).2) meets' apart
      intro scene sound holds
      have reached := (meets scene sound holds).1
      cases poll : advance scene with
      | blocked =>
          rw [poll, PollMeets] at reached
          exact reached
      | advanced next after =>
          rw [poll, PollMeets] at reached
          rcases reached with ⟨held'', step, moved⟩
          cases next with
          | ready result =>
              cases result with
              | error error =>
                  rcases meets_ready_iff.mp moved with ⟨rfl, rfl⟩
                  exact ⟨step, rfl⟩
              | ok value =>
                  exact ⟨held'', step,
                    fun later sound holds => moved.abandon sound holds,
                    fun second _ _ apart meets' =>
                      ih scene _ after poll moved meets' apart⟩
          | pending advance' release' =>
              exact ⟨held'', step,
                fun later sound holds => moved.abandon sound holds,
                fun second _ _ apart meets' =>
                  ih scene _ after poll moved meets' apart⟩

end Joins

section Lists

variable {meanings : List (Option α)}
  {completions : List (Completion Scene (Except ε α))}

/-- All values in order, if there are all. -/
def gather : List (Option α) → Option (List α)
  | [] => some []
  | meaning :: rest => meaning.bind fun value => (gather rest).map (value :: ·)

/-- Completions with places of their own, one meaning for each. -/
inductive AllMeet (setting : Setting) :
    List (Option α) → List (Completion Scene (Except ε α)) → Set Place → Prop
  | nil : AllMeet setting [] [] ∅
  | cons {meaning : Option α} {completion : Completion Scene (Except ε α)}
      {meanings : List (Option α)}
      {completions : List (Completion Scene (Except ε α))}
      {held held' : Set Place} (meets : setting.Meets meaning completion held)
      (rest : AllMeet setting meanings completions held')
      (apart : Disjoint held held') :
      AllMeet setting (meaning :: meanings) (completion :: completions)
        (held ∪ held')

/-- Computations have led, one after the other, from a scene to completions and
the scene after them. -/
def StartsAll
    (setting : Setting) (meanings : List (Option α)) (before : Scene)
    (started : List (Completion Scene (Except ε α)) × Scene) : Prop :=
  ∃ held, setting.Step ∅ held before started.2 ∧
    setting.AllMeet meanings started.1 held

theorem startsAll_nil (sound : setting.Sound scene) :
    setting.StartsAll [] scene (([] : List (Completion Scene (Except ε α))),
      scene) :=
  ⟨∅, .refl sound (Scene.holds_empty scene), .nil⟩

/-- What is started later takes places of its own. -/
theorem startsAll_cons
    {first : Completion Scene (Except ε α) × Scene}
    {others : List (Completion Scene (Except ε α)) × Scene}
    (sound : setting.Sound scene)
    (starts : setting.Starts meaning ∅ scene first)
    (rest : setting.StartsAll meanings first.2 others) :
    setting.StartsAll (meaning :: meanings) scene (first.1 :: others.1,
      others.2) := by
  rcases starts with ⟨held, step, meets⟩
  rcases rest with ⟨held', later, allMeet⟩
  have apart : Disjoint held held' :=
    (later.disjoint step.holds (Set.empty_disjoint _)).symm
  have beside := later.beside_left step.holds (Set.disjoint_empty held)
  rw [Set.union_empty] at beside
  exact ⟨held ∪ held', step.trans sound beside, .cons meets allMeet apart⟩

/-- Abandoning completions gives up all places that they hold. -/
theorem AllMeet.abandonAll
    (allMeet : setting.AllMeet meanings completions held)
    (sound : setting.Sound scene) (holds : scene.Holds held) :
    setting.Step held ∅ scene (Completion.abandonAll completions scene) := by
  induction allMeet generalizing scene with
  | nil => exact .refl sound holds
  | cons meets _ apart ih =>
      rcases Scene.holds_union.mp holds with ⟨holds, holds'⟩
      have freed := meets.abandon sound holds
      exact freed.release_both sound holds' apart fun holds =>
        ih freed.sound holds

theorem AllMeet.together
    (allMeet : setting.AllMeet meanings completions held) :
    setting.Meets (gather meanings) (Completion.together completions) held := by
  induction allMeet with
  | nil => exact meets_ready rfl
  | cons meets _ apart ih => exact meets_both List.cons meets ih apart

/-- Completions that are joined mean the list of their meanings, or nothing if
one of them means nothing. -/
theorem AllMeet.all
    (allMeet : setting.AllMeet meanings completions held)
    (sound : setting.Sound scene) (holds : scene.Holds held) :
    setting.Starts (gather meanings) held scene
      (Completion.all completions scene) := by
  induction allMeet with
  | nil => exact starts_ready sound rfl
  | @cons meaning completion meanings completions held held' meets rest
      apart ih =>
      have holds' := (Scene.holds_union.mp holds).2
      match completion with
      | .ready (.ok value) =>
          rcases meets_ready_iff.mp meets with ⟨rfl, rfl⟩
          rw [Set.empty_union] at holds ⊢
          rw [Completion.all]
          rcases ih holds with ⟨held'', step, joined⟩
          exact ⟨held'', step, joined.map (value :: ·)⟩
      | .ready (.error error) =>
          rcases meets_ready_iff.mp meets with ⟨rfl, rfl⟩
          rw [Set.empty_union] at holds ⊢
          rw [Completion.all]
          exact ⟨∅, rest.abandonAll sound holds, meets_ready rfl⟩
      | .pending advance release =>
          rw [Completion.all]
          exact ⟨held ∪ held', .refl sound holds,
            (AllMeet.cons meets rest apart).together⟩

theorem StartsAll.all
    {started : List (Completion Scene (Except ε α)) × Scene}
    (sound : setting.Sound scene)
    (starts : setting.StartsAll meanings scene started) :
    setting.Starts (gather meanings) ∅ scene
      (Completion.all started.1 started.2) := by
  rcases starts with ⟨held, step, allMeet⟩
  exact .after sound step (allMeet.all step.sound step.holds)

end Lists

/-- Whoever holds all places that are taken does not wait: the first place in a
line is its own. -/
theorem not_waits
    (alone : ∀ place, scene.InLine place → place ∈ held) :
    ¬ scene.Waits held := by
  rintro ⟨⟨⟨cell, ticket⟩, -, inLine⟩, notFirst⟩
  rw [Scene.InLine] at inLine
  cases line : (scene.data.memo cell).line with
  | nil =>
      rw [line] at inLine
      cases inLine
  | cons first rest =>
      have firstInLine : scene.InLine (cell, first) := by
        rw [Scene.InLine, line]
        exact List.mem_cons_self
      refine notFirst (cell, first) (alone _ firstInLine) ?_
      rw [Scene.IsFirst, line]
      rfl

/-- Driving a completion that holds all places that are taken ends in its
meaning, and leaves nobody in line. -/
theorem Meets.drive
    {completion : Completion Scene (Except ε α)}
    (meets : setting.Meets meaning completion held)
    (sound : setting.Sound scene) (holds : scene.Holds held)
    (alone : ∀ place, scene.InLine place → place ∈ held) :
    ∃ result after,
      completion.drive scene = (some result, after) ∧
        result.toOption = meaning ∧ setting.Sound after ∧ after.data.Idle := by
  induction completion using Completion.ind generalizing held scene with
  | ready result =>
      rcases meets_ready_iff.mp meets with ⟨rfl, equal⟩
      refine ⟨result, scene, ?_, equal, sound, ?_⟩
      · rw [Completion.drive]
      · intro cell
        refine List.eq_nil_iff_forall_not_mem.mpr fun ticket inLine => ?_
        exact alone (cell, ticket) inLine
  | pending advance release ih =>
      rw [Meets] at meets
      have reached := (meets scene sound holds).1
      rw [Completion.drive]
      cases poll : advance scene with
      | blocked =>
          rw [poll, PollMeets] at reached
          exact (not_waits alone reached).elim
      | advanced next after =>
          rw [poll, PollMeets] at reached
          rcases reached with ⟨held', step, meets'⟩
          rw [Completion.drivePoll]
          refine ih scene next after poll meets' step.sound step.holds ?_
          intro place inLine
          rcases step.owned place inLine with mine | ⟨earlier, outside⟩
          · exact mine
          · exact (outside (alone place earlier)).elim

/-- What is started on idle data is driven to its meaning. -/
theorem Starts.drive
    {started : Completion Scene (Except ε α) × Scene}
    (idle : scene.data.Idle) (starts : setting.Starts meaning ∅ scene started) :
    ∃ result after,
      started.1.drive started.2 = (some result, after) ∧
        result.toOption = meaning ∧ setting.Sound after ∧ after.data.Idle := by
  rcases starts with ⟨held, step, meets⟩
  refine meets.drive step.sound step.holds ?_
  intro place inLine
  rcases step.owned place inLine with mine | ⟨earlier, -⟩
  · exact mine
  · rw [Scene.InLine, idle] at earlier
    cases earlier

end Setting

end Phrasebook
