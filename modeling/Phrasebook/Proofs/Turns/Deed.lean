import Mathlib.Data.List.Lex
import Mathlib.Data.List.Pairwise
import Phrasebook.Resolver.Basic

/-!
# What evaluating an expression does, one deed after the other

What is done for one expression is a word of deeds: arguments of a part are
started, the part is looked up in a scope, resolvers have their turns, and the
part settles.  The deeds of the argument expressions themselves are not in this
word.

`Moves` says which deed may come in which phase, and `Reaches` collects the
words that come about so.  From there on everything is about words: each deed
comes later, in the order of parts, arguments, scopes and positions in the
chain, than all deeds before it, and what it needs has been done.
-/

namespace Phrasebook

/-- How an answer or a part ended. -/
inductive Outcome where
  | found
  | notFound
  | failed
  deriving DecidableEq, Repr

/-- A deed in the evaluation of one expression.  Parts and arguments, and the
positions of resolvers in their chain, are counted from zero; so are the levels
at which a part is looked up, from the innermost scope outwards. -/
inductive Deed where
  | started (part argument : Nat)
  | searched (part level : Nat)
  | skipped (part level position : Nat)
  | asked (part level position : Nat) (resolver : Resolver)
  | declined (part level position : Nat)
  | answered (part level position : Nat) (outcome : Outcome)
  | settled (part : Nat) (outcome : Outcome)

namespace Deed

/-- The part that a deed is for. -/
def part : Deed → Nat
  | .started part _ | .searched part _ | .skipped part _ _ | .asked part _ _
      _ | .declined part _ _
  | .answered part _ _ _ | .settled part _ => part

/-- Ranks are ordered lexicographically.  Within a part the arguments come
first; at a level, the turns follow the positions, and a turn is taken before it
is given back. -/
def rank : Deed → List Nat
  | .started part argument => [part, 0, argument]
  | .searched part level => [part, 1, level, 0]
  | .skipped part level position | .asked part level position _ =>
    [part, 1, level, position + 1, 0]
  | .declined part level position | .answered part level position _ =>
    [part, 1, level, position + 1, 1]
  | .settled part _ => [part, 2]

end Deed

/-- What the deeds of an expression depend on: the number of its parts, the
number of argument expressions of each part, and the chain of resolvers that is
asked for it. -/
structure Outline where
  parts : Nat
  arguments : Nat → Nat
  chain : Nat → Chain

/-- How far the evaluation of an expression has got. -/
inductive Phase where
  /-- Some arguments of a part have been started. -/
  | arguments (part count : Nat)
  /-- It is the turn of the resolver at a position, if there is one. -/
  | turn (part level position : Nat)
  /-- A resolver has been asked. -/
  | asking (part level position : Nat)
  /-- A resolver has given the answer for a part. -/
  | answered (part : Nat) (outcome : Outcome)
  /-- Nothing is left to do. -/
  | finished

namespace Outline

variable (outline : Outline)

/-- How a part may settle in a phase: an argument failed; a binding was found,
or the namespace was not; nobody is left to be asked; or a resolver has given
the answer. -/
inductive Settles : Phase → Nat → Outcome → Prop
  | argument (part : Nat) :
      Settles (.arguments part (outline.arguments part)) part .failed
  | binding (part level : Nat) (outcome : Outcome) :
      Settles (.turn part level 0) part outcome
  | exhausted (part level : Nat) :
      Settles (.turn part level (outline.chain part).length) part .notFound
  | answered (part : Nat) (outcome : Outcome) :
      Settles (.answered part outcome) part outcome

/-- Which deed may come in which phase, and the phase that it leads to. -/
inductive Moves : Phase → Deed → Phase → Prop
  | start {part count : Nat} (more : count < outline.arguments part) :
      Moves (.arguments part count) (.started part count)
        (.arguments part (count + 1))
  | search (part : Nat) :
      Moves (.arguments part (outline.arguments part)) (.searched part 0)
        (.turn part 0 0)
  | skip {part position : Nat} (level : Nat)
      (more : position < (outline.chain part).length) :
      Moves (.turn part level position) (.skipped part level position)
        (.turn part level (position + 1))
  | ask {part position : Nat} {resolver : Resolver} (level : Nat)
      (here : (outline.chain part)[position]? = some resolver) :
      Moves (.turn part level position) (.asked part level position resolver)
        (.asking part level position)
  | decline (part level position : Nat) :
      Moves (.asking part level position) (.declined part level position)
        (.turn part level (position + 1))
  | pass (part level position : Nat) :
      Moves (.asking part level position)
        (.answered part level position .notFound)
        (.turn part level (position + 1))
  | answer {outcome : Outcome} (part level position : Nat)
      (conclusive : outcome ≠ .notFound) :
      Moves (.asking part level position)
        (.answered part level position outcome) (.answered part outcome)
  | outward (part level : Nat) :
      Moves (.turn part level (outline.chain part).length)
        (.searched part (level + 1))
        (.turn part (level + 1) 0)
  | goOn {phase : Phase} {part : Nat}
      (settles : outline.Settles phase part .found)
      (more : part + 1 < outline.parts) :
      Moves phase (.settled part .found) (.arguments (part + 1) 0)
  | finish {phase : Phase} {part : Nat} {outcome : Outcome}
      (settles : outline.Settles phase part outcome)
      (last : outcome = .found → outline.parts ≤ part + 1) :
      Moves phase (.settled part outcome) .finished

/-- The words that lead to a phase. -/
inductive Reaches : List Deed → Phase → Prop
  | nil : Reaches [] (.arguments 0 0)
  | snoc {word : List Deed} {phase phase' : Phase} {deed : Deed}
      (reaches : Reaches word phase) (moves : outline.Moves phase deed phase') :
      Reaches (word ++ [deed]) phase'

end Outline

/-- The resolver at a position was passed over, declined, or gave an answer that
settled to not-found. -/
def Passed (part level position : Nat) (word : List Deed) : Prop :=
  .skipped part level position ∈ word ∨ .declined part level position ∈ word ∨
    .answered part level position .notFound ∈ word

namespace Outline

variable (outline : Outline)

/-- All arguments of a part have been started. -/
def AllStarted (part : Nat) (word : List Deed) : Prop :=
  ∀ argument < outline.arguments part, .started part argument ∈ word

/-- It can be the turn of the resolver at a position: all before it in the chain
were passed, at this level and at the levels inside it, and none has given the
answer for the part. -/
structure HasTurn (part level position : Nat) (word : List Deed) : Prop where
  passed : ∀ earlier < position, Passed part level earlier word
  inside : ∀ inner < level, ∀ earlier < (outline.chain part).length,
    Passed part inner earlier word
  undecided : ∀ inner earlier outcome,
    .answered part inner earlier outcome ∈ word → outcome = .notFound

/-- What a deed needs within its own part. -/
def Prepared (word : List Deed) : Deed → Prop
  | .started part argument => argument < outline.arguments part
  | .searched part level => outline.AllStarted part word ∧
      outline.HasTurn part level 0 word
  | .skipped part level position =>
    outline.AllStarted part word ∧ outline.HasTurn part level position word ∧
      position < (outline.chain part).length
  | .asked part level position resolver =>
    outline.AllStarted part word ∧ outline.HasTurn part level position word ∧
      (outline.chain part)[position]? = some resolver
  | .declined part level position | .answered part level position _ =>
    outline.AllStarted part word ∧ ∃ resolver,
      .asked part level position resolver ∈ word
  | .settled part _ => outline.AllStarted part word

/-- What holds whenever a deed comes after a word: it has a higher rank than all
before it, every earlier part has settled to something found, no part has
settled to anything else, and the deed is prepared. -/
structure Permitted (word : List Deed) (deed : Deed) : Prop where
  later : ∀ earlier ∈ word, earlier.rank < deed.rank
  found : ∀ earlier < deed.part, .settled earlier .found ∈ word
  goesOn : ∀ part outcome, .settled part outcome ∈ word → outcome = .found
  prepared : outline.Prepared word deed

end Outline

namespace Phase

/-- The part that a phase is about. -/
def part : Phase → Nat
  | .arguments part _ | .turn part _ _ | .asking part _ _ | .answered part _ =>
    part
  | .finished => 0

/-- Deeds before a phase have a lower rank. -/
def bound : Phase → List Nat
  | .arguments part count => [part, 0, count]
  | .turn part level position => [part, 1, level, position + 1, 0]
  | .asking part level position => [part, 1, level, position + 1, 1]
  | .answered part _ => [part, 2]
  | .finished => []

end Phase

namespace Outline

variable {outline : Outline} {word : List Deed} {phase phase' : Phase}
  {deed : Deed} {part : Nat} {outcome : Outcome}

/-- What is known, in each phase, of the part that it is about. -/
def Knows (outline : Outline) (word : List Deed) : Phase → Prop
  | .arguments part count => ∀ argument < count, .started part argument ∈ word
  | .turn part level position => outline.AllStarted part word ∧
      outline.HasTurn part level position word
  | .asking part level position =>
    outline.AllStarted part word ∧ outline.HasTurn part level position word ∧
      ∃ resolver, .asked part level position resolver ∈ word
  | .answered part _ => outline.AllStarted part word
  | .finished => True

/-- What is known of a word that leads to a phase. -/
structure Stands (outline : Outline) (word : List Deed) (phase : Phase) :
    Prop where
  below : ∀ deed ∈ word, deed.rank < phase.bound
  found : ∀ earlier < phase.part, .settled earlier .found ∈ word
  goesOn : ∀ part outcome, .settled part outcome ∈ word → outcome = .found
  knows : outline.Knows word phase

theorem Settles.part_eq (settles : outline.Settles phase part outcome) :
    phase.part = part := by
  cases settles <;> rfl

theorem Settles.bound_le (settles : outline.Settles phase part outcome) :
    phase.bound ≤ [part, 2] := by
  rw [← not_lt]
  cases settles <;> simp [Phase.bound, List.cons_lt_cons_iff]

theorem Settles.allStarted (settles : outline.Settles phase part outcome)
    (knows : outline.Knows word phase) :
    outline.AllStarted part word := by
  cases settles with
  | argument => exact knows
  | binding => exact knows.1
  | exhausted => exact knows.1
  | answered => exact knows

theorem Moves.part_eq (moves : outline.Moves phase deed phase') :
    phase.part = deed.part := by
  cases moves with
  | goOn settles => exact settles.part_eq
  | finish settles => exact settles.part_eq
  | _ => rfl

/-- A deed has at least the rank that its phase requires. -/
theorem Moves.bound_le (moves : outline.Moves phase deed phase') :
    phase.bound ≤ deed.rank := by
  cases moves with
  | goOn settles => exact settles.bound_le
  | finish settles => exact settles.bound_le
  | _ =>
      rw [← not_lt]
      simp [Phase.bound, Deed.rank, List.cons_lt_cons_iff]

theorem Moves.rank_lt
    (moves : outline.Moves phase deed phase') (goesOn : phase' ≠ .finished) :
    deed.rank < phase'.bound := by
  cases moves with
  | finish => exact (goesOn rfl).elim
  | _ => simp [Phase.bound, Deed.rank, List.cons_lt_cons_iff]

theorem Stands.permitted
    (stands : outline.Stands word phase)
    (moves : outline.Moves phase deed phase') :
    outline.Permitted word deed where
  later := fun earlier member =>
    (stands.below earlier member).trans_le moves.bound_le
  found := moves.part_eq ▸ stands.found
  goesOn := stands.goesOn
  prepared := by
    have knows := stands.knows
    cases moves with
    | start more => exact more
    | search part =>
        refine ⟨knows, nofun, nofun, fun inner earlier outcome member => ?_⟩
        have below := stands.below _ member
        simp [Phase.bound, Deed.rank, List.cons_lt_cons_iff] at below
    | skip level more => exact ⟨knows.1, knows.2, more⟩
    | ask level here => exact ⟨knows.1, knows.2, here⟩
    | decline | pass | answer => exact ⟨knows.1, knows.2.2⟩
    | outward part level =>
        refine ⟨knows.1, nofun, fun inner lower => ?_, knows.2.undecided⟩
        rcases Nat.lt_succ_iff_lt_or_eq.mp lower with deeper | rfl
        · exact knows.2.inside inner deeper
        · exact knows.2.passed
    | goOn settles => exact settles.allStarted knows
    | finish settles => exact settles.allStarted knows

theorem Passed.append
    {level position : Nat} (passed : Passed part level position word)
    (deed : Deed) :
    Passed part level position (word ++ [deed]) :=
  passed.imp (List.mem_append_left _)
    (Or.imp (List.mem_append_left _) (List.mem_append_left _))

theorem AllStarted.append
    (allStarted : outline.AllStarted part word) (deed : Deed) :
    outline.AllStarted part (word ++ [deed]) :=
  fun argument lower => List.mem_append_left _ (allStarted argument lower)

theorem mem_concat {earlier : Deed} :
    earlier ∈ word ++ [deed] ↔ earlier ∈ word ∨ earlier = deed := by
  rw [List.mem_append, List.mem_singleton]

/-- A deed that gives no answer for the part leaves the turn where it is. -/
theorem HasTurn.append
    {level position : Nat} (hasTurn : outline.HasTurn part level position word)
    (undecided : ∀ inner earlier outcome,
      deed = .answered part inner earlier outcome → outcome = .notFound) :
    outline.HasTurn part level position (word ++ [deed]) where
  passed := fun earlier lower =>
    Passed.append (hasTurn.passed earlier lower) deed
  inside := fun inner lower earlier inChain =>
    Passed.append (hasTurn.inside inner lower earlier inChain) deed
  undecided := fun inner earlier outcome member =>
    (mem_concat.mp member).elim (hasTurn.undecided inner earlier outcome)
      fun same => undecided inner earlier outcome same.symm

/-- The turn passes on to the next position. -/
theorem HasTurn.next
    {level position : Nat} (hasTurn : outline.HasTurn part level position word)
    (undecided : ∀ inner earlier outcome,
      deed = .answered part inner earlier outcome → outcome = .notFound)
    (passed : Passed part level position (word ++ [deed])) :
    outline.HasTurn part level (position + 1) (word ++ [deed]) := by
  have here := hasTurn.append undecided
  refine ⟨fun earlier lower => ?_, here.inside, here.undecided⟩
  rcases Nat.lt_succ_iff_lt_or_eq.mp lower with before | rfl
  · exact here.passed earlier before
  · exact passed

/-- What is known after a deed of the part that it leads to. -/
theorem Stands.knows_after
    (stands : outline.Stands word phase)
    (moves : outline.Moves phase deed phase') :
    outline.Knows (word ++ [deed]) phase' := by
  have prepared := (stands.permitted moves).prepared
  have knows := stands.knows
  have last : deed ∈ word ++ [deed] :=
    List.mem_append_right _ (List.mem_singleton_self deed)
  cases moves with
  | start =>
      intro argument lower
      rcases Nat.lt_succ_iff_lt_or_eq.mp lower with before | rfl
      · exact List.mem_append_left _ (knows argument before)
      · exact last
  | search => exact ⟨prepared.1.append _, prepared.2.append nofun⟩
  | skip => exact ⟨knows.1.append _, knows.2.next nofun (.inl last)⟩
  | ask => exact ⟨knows.1.append _, knows.2.append nofun, _, last⟩
  | decline => exact ⟨knows.1.append _, knows.2.1.next nofun (.inr (.inl last))⟩
  | pass =>
      refine ⟨knows.1.append _, knows.2.1.next ?_ (.inr (.inr last))⟩
      rintro _ _ _ ⟨⟩
      rfl
  | answer => exact knows.1.append _
  | outward => exact ⟨prepared.1.append _, prepared.2.append nofun⟩
  | goOn => exact nofun
  | finish => trivial

theorem Stands.moves
    (stands : outline.Stands word phase)
    (moves : outline.Moves phase deed phase')
    (unfinished : phase' ≠ .finished) :
    outline.Stands (word ++ [deed]) phase' where
  below := by
    intro earlier member
    have rank_lt := moves.rank_lt unfinished
    rcases mem_concat.mp member with before | rfl
    · exact ((stands.below earlier before).trans_le moves.bound_le).trans
        rank_lt
    · exact rank_lt
  found := by
    intro earlier lower
    cases moves with
    | @goOn _ part settles =>
        rcases Nat.lt_succ_iff_lt_or_eq.mp lower with before | rfl
        · exact List.mem_append_left _
            (stands.found earlier (settles.part_eq ▸ before))
        · exact List.mem_append_right _ (List.mem_singleton_self _)
    | finish => exact (unfinished rfl).elim
    | _ => exact List.mem_append_left _ (stands.found earlier lower)
  goesOn := by
    intro part outcome member
    rcases mem_concat.mp member with before | same
    · exact stands.goesOn part outcome before
    · cases moves with
      | goOn => cases same; rfl
      | finish => exact (unfinished rfl).elim
      | _ => cases same
  knows := stands.knows_after moves

/-- What is known of all words, until nothing is left to do. -/
theorem Reaches.stands
    (reaches : outline.Reaches word phase) (unfinished : phase ≠ .finished) :
    outline.Stands word phase := by
  induction reaches with
  | nil => exact ⟨nofun, nofun, nofun, nofun⟩
  | snoc reaches moves ih =>
      refine (ih ?_).moves moves unfinished
      rintro rfl
      rcases moves with _ | _ | _ | _ | _ | _ | _ | _ | settles | settles <;>
        cases settles

theorem Moves.unfinished (moves : outline.Moves phase deed phase') :
    phase ≠ .finished := by
  rintro rfl
  rcases moves with _ | _ | _ | _ | _ | _ | _ | _ | settles | settles <;>
    cases settles

/-- Each deed of a word is permitted by what is before it. -/
theorem Reaches.permitted
    (reaches : outline.Reaches word phase) {before after : List Deed}
    (split : word = before ++ deed :: after) :
    outline.Permitted before deed := by
  induction reaches generalizing after with
  | nil => simp at split
  | @snoc word _ _ last reaches moves ih =>
      rcases List.eq_nil_or_concat after with rfl | ⟨after, final, rfl⟩
      · rcases List.append_inj' split rfl with ⟨rfl, ⟨⟩⟩
        exact (reaches.stands moves.unfinished).permitted moves
      · rw [List.concat_eq_append, ← List.cons_append, ← List.append_assoc]
          at split
        exact ih (List.append_inj' split rfl).1

theorem Reaches.pairwise (reaches : outline.Reaches word phase) :
    word.Pairwise fun earlier later => earlier.rank < later.rank := by
  induction reaches with
  | nil => exact .nil
  | snoc reaches moves ih =>
      refine List.pairwise_append.mpr ⟨ih, List.pairwise_singleton _ _,
        fun earlier member last same => ?_⟩
      rw [List.mem_singleton.mp same]
      exact ((reaches.stands moves.unfinished).permitted moves).later
        earlier member

/-- No two deeds of a word have the same rank. -/
theorem Reaches.eq_of_rank_eq
    (reaches : outline.Reaches word phase) {deed' : Deed} (member : deed ∈ word)
    (member' : deed' ∈ word)
    (same : deed.rank = deed'.rank) : deed = deed' := by
  have distinct : word.Pairwise fun earlier later =>
    earlier.rank ≠ later.rank :=
    reaches.pairwise.imp fun lower => lower.ne
  have symmetric : Std.Symm fun earlier later : Deed =>
    earlier.rank ≠ later.rank := ⟨fun _ _ ranks => ranks.symm⟩
  by_contra different
  exact distinct.forall member member' different same

end Outline

end Phrasebook
