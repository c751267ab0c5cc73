import Phrasebook.Proofs.Evaluation.Program
import Phrasebook.Proofs.Turns.Order

/-!
# The place of the built-in resolvers

The built-in resolvers may be registered in any order and anywhere among other
resolvers.  As long as no other resolver has a priority of theirs, the chain is
the same except for the order of the resolvers of objects, arrays and texts,
which stand together, with the logic behind them.  A base is an object, an array
or a text, so at most one of the three applies to a request; and a chain that is
asked again behind each answer gives the answers of the resolvers that apply.
So it gives the same answers, wherever the built-in resolvers were registered.
-/

namespace Phrasebook

/-- Two lists of resolvers are registered among each other, each of them in its
own order. -/
inductive Resolver.Interleaved :
    List Resolver → List Resolver → List Resolver → Prop
  | nil : Interleaved [] [] []
  | left {resolver : Resolver} {ones others both : List Resolver}
      (rest : Interleaved ones others both) :
      Interleaved (resolver :: ones) others (resolver :: both)
  | right {resolver : Resolver} {ones others both : List Resolver}
      (rest : Interleaved ones others both) :
      Interleaved ones (resolver :: others) (resolver :: both)

namespace Resolver.Interleaved

variable {ones others both : List Resolver}

theorem filter
    (interleaved : Interleaved ones others both) (test : Resolver → Bool) :
    Interleaved (ones.filter test) (others.filter test) (both.filter test) := by
  induction interleaved with
  | nil => exact .nil
  | @left resolver _ _ _ _ ih =>
      by_cases kept : test resolver = true
      · simpa [kept] using ih.left
      · simpa [kept] using ih
  | @right resolver _ _ _ _ ih =>
      by_cases kept : test resolver = true
      · simpa [kept] using ih.right
      · simpa [kept] using ih

theorem eq_left
    (interleaved : Interleaved ones others both) (nothing : others = []) :
    both = ones := by
  induction interleaved with
  | nil => rfl
  | left _ ih => rw [ih nothing]
  | right => cases nothing

theorem eq_right
    (interleaved : Interleaved ones others both) (nothing : ones = []) :
    both = others := by
  induction interleaved with
  | nil => rfl
  | left => cases nothing
  | right _ ih => rw [ih nothing]

theorem ones_first (ones others : List Resolver) :
    Interleaved ones others (ones ++ others) := by
  induction ones with
  | cons _ _ ih => exact ih.left
  | nil =>
      induction others with
      | nil => exact .nil
      | cons _ _ ih => exact ih.right

theorem others_first (ones others : List Resolver) :
    Interleaved ones others (others ++ ones) := by
  induction others with
  | cons _ _ ih => exact ih.right
  | nil =>
      induction ones with
      | nil => exact .nil
      | cons _ _ ih => exact ih.left

end Resolver.Interleaved

namespace Chain

section Levels

variable {resolvers : List Resolver}

theorem mem_ofResolvers_filter {test : Resolver → Bool} {resolver : Resolver}
    (member : resolver ∈ ofResolvers (resolvers.filter test)) :
    test resolver = true :=
  (List.mem_filter.mp ((ofResolvers_orders _).perm.mem_iff.mp member)).2

/-- The resolvers of one priority among those that pass a test, when none of the
priority does. -/
theorem filter_priority_of_none {priority : Int} {test : Resolver → Bool}
    (fails : ∀ resolver : Resolver, resolver.priority = priority →
      test resolver = false) :
    (resolvers.filter test).filter (fun resolver =>
      resolver.priority = priority) = [] := by
  simp only [List.filter_filter, List.filter_eq_nil_iff, Bool.and_eq_true,
    decide_eq_true_eq, not_and, Bool.not_eq_true]
  exact fun resolver _ same => fails resolver same

/-- The resolvers of one priority among those that pass a test, when all of the
priority do. -/
theorem filter_priority_of_all {priority : Int} {test : Resolver → Bool}
    (passes : ∀ resolver : Resolver, resolver.priority = priority →
      test resolver = true) :
    (resolvers.filter test).filter (fun resolver =>
      resolver.priority = priority) =
      resolvers.filter fun resolver => resolver.priority = priority := by
  rw [List.filter_filter]
  apply List.filter_congr
  intro resolver _
  by_cases same : resolver.priority = priority
  · simp [same, passes resolver same]
  · simp [same]

end Levels

/-- A chain falls apart at a level: the resolvers above it, those at it, and
those below. -/
theorem ofResolvers_split (resolvers : List Resolver) (level : Int) :
    ofResolvers resolvers =
      ofResolvers (resolvers.filter fun resolver =>
        level < resolver.priority) ++
        resolvers.filter (fun resolver => resolver.priority = level) ++
        ofResolvers (resolvers.filter fun resolver =>
          resolver.priority < level) := by
  have whole := ofResolvers_orders resolvers
  have above :=
    ofResolvers_orders (resolvers.filter fun resolver =>
      level < resolver.priority)
  have below :=
    ofResolvers_orders (resolvers.filter fun resolver =>
      resolver.priority < level)
  have higher : ∀ resolver ∈ ofResolvers (resolvers.filter fun resolver =>
      level < resolver.priority),
      level < resolver.priority := fun _ member =>
        of_decide_eq_true (mem_ofResolvers_filter member)
  have lower : ∀ resolver ∈ ofResolvers (resolvers.filter fun resolver =>
      resolver.priority < level),
      resolver.priority < level := fun _ member =>
        of_decide_eq_true (mem_ofResolvers_filter member)
  have here : ∀ resolver ∈ resolvers.filter fun resolver =>
      resolver.priority = level,
      resolver.priority = level := fun _ member =>
        of_decide_eq_true (List.mem_filter.mp member).2
  apply eq_of_filters whole.descending
  · simp only [List.pairwise_append, List.mem_append]
    refine ⟨⟨above.descending, ?_, ?_⟩, below.descending, ?_⟩
    · apply List.pairwise_of_forall_mem_list
      intro one member other member'
      rw [here one member, here other member']
    · intro one member other member'
      have := higher one member
      have := here other member'
      omega
    · intro one member other member'
      have := lower other member'
      rcases member with member | member
      · have := higher one member
        omega
      · have := here one member
        omega
  · intro priority
    rw [whole.stable, List.filter_append, List.filter_append, above.stable,
      below.stable]
    -- Only the part that the priority belongs to has resolvers of it.
    rcases lt_trichotomy priority level with belongs | rfl | belongs
    · rw [filter_priority_of_none, filter_priority_of_none,
        filter_priority_of_all] <;> simp <;> omega
    · rw [filter_priority_of_none, filter_priority_of_all,
        filter_priority_of_none] <;> simp <;> omega
    · rw [filter_priority_of_all, filter_priority_of_none,
        filter_priority_of_none] <;> simp <;> omega

/-- Priorities are whole numbers, so the chain below a level begins with the
resolvers one below it. -/
theorem ofResolvers_below
    (resolvers : List Resolver) {level above : Int} (next : above = level + 1) :
    ofResolvers (resolvers.filter fun resolver => resolver.priority < above) =
      resolvers.filter (fun resolver => resolver.priority = level) ++
        ofResolvers (resolvers.filter fun resolver =>
          resolver.priority < level) := by
  have nothing :
      (resolvers.filter fun resolver => resolver.priority < above).filter
      (fun resolver => level < resolver.priority) = [] := by
    simp only [List.filter_filter, List.filter_eq_nil_iff, Bool.and_eq_true,
      decide_eq_true_eq]
    omega
  have here :
      (resolvers.filter fun resolver => resolver.priority < above).filter
      (fun resolver => resolver.priority = level) =
        resolvers.filter fun resolver => resolver.priority = level := by
    apply filter_priority_of_all
    intro resolver same
    rw [decide_eq_true_eq]
    omega
  have below :
      (resolvers.filter fun resolver => resolver.priority < above).filter
      (fun resolver => resolver.priority < level) =
        resolvers.filter fun resolver => resolver.priority < level := by
    rw [List.filter_filter]
    apply List.filter_congr
    intro resolver _
    by_cases lower : resolver.priority < level
    · simp only [lower, decide_true, Bool.true_and, decide_eq_true_eq]
      omega
    · simp [lower]
  rw [ofResolvers_split (resolvers.filter fun resolver =>
    resolver.priority < above) level, nothing, here, below,
    show ofResolvers [] = [] from List.mergeSort_nil, List.nil_append]

end Chain

namespace Resolver.BuiltIn

/-- The resolvers of objects, arrays and texts. -/
def ofKinds : List Resolver :=
  [objects, arrays, texts]

/-- The built-in resolvers, in any order, are registered anywhere among further
ones. -/
def Among (further registered : List Resolver) : Prop :=
  ∃ order : List Resolver, order.Perm all ∧ Interleaved order further registered

theorem among_first
    (further : List Resolver) : Among further (all ++ further) :=
  ⟨all, .refl all, .ones_first all further⟩

theorem among_last (further : List Resolver) : Among further (further ++ all) :=
  ⟨all, .refl all, .others_first all further⟩

/-- No base is of two kinds. -/
theorem ofKinds_exclusive (request : Request) :
    ofKinds.Pairwise fun one other =>
      ¬ (one.applies request = true ∧ other.applies request = true) := by
  have objectOrArray :
      ¬ (asksObject request = true ∧ asksArray request = true) := by
    cases base : request.base <;> simp [asksObject, asksArray, base]
  have objectOrText :
      ¬ (asksObject request = true ∧ asksText request = true) := by
    cases base : request.base <;> simp [asksObject, asksText, base]
  have arrayOrText :
      ¬ (asksArray request = true ∧ asksText request = true) := by
    cases base : request.base <;> simp [asksArray, asksText, base]
  simp only [ofKinds, List.pairwise_cons, List.mem_cons, List.not_mem_nil,
    or_false]
  refine ⟨?_, ?_, ?_⟩
  · rintro other (rfl | rfl)
    · exact objectOrArray
    · exact objectOrText
  · rintro other rfl
    exact arrayOrText
  · simp

/-- At most one of the three resolvers applies, so their order does not
matter. -/
theorem filter_ofKinds {three : List Resolver} (permuted : three.Perm ofKinds)
    (request : Request) :
    three.filter (fun resolver => resolver.applies request) =
      ofKinds.filter fun resolver => resolver.applies request := by
  have applying := permuted.filter fun resolver => resolver.applies request
  have alone : (ofKinds.filter fun resolver =>
    resolver.applies request).Pairwise fun _ _ => False := by
    apply ((ofKinds_exclusive request).filter _).imp_of_mem
    intro one other member member' exclusive
    exact exclusive ⟨(List.mem_filter.mp member).2,
      (List.mem_filter.mp member').2⟩
  refine applying.eq_of_pairwise ?_ (applying.symm.pairwise alone id) alone
  exact fun _ _ _ _ never => never.elim

/-- No further resolver has a priority of the built-in ones. -/
def Apart (further : List Resolver) : Prop :=
  ∀ resolver ∈ further, resolver.priority ≠ 0 ∧ resolver.priority ≠ 1

/-- The chain above the built-in resolvers, these in their places, and the chain
below them. -/
theorem exists_layout {further registered : List Resolver}
    (apart : Apart further) (among : Among further registered) :
    ∃ three : List Resolver, three.Perm ofKinds ∧
      Chain.ofResolvers registered =
        Chain.ofResolvers (further.filter fun resolver =>
          1 < resolver.priority) ++ three ++
          logic :: Chain.ofResolvers (further.filter fun resolver =>
            resolver.priority < 0) := by
  rcases among with ⟨order, permuted, interleaved⟩
  have ownPriority : ∀ resolver ∈ order, resolver.priority = 0 ∨
      resolver.priority = 1 := by
    intro resolver member
    have builtIn := permuted.mem_iff.mp member
    simp only [all, List.mem_cons, List.not_mem_nil, or_false] at builtIn
    rcases builtIn with rfl | rfl | rfl | rfl <;>
      simp [objects, arrays, texts, logic, ofValue]
  -- At a level of the built-in resolvers there are no others, and at any other
  -- level none of them.
  have furtherOnly (test : Resolver → Bool)
      (fails : ∀ resolver : Resolver, resolver.priority = 0 ∨
        resolver.priority = 1 → test resolver = false) :
      registered.filter test = further.filter test := by
    apply (interleaved.filter test).eq_right
    simpa [List.filter_eq_nil_iff] using fun resolver member =>
      fails resolver (ownPriority resolver member)
  have builtInOnly (test : Resolver → Bool)
      (fails : ∀ resolver : Resolver, resolver.priority ≠ 0 ∧
        resolver.priority ≠ 1 → test resolver = false) :
      registered.filter test = order.filter test := by
    apply (interleaved.filter test).eq_left
    simpa [List.filter_eq_nil_iff] using fun resolver member =>
      fails resolver (apart resolver member)
  have logicOnly : order.filter (fun resolver => resolver.priority = 0) =
      [logic] :=
    List.perm_singleton.mp (permuted.filter fun resolver =>
      resolver.priority = 0)
  refine ⟨order.filter fun resolver => resolver.priority = 1,
    permuted.filter fun resolver => resolver.priority = 1, ?_⟩
  calc
    Chain.ofResolvers registered
        = Chain.ofResolvers (registered.filter fun resolver =>
            1 < resolver.priority) ++
            registered.filter (fun resolver => resolver.priority = 1) ++
            Chain.ofResolvers (registered.filter fun resolver =>
              resolver.priority < 1) :=
          Chain.ofResolvers_split registered 1
    _ = Chain.ofResolvers (registered.filter fun resolver =>
      1 < resolver.priority) ++
            registered.filter (fun resolver => resolver.priority = 1) ++
            (registered.filter (fun resolver => resolver.priority = 0) ++
              Chain.ofResolvers (registered.filter fun resolver =>
                resolver.priority < 0)) := by
          rw [Chain.ofResolvers_below registered (zero_add 1).symm]
    _ = Chain.ofResolvers (further.filter fun resolver =>
      1 < resolver.priority) ++
            order.filter (fun resolver => resolver.priority = 1) ++
            logic :: Chain.ofResolvers (further.filter fun resolver =>
              resolver.priority < 0) := by
          rw [furtherOnly (fun resolver => 1 < resolver.priority),
            builtInOnly (fun resolver => resolver.priority = 1),
            builtInOnly (fun resolver => resolver.priority = 0),
            furtherOnly (fun resolver => resolver.priority < 0), logicOnly,
              List.singleton_append]
          all_goals
            simp only [decide_eq_false_iff_not]
            omega

end Resolver.BuiltIn

namespace Chain

/-- The answers to a request that is asked again behind each answer, from a
place of a chain on.  The calls are made in the given scenes, one after the
other. -/
def answers (chain : Chain) (request : Request) (start : Nat) :
    List Scene → List (Option (Resolved Scene) × Scene)
  | [] => []
  | scene :: later =>
    match chain.nextResolved request start scene with
    | (none, after) => [(none, after)]
    | (some (place, answer), after) =>
      (some answer, after) :: chain.answers request (place + 1) later

/-- The same answers, without the places. -/
def course (request : Request) :
    Chain → List Scene → List (Option (Resolved Scene) × Scene)
  | _, [] => []
  | [], scene :: _ => [(none, scene)]
  | resolver :: rest, scene :: later =>
    if resolver.applies request then
      match resolver.resolve request scene with
      | (none, after) => course request rest (after :: later)
      | (some answer, after) =>
        (some answer, after) :: course request rest later
    else course request rest (scene :: later)

variable {request : Request}

/-- A resolver that answers stands behind the place from which it was looked
for. -/
theorem le_of_firstAnswer
    {chain : Chain} {start place : Nat} {scene after : Scene}
    {answer : Resolved Scene}
    (answered : chain.firstAnswer start request scene =
      (some (place, answer), after)) : start ≤ place := by
  induction chain generalizing start scene with
  | nil => cases answered
  | cons resolver rest ih =>
      rw [firstAnswer] at answered
      split at answered
      · split at answered
        · cases answered
          exact Nat.le_refl _
        · exact Nat.le_of_succ_le (ih answered)
      · exact Nat.le_of_succ_le (ih answered)

/-- A course goes on behind the resolver that answers first. -/
theorem course_cons_scene
    (chain : Chain) (start : Nat) (scene : Scene) (later : List Scene) :
    course request chain (scene :: later) =
      match chain.firstAnswer start request scene with
      | (none, after) => [(none, after)]
      | (some (place, answer), after) =>
        (some answer, after) :: course request (chain.drop (place + 1 - start))
            later := by
  induction chain generalizing start scene with
  | nil => rfl
  | cons resolver rest ih =>
      have skipped (scene : Scene) :
          course request rest (scene :: later) =
            match firstAnswer (start + 1) rest request scene with
            | (none, after) => [(none, after)]
            | (some (place, answer), after) =>
              (some answer, after) :: course request
                  ((resolver :: rest).drop (place + 1 - start)) later := by
        rw [ih (start + 1)]
        rcases answered : firstAnswer (start + 1) rest request scene with
          ⟨_ | ⟨place, answer⟩, after⟩
        · rfl
        · have behind := le_of_firstAnswer answered
          have further : place + 1 - start = place + 1 - (start + 1) + 1 := by
            omega
          simp only [further, List.drop_succ_cons]
      rw [course, firstAnswer]
      split
      · rcases resolver.resolve request scene with ⟨_ | answer, after⟩
        · exact skipped after
        · simp
      · exact skipped scene

/-- The answers from a place on are the course of the chain from there. -/
theorem answers_eq_course (chain : Chain) (start : Nat) (scenes : List Scene) :
    chain.answers request start scenes =
      course request (chain.drop start) scenes := by
  induction scenes generalizing start with
  | nil => simp [answers, course]
  | cons scene later ih =>
      rw [answers, course_cons_scene _ start, nextResolved]
      rcases answered : firstAnswer start (chain.drop start) request scene with
        ⟨_ | ⟨place, answer⟩, after⟩
      · rfl
      · have behind := le_of_firstAnswer answered
        simp only [ih, List.drop_drop]
        rw [show start + (place + 1 - start) = place + 1 by omega]

/-- Resolvers that do not apply do not matter. -/
theorem course_filter (chain : Chain) (scenes : List Scene) :
    course request (chain.filter fun resolver => resolver.applies request)
      scenes =
      course request chain scenes := by
  induction chain generalizing scenes with
  | nil => rfl
  | cons resolver rest ih =>
      cases scenes with
      | nil => simp [course]
      | cons scene later =>
          by_cases applies : resolver.applies request = true
          · simp [course, applies, ih]
          · simp [course, applies, ih]

end Chain

end Phrasebook
