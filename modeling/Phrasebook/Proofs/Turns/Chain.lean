import Mathlib.Data.List.Induction
import Phrasebook.Proofs.Message.Catalog

/-!
# The order of a chain

A chain has the resolvers that were registered, by descending priority and,
where priorities are equal, in the order of registration.  This determines the
chain: it does not matter in which order resolvers of different priorities were
registered.  Every chain of an engine is in order, that of a namespace also
after more resolvers have been added to it.
-/

namespace Phrasebook

/-- A chain has the registered resolvers in order. -/
structure Chain.Orders (registered : List Resolver) (chain : Chain) : Prop where
  perm : chain.Perm registered
  descending : chain.Pairwise fun earlier later =>
    later.priority ≤ earlier.priority
  stable : ∀ priority : Int,
    chain.filter (fun resolver => resolver.priority = priority) =
      registered.filter fun resolver => resolver.priority = priority

namespace Chain

variable {registered registered' : List Resolver} {chain chain' : Chain}

theorem ofResolvers_orders (registered : List Resolver) :
    Orders registered (ofResolvers registered) := by
  have transitive : ∀ first second third : Resolver,
      decide (second.priority ≤ first.priority) →
        decide (third.priority ≤ second.priority) →
        decide (third.priority ≤ first.priority) := by
    simp only [decide_eq_true_eq]
    omega
  have total : ∀ first second : Resolver,
      (decide (second.priority ≤ first.priority) ||
          decide (first.priority ≤ second.priority)) = true := by
    simp only [Bool.or_eq_true, decide_eq_true_eq]
    omega
  refine ⟨List.mergeSort_perm registered _, ?_, fun priority => ?_⟩
  · exact (List.pairwise_mergeSort transitive total registered).imp
      of_decide_eq_true
  · have equal : (registered.filter fun resolver =>
        resolver.priority = priority).Pairwise
        fun first second => decide (second.priority ≤ first.priority) =
            true := by
      refine List.pairwise_of_forall_mem_list fun first member second member' =>
        ?_
      have same := of_decide_eq_true (List.mem_filter.mp member).2
      have same' := of_decide_eq_true (List.mem_filter.mp member').2
      simp [same, same']
    have kept :=
      List.sublist_mergeSort transitive total equal List.filter_sublist
    have filtered := kept.filter fun resolver =>
      decide (resolver.priority = priority)
    simp only [List.filter_filter, Bool.and_self] at filtered
    refine (filtered.eq_of_length ?_).symm
    exact ((List.mergeSort_perm registered _).filter _).length_eq.symm

/-- One more resolver is registered for a chain. -/
theorem Orders.concat (orders : Orders registered chain) (one : Resolver) :
    Orders (registered ++ [one]) (ofResolvers (chain ++ [one])) := by
  have again := ofResolvers_orders (chain ++ [one])
  refine ⟨again.perm.trans (orders.perm.append_right [one]), again.descending,
    fun priority => ?_⟩
  rw [again.stable, List.filter_append, List.filter_append, orders.stable]

/-- Chains by descending priority are the same when they have the same resolvers
at each priority. -/
theorem eq_of_filters
    (descending : chain.Pairwise fun earlier later =>
      later.priority ≤ earlier.priority)
    (descending' : chain'.Pairwise fun earlier later =>
      later.priority ≤ earlier.priority)
    (same : ∀ priority : Int,
      chain.filter (fun resolver => resolver.priority = priority) =
        chain'.filter fun resolver => resolver.priority = priority) :
    chain = chain' := by
  induction chain generalizing chain' with
  | nil =>
      cases chain' with
      | nil => rfl
      | cons first' _ => simpa using same first'.priority
  | cons first rest ih =>
      cases chain' with
      | nil => simpa using same first.priority
      | cons first' rest' =>
          rcases List.pairwise_cons.mp descending with ⟨highest, others⟩
          rcases List.pairwise_cons.mp descending' with ⟨highest', others'⟩
          -- Each head is in the other chain, so no priority is higher than that
          -- of the other head.
          have atMost : first'.priority ≤ first.priority := by
            have member : first' ∈ (first :: rest).filter fun resolver =>
              resolver.priority = first'.priority := by
              simp [same]
            rcases List.mem_cons.mp (List.mem_filter.mp member).1 with
              rfl | later
            · exact Int.le_refl _
            · exact highest first' later
          have atLeast : first.priority ≤ first'.priority := by
            have member : first ∈ (first' :: rest').filter fun resolver =>
              resolver.priority = first.priority := by
              simp [← same]
            rcases List.mem_cons.mp (List.mem_filter.mp member).1 with
              rfl | later
            · exact Int.le_refl _
            · exact highest' first later
          have equal : first'.priority = first.priority :=
            Int.le_antisymm atMost atLeast
          have heads := same first.priority
          rw [List.filter_cons_of_pos (by simp),
            List.filter_cons_of_pos (by simp [equal])] at heads
          injection heads with head tails
          subst head
          congr 1
          refine ih others others' fun priority => ?_
          have whole := same priority
          by_cases here : first.priority = priority <;> simpa [here] using whole

/-- Only the order of resolvers with equal priorities matters. -/
theorem Orders.unique
    (orders : Orders registered chain) (orders' : Orders registered' chain')
    (same : ∀ priority : Int,
      registered.filter (fun resolver => resolver.priority = priority) =
        registered'.filter fun resolver => resolver.priority = priority) :
    chain = chain' :=
  eq_of_filters orders.descending orders'.descending fun priority => by
    rw [orders.stable, orders'.stable, same]

end Chain

/-- The resolvers that were registered under a qualifier. -/
def registeredUnder (qualifier : String) (ones : List NamespaceResolver) :
    List Resolver :=
  (ones.filter fun one => one.qualifier = qualifier).map
    NamespaceResolver.resolver

namespace Engine

variable {qualifier : String}

theorem registeredUnder_concat
    (ones : List NamespaceResolver) (one : NamespaceResolver) :
    registeredUnder qualifier (ones ++ [one]) =
      registeredUnder qualifier ones ++ if one.qualifier = qualifier
        then [one.resolver] else [] := by
  by_cases here : one.qualifier = qualifier <;> simp [registeredUnder, here]

theorem get?_grouped (ones : List NamespaceResolver) :
    ((grouped ones).get? qualifier).getD [] =
      registeredUnder qualifier ones := by
  induction ones using List.reverseRecOn with
  | nil => rfl
  | append_singleton ones one ih =>
      rw [registeredUnder_concat, grouped, List.foldl_append, List.foldl_cons,
        List.foldl_nil, ← grouped]
      by_cases here : one.qualifier = qualifier
      · subst here
        rw [Dictionary.get?_insert_self, Option.getD_some, ih, if_pos rfl]
      · rw [Dictionary.get?_insert_of_ne (Ne.symm here), ih, if_neg here,
          List.append_nil]

theorem orders_build
    (resolvers : List Resolver) (ones : List NamespaceResolver)
    (mappers : List Mapper)
    (initializers : List Initializer) (config : Config) (qualifier : String) :
    Chain.Orders (registeredUnder qualifier ones)
      ((build resolvers ones mappers initializers config).served
        qualifier) := by
  have chains :
      (build resolvers ones mappers initializers config).namespaces.get?
        qualifier =
      ((grouped ones).get? qualifier).map Chain.ofResolvers :=
    Dictionary.get?_map _ _ _
  rw [← get?_grouped, served, chains]
  cases (grouped ones).get? qualifier with
  | none =>
      refine ⟨.refl [], .nil, fun _ => rfl⟩
  | some group => exact Chain.ofResolvers_orders group

theorem orders_addNamespace
    {engine : Engine} {ones : List NamespaceResolver} (one : NamespaceResolver)
    (orders : Chain.Orders (registeredUnder qualifier ones)
      (engine.served qualifier)) :
    Chain.Orders (registeredUnder qualifier (ones ++ [one]))
      ((engine.addNamespace one).served qualifier) := by
  rw [registeredUnder_concat, served, addNamespace]
  by_cases here : one.qualifier = qualifier
  · subst here
    rw [Dictionary.get?_insert_self, if_pos rfl]
    exact orders.concat one.resolver
  · rw [Dictionary.get?_insert_of_ne (Ne.symm here), if_neg here,
      List.append_nil]
    exact orders

/-- The resolvers of every namespace are in order, those that were added later
included. -/
theorem orders_addNamespaces
    (resolvers : List Resolver) (ones others : List NamespaceResolver)
    (mappers : List Mapper)
    (initializers : List Initializer) (config : Config) (qualifier : String) :
    Chain.Orders (registeredUnder qualifier (ones ++ others))
      ((others.foldl addNamespace
        (build resolvers ones mappers initializers config)).served
        qualifier) := by
  induction others using List.reverseRecOn with
  | nil =>
      rw [List.append_nil]
      exact orders_build resolvers ones mappers initializers config qualifier
  | append_singleton others one ih =>
      rw [← List.append_assoc, List.foldl_append]
      exact orders_addNamespace one ih

theorem resolvers_addNamespaces
    (others : List NamespaceResolver) (engine : Engine) :
    (others.foldl addNamespace engine).resolvers = engine.resolvers := by
  induction others generalizing engine with
  | nil => rfl
  | cons one rest ih => exact ih (engine.addNamespace one)

end Engine

end Phrasebook
