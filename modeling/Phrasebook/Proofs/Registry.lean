import Mathlib.Data.List.Nodup
import Phrasebook.Proofs.Scene

/-!
# Registered templates

Registering sources in order leaves under each id the parse of the last source
with that id, and it succeeds exactly when each source is a template.
-/

namespace Phrasebook

/-- A template is among the registered ones. -/
def Template.Registered
    (templates : Dictionary Template) (template : Template) : Prop :=
  template ∈ templates.map Prod.snd

namespace Registry

variable {registry : Registry} {id : String} {template : Template}

theorem get_eq_ok : registry.get id = .ok template ↔
    registry.templates.get? id = some template := by
  rw [get]
  cases registry.templates.get? id <;> simp

theorem registered_of_get (stands : registry.get id = .ok template) :
    template.Registered registry.templates :=
  List.mem_map.mpr ⟨(id, template),
    Dictionary.mem_of_get? (get_eq_ok.mp stands), rfl⟩

theorem mem_ids_iff : id ∈ registry.ids ↔
    ∃ template, registry.templates.get? id = some template := by
  constructor
  · intro member
    rcases List.mem_map.mp member with ⟨entry, inside, same⟩
    exact Option.isSome_iff_exists.mp
      (List.lookup_isSome_iff.mpr ⟨entry, inside, beq_iff_eq.mpr same.symm⟩)
  · rintro ⟨template, stands⟩
    exact List.mem_map.mpr ⟨(id, template), Dictionary.mem_of_get? stands, rfl⟩

theorem exists_get_of_mem (member : id ∈ registry.ids) :
    ∃ template, registry.get id = .ok template := by
  rcases mem_ids_iff.mp member with ⟨template, stands⟩
  exact ⟨template, get_eq_ok.mpr stands⟩

end Registry

namespace EngineState

variable {state state' : EngineState} {sources : List (String × String)}

theorem register_ok {id source : String} {template : Template}
    (registered : state.register id source = (.ok template, state')) :
    template.id = id ∧ TemplateNode.parse id source = .ok template.nodes ∧
      state'.registry.templates =
        state.registry.templates.insert id template := by
  simp only [register, Registry.register, Registry.parseAs] at registered
  cases parsed : TemplateNode.parse id source with
  | error error =>
      rw [parsed] at registered
      cases registered
  | ok nodes =>
      rw [parsed] at registered
      cases registered
      exact ⟨rfl, rfl, rfl⟩

/-- The last source under an id. -/
def lastSource? (id : String) (sources : List (String × String)) :
    Option String :=
  sources.reverse.lookup id

theorem lastSource?_cons
    (id first source : String) (rest : List (String × String)) :
    lastSource? id ((first, source) :: rest) =
      (lastSource? id rest).or (if id = first then some source else none) := by
  rw [lastSource?, List.reverse_cons, List.lookup_append, lastSource?]
  congr 1
  by_cases same : id = first
  · rw [if_pos same, List.lookup_cons, beq_iff_eq.mpr same]
  · rw [if_neg same, List.lookup_cons, beq_eq_false_iff_ne.mpr same]
    rfl

theorem mem_of_lastSource? {id source : String}
    (last : lastSource? id sources = some source) : (id, source) ∈ sources := by
  apply List.mem_reverse.mp
  exact Dictionary.mem_of_get? last

theorem exists_lastSource? {id source : String}
    (member : (id, source) ∈ sources) :
    ∃ last, lastSource? id sources = some last := by
  refine Option.isSome_iff_exists.mp
    (List.lookup_isSome_iff.mpr ⟨(id, source), ?_, beq_iff_eq.mpr rfl⟩)
  exact List.mem_reverse.mpr member

/-- Under an id stands the parse of the last source of the id, or what stood
there before. -/
theorem get?_registerAll
    (registered : state.registerAll sources = (.ok (), state')) (id : String) :
    match lastSource? id sources with
    | some source =>
      ∃ template, state'.registry.templates.get? id = some template ∧
        template.id = id ∧
        TemplateNode.parse id source = .ok template.nodes
    | none => state'.registry.templates.get? id =
        state.registry.templates.get? id := by
  induction sources generalizing state with
  | nil =>
      cases registered
      rfl
  | cons one rest ih =>
      rcases one with ⟨first, source⟩
      rw [registerAll] at registered
      cases single : state.register first source with
      | mk result middle =>
          rw [single] at registered
          cases result with
          | error error => cases registered
          | ok template =>
              rcases register_ok single with ⟨named, parsed, inserted⟩
              have later := ih registered
              rw [lastSource?_cons]
              cases last : lastSource? id rest with
              | some other =>
                  rw [last] at later
                  exact later
              | none =>
                  rw [last] at later
                  rw [Option.none_or]
                  by_cases same : id = first
                  · subst same
                    rw [if_pos rfl]
                    refine ⟨template, ?_, named, parsed⟩
                    rw [later, inserted, Dictionary.get?_insert_self]
                  · rw [if_neg same]
                    show state'.registry.templates.get? id = _
                    rw [later, inserted, Dictionary.get?_insert_of_ne same]

/-- Registering adds the ids of the sources to those that were there. -/
theorem mem_ids_registerAll
    (registered : state.registerAll sources = (.ok (), state')) {id : String} :
    id ∈ state'.registry.ids ↔ id ∈ state.registry.ids ∨
      id ∈ sources.map Prod.fst := by
  have registration := get?_registerAll registered id
  rw [Registry.mem_ids_iff, Registry.mem_ids_iff]
  cases last : lastSource? id sources with
  | some source =>
      rw [last] at registration
      rcases registration with ⟨template, stands, -⟩
      have listed : id ∈ sources.map Prod.fst :=
        List.mem_map.mpr ⟨_, mem_of_lastSource? last, rfl⟩
      exact iff_of_true ⟨template, stands⟩ (.inr listed)
  | none =>
      rw [last] at registration
      dsimp only at registration
      rw [registration]
      refine (or_iff_left ?_).symm
      intro listed
      rcases List.mem_map.mp listed with ⟨⟨_, source⟩, member, rfl⟩
      rcases exists_lastSource? member with ⟨other, found⟩
      rw [last] at found
      cases found

theorem exists_register
    {id source : String} {nodes : List TemplateNode}
    (parsed : TemplateNode.parse id source = .ok nodes) (state : EngineState) :
    ∃ template state', state.register id source = (.ok template, state') := by
  simp [register, Registry.register, Registry.parseAs, parsed]

/-- Sources are registered in order exactly when each of them is a template. -/
theorem exists_registerAll_iff :
    (∃ state', state.registerAll sources = (.ok (), state')) ↔
      ∀ entry ∈ sources, ∃ nodes, TemplateNode.parse entry.1 entry.2 =
        .ok nodes := by
  induction sources generalizing state with
  | nil => exact iff_of_true ⟨state, rfl⟩ (List.forall_mem_nil _)
  | cons entry rest ih =>
      rcases entry with ⟨id, source⟩
      rw [List.forall_mem_cons]
      constructor
      · rintro ⟨state', registered⟩
        rw [registerAll] at registered
        cases single : state.register id source with
        | mk result middle =>
            rw [single] at registered
            cases result with
            | error error => cases registered
            | ok template =>
                exact ⟨⟨_, (register_ok single).2.1⟩,
                  ih.mp ⟨state', registered⟩⟩
      · rintro ⟨⟨nodes, parsed⟩, others⟩
        rcases exists_register parsed state with ⟨template, middle, registered⟩
        rcases ih.mpr others with ⟨state', later⟩
        exact ⟨state', by rw [registerAll, registered]; exact later⟩

/-- Where ids are used once, the parse of a source stands under its id. -/
theorem exists_of_mem_sources
    (registered : state.registerAll sources = (.ok (), state'))
    (ids : (sources.map Prod.fst).Nodup) {id source : String}
    (member : (id, source) ∈ sources) :
    ∃ template, state'.registry.templates.get? id = some template ∧
      template.id = id ∧
      TemplateNode.parse id source = .ok template.nodes := by
  rcases exists_lastSource? member with ⟨last, found⟩
  have same :=
    List.inj_on_of_nodup_map ids (mem_of_lastSource? found) member rfl
  have registration := get?_registerAll registered id
  rw [found, (Prod.mk.inj same).2] at registration
  exact registration

end EngineState

end Phrasebook
