import Phrasebook.Engine.Basic
import Phrasebook.Proofs.Registry.History

/-!
# Templates that were handed out

At a desk templates are asked for, instances are made of those that were handed
out, and the data of instances change.  Every call is answered by the history
alone: a lookup gets the last template that was registered under the id, the ids
are those that were registered, and no generated id is given out twice.  What
was handed out stays as it was, in instances too, whatever is registered later.
-/

namespace Phrasebook

open Registry (Answer Call History)

/-- An initializer changes neither the template of an instance nor the
registered templates. -/
structure Initializer.Modest (initializer : Initializer) : Prop where
  template : ∀ target state, (initializer target state).1.template =
    target.template
  registry : ∀ target state, (initializer target state).2.registry =
    state.registry

/-- A new instance is one of its template, and making it registers nothing. -/
theorem Engine.instantiate_modest
    {engine : Engine}
    (modest : ∀ initializer ∈ engine.initializers, initializer.Modest)
    (template : Template) (state : EngineState) :
    (engine.instantiate template state).1.template = template ∧
      (engine.instantiate template state).2.registry = state.registry := by
  refine List.foldlRecOn
    (motive := fun (made : Instance × EngineState) =>
      made.1.template = template ∧ made.2.registry = state.registry)
    engine.initializers _ ⟨rfl, rfl⟩ ?_
  rintro ⟨target, reached⟩ ⟨kept, left⟩ initializer member
  have own := modest initializer member
  exact ⟨(own.template target reached).trans kept,
    (own.registry target reached).trans left⟩

/-- What is changed of an instance. -/
inductive Edit where
  | rebind (change : Bindings → Bindings)
  | mark (key : String) (value : Attribute)
  | onComplete (callback : Callback)

namespace Edit

def apply : Edit → Instance → Instance
  | .rebind change => Instance.updateBindings change
  | .mark key value => Instance.setAttribute key value
  | .onComplete callback => Instance.onComplete callback

theorem template_apply (edit : Edit) (target : Instance) :
    (edit.apply target).template = target.template := by
  cases edit <;> rfl

end Edit

/-- An engine in use: the calls with their answers, and the instances that were
made. -/
structure Desk where
  state : EngineState
  history : History := []
  instances : List Instance := []

namespace Desk

/-- A call, an instance of a template that was handed out, or a change of an
instance. -/
inductive Move where
  | call (call : Call)
  | instantiate (place : Nat)
  | edit (place : Nat) (edit : Edit)

/-- The desk of a new engine. -/
def opened : Desk where
  state := .empty

def step (engine : Engine) (desk : Desk) : Move → Desk
  | .call call =>
    let (answer, state) := call.perform desk.state
    { desk with state, history := desk.history ++ [(call, answer)] }
  | .instantiate place =>
    match desk.history.handedOut[place]? with
    | none => desk
    | some template =>
      let (target, state) := engine.instantiate template desk.state
      { desk with state, instances := desk.instances ++ [target] }
  | .edit place edit =>
    { desk with instances := desk.instances.modify place edit.apply }

def run (engine : Engine) (moves : List Move) (desk : Desk) : Desk :=
  moves.foldl (step engine) desk

/-- The templates of the instances, in the order in which these were made. -/
def templates (desk : Desk) : List Template :=
  desk.instances.map Instance.template

/-- The state is as the history has left it, which was answered faithfully, and
the instances are of templates that were handed out. -/
structure InOrder (desk : Desk) : Prop where
  leaves : desk.history.Leaves desk.state.registry
  faithful : desk.history.Faithful
  made : ∀ template ∈ desk.templates, template ∈ desk.history.handedOut

theorem opened_inOrder : opened.InOrder where
  leaves := ⟨rfl, rfl⟩
  faithful before _ _ _ split := by cases before <;> cases split
  made := nofun

/-- A later desk has the same history and the same templates first. -/
structure Extends (desk desk' : Desk) : Prop where
  history : desk.history <+: desk'.history
  templates : desk.templates <+: desk'.templates

namespace Extends

variable {desk desk' desk'' : Desk}

theorem refl (desk : Desk) : desk.Extends desk :=
  ⟨List.prefix_rfl, List.prefix_rfl⟩

theorem trans (first : desk.Extends desk') (second : desk'.Extends desk'') :
    desk.Extends desk'' :=
  ⟨first.history.trans second.history, first.templates.trans second.templates⟩

end Extends

theorem templates_edit (instances : List Instance) (place : Nat) (edit : Edit) :
    (instances.modify place edit.apply).map Instance.template =
      instances.map Instance.template := by
  refine List.ext_getElem? fun other => ?_
  rw [List.getElem?_map, List.getElem?_map, List.getElem?_modify]
  cases instances[other]? with
  | none => rfl
  | some target =>
      show some _ = some _
      split_ifs
      · exact congrArg some (edit.template_apply target)
      · rfl

section Steps

variable {engine : Engine}
  (modest : ∀ initializer ∈ engine.initializers, initializer.Modest)
  {desk : Desk}

include modest

/-- A new instance is one of the template that was handed out at the place. -/
theorem step_instantiate
    {place : Nat} {template : Template}
    (found : desk.history.handedOut[place]? = some template) :
    (desk.step engine (.instantiate place)).state.registry =
      desk.state.registry ∧
      (desk.step engine (.instantiate place)).history = desk.history ∧
      (desk.step engine (.instantiate place)).templates =
        desk.templates ++ [template] := by
  rcases Engine.instantiate_modest modest template desk.state with
    ⟨kept, registry⟩
  rw [Desk.step, found]
  refine ⟨registry, rfl, ?_⟩
  rw [templates, List.map_append, List.map_singleton, kept]
  rfl

/-- A move keeps a desk in order, and what is on it. -/
theorem InOrder.step (inOrder : desk.InOrder) (move : Move) :
    (desk.step engine move).InOrder ∧ desk.Extends (desk.step engine move) := by
  cases move with
  | call call =>
      rcases inOrder.leaves.perform call with ⟨answered, leaves⟩
      have longer : desk.history <+:
          desk.history ++ [(call, (call.perform desk.state).1)] :=
        List.prefix_append _ _
      refine ⟨⟨leaves, ?_, fun template member => ?_⟩, longer, List.prefix_rfl⟩
      · show History.Faithful
          (desk.history ++ [(call, (call.perform desk.state).1)])
        rw [answered]
        exact inOrder.faithful.concat
      · exact (longer.filterMap _).subset (inOrder.made template member)
  | instantiate place =>
      cases found : desk.history.handedOut[place]? with
      | none =>
          rw [Desk.step, found]
          exact ⟨inOrder, .refl desk⟩
      | some template =>
          rcases step_instantiate modest found with
            ⟨registry, history, templates⟩
          refine ⟨⟨?_, ?_, fun made member => ?_⟩, ?_, ?_⟩
          · rw [history, registry]
            exact inOrder.leaves
          · rw [history]
            exact inOrder.faithful
          · rw [history]
            rw [templates] at member
            rcases List.mem_append.mp member with earlier | new
            · exact inOrder.made made earlier
            · rcases List.mem_singleton.mp new with rfl
              exact List.mem_of_getElem? found
          · exact history.symm ▸ List.prefix_rfl
          · rw [templates]
            exact List.prefix_append _ _
  | edit place edit =>
      have templates : (desk.step engine (.edit place edit)).templates =
          desk.templates :=
        templates_edit desk.instances place edit
      refine ⟨⟨inOrder.leaves, inOrder.faithful, ?_⟩, List.prefix_rfl, ?_⟩
      · rw [templates]
        exact inOrder.made
      · exact templates.symm ▸ List.prefix_rfl

theorem InOrder.run (inOrder : desk.InOrder) (moves : List Move) :
    (desk.run engine moves).InOrder ∧ desk.Extends (desk.run engine moves) := by
  induction moves generalizing desk with
  | nil => exact ⟨inOrder, .refl desk⟩
  | cons move moves ih =>
      rcases inOrder.step modest move with ⟨next, extended⟩
      rcases ih next with ⟨last, more⟩
      exact ⟨last, extended.trans more⟩

end Steps

/--
The registry over whole histories.  Whatever is done at the desk of a new
engine, every call was answered as the calls before it ask for.  A lookup gets
the template of the last registration under the id that succeeded, or fails
where there was none; the ids are in ascending order those of such
registrations; and a registration that fails changes neither.  No more generated
ids are taken than calls are made, no two parses have the same one, and
templates that were handed out with the same one are the same.  A new instance
is one of the template that was handed out, and whatever is done later, what was
handed out stays as it was and every instance keeps its template.
-/
theorem handouts_follow_history
    {engine : Engine}
    (modest : ∀ initializer ∈ engine.initializers, initializer.Modest)
    (moves : List Move) {desk : Desk}
    (reached : opened.run engine moves = desk) :
    (∀ before call given after,
      desk.history = before ++ (call, given) :: after →
      given = History.answer before call) ∧
    (∀ id template, desk.state.registry.get id = .ok template ↔
      ∃ before source after,
        desk.history = before ++ (.register id source, .ok template) :: after ∧
        ∀ source' template', (.register id source', .ok template') ∉ after) ∧
    (∀ id,
      (∀ source template, (.register id source, .ok template) ∉ desk.history) →
      desk.state.registry.get id = .error (.templateNotFound id)) ∧
    (desk.state.registry.ids.Pairwise (· < ·) ∧
      ∀ id, id ∈ desk.state.registry.ids ↔
        ∃ source template, (.register id source, .ok template) ∈ desk.history) ∧
    (∀ id source error state, desk.state.register id source =
      (.error error, state) →
      (∀ other, state.registry.get other = desk.state.registry.get other) ∧
        state.registry.ids = desk.state.registry.ids) ∧
    (desk.state.registry.issued ≤ desk.history.length ∧
      (desk.history.parsed.map Template.generatedId).Nodup ∧
      ∀ template ∈ desk.history.handedOut, ∀ template' ∈ desk.history.handedOut,
        template.generatedId = template'.generatedId → template = template') ∧
    (∀ place template, desk.history.handedOut[place]? = some template →
      (desk.step engine (.instantiate place)).templates =
        desk.templates ++ [template]) ∧
    ∀ later,
      desk.history.handedOut <+: (desk.run engine later).history.handedOut ∧
      desk.templates <+: (desk.run engine later).templates := by
  have inOrder : desk.InOrder := reached ▸ (opened_inOrder.run modest moves).1
  have ids : desk.state.registry.ids =
      (Dictionary.ofList desk.history.registrations).keys := by
    rw [Registry.ids, inOrder.leaves.templates]
  refine ⟨inOrder.faithful, ?lookups, ?absent, ⟨?sorted, ?listed⟩, ?failing,
    ⟨?counted, ?fresh, ?same⟩, ?made, ?kept⟩
  case lookups =>
    intro id template
    rw [inOrder.leaves.get_eq, ← History.standing?_eq_some_iff, History.answer]
    cases desk.history.standing? id <;> simp
  case absent =>
    intro id never
    rw [inOrder.leaves.get_eq, History.answer,
      History.standing?_eq_none_iff.mpr never]
  case sorted =>
    rw [ids]
    exact Dictionary.sorted_ofList _
  case listed =>
    intro id
    rw [ids, Dictionary.mem_keys_ofList, exists_comm]
    exact exists_congr fun template => History.mem_registrations
  case failing =>
    intro id source error state failed
    have answered : ((Call.register id source).perform desk.state).1 =
        .error error := congrArg Prod.fst failed
    have templates : state.registry.templates =
        desk.state.registry.templates := by
      rw [← History.templates_of_error answered]
      exact congrArg (fun one => one.2.registry.templates) failed.symm
    exact ⟨fun other => by rw [Registry.get, Registry.get, templates],
      by rw [Registry.ids, Registry.ids, templates]⟩
  case counted => exact inOrder.leaves.issued.trans_le List.countP_le_length
  case fresh => exact inOrder.faithful.nodup_generatedIds
  case same =>
    intro template member template' member'
    exact List.inj_on_of_nodup_map inOrder.faithful.nodup_generatedIds
      (History.mem_parsed_of_handedOut inOrder.faithful member)
      (History.mem_parsed_of_handedOut inOrder.faithful member')
  case made => exact fun place template found =>
    (step_instantiate modest found).2.2
  case kept =>
    intro later
    rcases (inOrder.run modest later).2 with ⟨history, templates⟩
    exact ⟨history.filterMap _, templates⟩

/-- An engine that marks every new instance. -/
def markingEngine : Engine :=
  .build [] [] [] [fun target state =>
    (target.setAttribute "new" (.flag true), state)] {}

theorem markingEngine_modest :
    ∀ initializer ∈ markingEngine.initializers, initializer.Modest :=
  List.forall_mem_singleton.mpr ⟨fun _ _ => rfl, fun _ _ => rfl⟩

/-- A source that is no template does not replace the one that was registered
before. -/
theorem note_survives :
    ((opened.run markingEngine
      [.call (.register "note" "Hi"), .instantiate 0,
        .call (.register "note" "\x7bname")]).state.registry.get
        "note") = .ok ⟨"note", "1", [.text "Hi"]⟩ := by
  have greeting : TemplateNode.parse "note" "Hi" = .ok [.text "Hi"] := by
    simp [TemplateNode.parse, TemplateNode.ofSource, TemplateNode.ofPending]
  have unclosed : TemplateNode.parse "note" "\x7bname" =
      .error (1, .unterminated) := by
    have starts : TemplateNode.opensBefore 'n' = true := rfl
    have endless : TemplateNode.content? none ['n', 'a', 'm', 'e'] = none := rfl
    simp [TemplateNode.parse, TemplateNode.ofSource, starts, endless]
  have history :
      (opened.run markingEngine
        [.call (.register "note" "Hi"), .instantiate 0,
          .call (.register "note" "\x7bname")]).history =
        [(.register "note" "Hi", .ok ⟨"note", "1", [.text "Hi"]⟩),
          (.register "note" "\x7bname",
              .error (.parse "note" 1 .unterminated))] := by
    simp [run, step, opened, Call.perform, EngineState.register,
      Registry.register, Registry.parseAs, Registry.issue, EngineState.empty,
      Registry.empty, EngineState.log, History.handedOut, Except.toOption,
      Engine.instantiate, markingEngine, Engine.build, greeting, unclosed]
    rfl
  refine ((handouts_follow_history markingEngine_modest _ rfl).2.1 _ _).mpr
    ⟨[], "Hi", _, history, ?_⟩
  intro source template member
  cases List.mem_singleton.mp member

end Desk

end Phrasebook
