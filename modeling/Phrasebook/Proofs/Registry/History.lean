import Mathlib.Data.List.Nodup
import Phrasebook.Proofs.Dictionary
import Phrasebook.Proofs.Registry

/-!
# The history of a registry

What an engine answers when templates are parsed, registered and looked up
follows from the calls before and their answers.  The registered templates are
the last ones that were registered under their ids, and a call that fails only
takes a generated id.  Generated ids count the parses, so none is given out
twice; a counter of 64 bits does not wrap on a history of fewer than 2^64 calls.
-/

namespace Phrasebook

namespace Registry

/-- A call that asks an engine for a template. -/
inductive Call where
  | parse (source : String)
  | register (id source : String)
  | get (id : String)

abbrev Answer : Type :=
  Except EngineError Template

/-- Calls with their answers, the first one first. -/
abbrev History : Type :=
  List (Call × Answer)

namespace Call

/-- What a call is answered, and the state after it. -/
def perform (call : Call) (state : EngineState) : Answer × EngineState :=
  match call with
  | .parse source => state.parse source
  | .register id source => state.register id source
  | .get id => (state.registry.get id, state)

/-- Whether a call takes a generated id. -/
def issues : Call → Bool
  | .get _ => false
  | _ => true

end Call

/-- A template that is parsed has the ids that it is parsed with. -/
theorem parseAs_ok {id generatedId source : String} {template : Template}
    (parsed : parseAs id generatedId source = .ok template) :
    template.id = id ∧ template.generatedId = generatedId ∧
      TemplateNode.parse id source = .ok template.nodes := by
  rw [parseAs] at parsed
  split at parsed
  · rename_i nodes found
    cases parsed
    exact ⟨rfl, rfl, found⟩
  · cases parsed

namespace History

/-- How many generated ids a history has taken. -/
def issued (history : History) : Nat :=
  history.countP fun one => one.1.issues

/-- The template that a call has registered, with its id. -/
def registration? : Call × Answer → Option (String × Template)
  | (.register id _, .ok template) => some (id, template)
  | _ => none

/-- The templates that were registered, with their ids, in order. -/
def registrations (history : History) : List (String × Template) :=
  history.filterMap registration?

/-- The template that a call has parsed. -/
def parsed? : Call × Answer → Option Template
  | (.get _, _) => none
  | (_, answer) => answer.toOption

/-- The templates that were parsed, registered or not, in order. -/
def parsed (history : History) : List Template :=
  history.filterMap parsed?

/-- The templates that were handed out, in order. -/
def handedOut (history : History) : List Template :=
  history.filterMap fun one => one.2.toOption

/-- The generated id that the next parse takes. -/
def nextId (history : History) : String :=
  toString (history.issued + 1)

/-- The template that was registered last under an id. -/
def standing? (id : String) (history : History) : Option Template :=
  history.registrations.reverse.lookup id

/-- The answer of a call, by the calls before it and their answers. -/
def answer (history : History) (call : Call) : Answer :=
  match call with
  | .parse source => parseAs history.nextId history.nextId source
  | .register id source => parseAs id history.nextId source
  | .get id =>
    match standing? id history with
    | some template => .ok template
    | none => .error (.templateNotFound id)

/-- Every call was answered as the calls before it ask for. -/
def Faithful (history : History) : Prop :=
  ∀ before call answer after, history = before ++ (call, answer) :: after →
    answer = History.answer before call

/-- A registry as a history has left it. -/
structure Leaves (history : History) (registry : Registry) : Prop where
  issued : registry.issued = history.issued
  templates : registry.templates = Dictionary.ofList history.registrations

theorem filterMap_concat
    {α β : Type} (choose : α → Option β) (list : List α) (last : α) :
    (list ++ [last]).filterMap choose =
      list.filterMap choose ++ (choose last).toList := by
  rw [List.filterMap_append, List.filterMap_cons, List.filterMap_nil]
  cases choose last <;> rfl

theorem registrations_concat (history : History) (one : Call × Answer) :
    registrations (history ++ [one]) =
      history.registrations ++ (registration? one).toList :=
  filterMap_concat registration? history one

theorem parsed_concat (history : History) (one : Call × Answer) :
    parsed (history ++ [one]) = history.parsed ++ (parsed? one).toList :=
  filterMap_concat parsed? history one

theorem issued_concat (history : History) (one : Call × Answer) :
    issued (history ++ [one]) = history.issued + one.1.issues.toNat := by
  rw [issued, List.countP_append, List.countP_singleton]
  cases one.1 <;> rfl

variable {history : History} {state : EngineState}

/-- What the registry knows is what the history answers. -/
theorem Leaves.get_eq (leaves : Leaves history state.registry) (id : String) :
    state.registry.get id = history.answer (.get id) := by
  rw [Registry.get, leaves.templates, Dictionary.get?_ofList]
  rfl

/-- What a call does: it is answered from the number of generated ids and the
registered templates, takes a generated id unless it is a lookup, and sets the
template that it has registered. -/
theorem perform_eq (call : Call) (state : EngineState) :
    (call.perform state).1 =
        (match call with
        | .parse source =>
          parseAs (toString (state.registry.issued + 1))
            (toString (state.registry.issued + 1)) source
        | .register id source =>
            parseAs id (toString (state.registry.issued + 1)) source
        | .get id => state.registry.get id) ∧
      (call.perform state).2.registry.issued =
        state.registry.issued + call.issues.toNat ∧
      (call.perform state).2.registry.templates =
        (registration? (call, (call.perform state).1)).toList.foldl
          (fun templates (id, template) =>
            Dictionary.insert id template templates)
          state.registry.templates := by
  cases call with
  | parse source => exact ⟨rfl, rfl, rfl⟩
  | get id => exact ⟨rfl, rfl, rfl⟩
  | register id source =>
      simp only [Call.perform, EngineState.register, Registry.register, issue]
      cases parseAs id (toString (state.registry.issued + 1)) source with
      | error error => exact ⟨rfl, rfl, rfl⟩
      | ok template => exact ⟨rfl, rfl, rfl⟩

/-- A call is answered as the history asks for, and the history goes on with
it. -/
theorem Leaves.perform (leaves : Leaves history state.registry) (call : Call) :
    (call.perform state).1 = history.answer call ∧
      Leaves (history ++ [(call, (call.perform state).1)])
        (call.perform state).2.registry := by
  rcases perform_eq call state with ⟨answered, counted, registered⟩
  refine ⟨?_, ?_, ?_⟩
  · rw [answered]
    cases call with
    | parse source => rw [leaves.issued]; rfl
    | register id source => rw [leaves.issued]; rfl
    | get id => exact leaves.get_eq id
  · rw [counted, leaves.issued, issued_concat]
  · rw [registered, leaves.templates, registrations_concat, Dictionary.ofList,
      Dictionary.ofList, List.foldl_append]

/-- A call that fails leaves the registered templates as they are. -/
theorem templates_of_error
    {call : Call} {error : EngineError}
    (failed : (call.perform state).1 = .error error) :
    (call.perform state).2.registry.templates = state.registry.templates := by
  rw [(perform_eq call state).2.2, failed]
  cases call <;> rfl

section Registrations

variable {history : History} {id : String} {template : Template}

/-- A template was registered when a call to register it was answered with
it. -/
theorem mem_registrations :
    (id, template) ∈ history.registrations ↔
      ∃ source, (.register id source, .ok template) ∈ history := by
  rw [registrations, List.mem_filterMap]
  constructor
  · rintro ⟨⟨call, given⟩, member, registered⟩
    rcases call with source | ⟨other, source⟩ | other <;> rcases given with
      error | returned <;> cases registered
    exact ⟨source, member⟩
  · rintro ⟨source, member⟩
    exact ⟨_, member, rfl⟩

/-- What stands under an id is what the last call has returned that registered a
template under it. -/
theorem standing?_eq_some_iff :
    history.standing? id = some template ↔
      ∃ before source after,
        history = before ++ (.register id source, .ok template) :: after ∧
        ∀ source' template', (.register id source', .ok template') ∉ after := by
  rw [standing?, List.lookup_eq_some_iff]
  constructor
  · rintro ⟨later, earlier, split, others⟩
    have order := congrArg List.reverse split
    rw [List.reverse_reverse, List.reverse_append, List.reverse_cons,
      List.append_assoc,
      List.singleton_append, registrations, List.filterMap_eq_append_iff]
      at order
    rcases order with ⟨before, rest, rfl, -, registered⟩
    rcases List.filterMap_eq_cons_iff.mp registered with
      ⟨skipped, one, after, rfl, -, own, following⟩
    have registers : (id, template) ∈ registrations [one] :=
      List.mem_filterMap.mpr ⟨one, List.mem_singleton_self one, own⟩
    rcases mem_registrations.mp registers with ⟨source, single⟩
    rcases List.mem_singleton.mp single with rfl
    refine ⟨before ++ skipped, source, after,
      (List.append_assoc _ _ _).symm, ?_⟩
    intro source' template' member
    have listed : (id, template') ∈ later.reverse :=
      following ▸ mem_registrations.mpr ⟨source', member⟩
    exact bne_iff_ne.mp (others _ (List.mem_reverse.mp listed)) rfl
  · rintro ⟨before, source, after, rfl, others⟩
    refine ⟨(registrations after).reverse,
      (registrations before).reverse, ?_, ?_⟩
    · have split :
          registrations
            (before ++ (.register id source, .ok template) :: after) =
          registrations before ++ (id, template) :: registrations after := by
        rw [registrations, List.filterMap_append, List.filterMap_cons]
        rfl
      rw [split, List.reverse_append, List.reverse_cons, List.append_assoc,
        List.singleton_append]
    · rintro ⟨other, template'⟩ member
      refine bne_iff_ne.mpr ?_
      rintro rfl
      rcases mem_registrations.mp (List.mem_reverse.mp member) with
        ⟨source', listed⟩
      exact others source' template' listed

/-- No template stands under an id when none was ever registered under it. -/
theorem standing?_eq_none_iff :
    history.standing? id = none ↔ ∀ source template,
      (.register id source, .ok template) ∉ history := by
  rw [standing?, List.lookup_eq_none_iff]
  constructor
  · intro absent source template member
    have listed := List.mem_reverse.mpr (mem_registrations.mpr ⟨source, member⟩)
    exact bne_iff_ne.mp (absent _ listed) rfl
  · rintro absent ⟨other, template⟩ member
    refine bne_iff_ne.mpr ?_
    rintro rfl
    rcases mem_registrations.mp (List.mem_reverse.mp member) with
      ⟨source, listed⟩
    exact absent source template listed

theorem mem_handedOut :
    template ∈ history.handedOut ↔ ∃ call, (call, .ok template) ∈ history := by
  rw [handedOut, List.mem_filterMap]
  constructor
  · rintro ⟨⟨call, given⟩, member, returned⟩
    rcases given with error | other <;> cases returned
    exact ⟨call, member⟩
  · rintro ⟨call, member⟩
    exact ⟨_, member, rfl⟩

theorem mem_parsed {call : Call} (member : (call, .ok template) ∈ history)
    (issues : call.issues = true) :
    template ∈ history.parsed := by
  refine List.mem_filterMap.mpr ⟨_, member, ?_⟩
  cases call with
  | parse source => rfl
  | register id source => rfl
  | get id => cases issues

/-- A template that was handed out was parsed before. -/
theorem mem_parsed_of_handedOut
    (faithful : history.Faithful) (member : template ∈ history.handedOut) :
    template ∈ history.parsed := by
  rcases mem_handedOut.mp member with ⟨call, listed⟩
  cases call with
  | parse source => exact mem_parsed listed rfl
  | register id source => exact mem_parsed listed rfl
  | get id =>
      rcases List.append_of_mem listed with ⟨before, after, rfl⟩
      have given := faithful before _ _ after rfl
      rw [answer] at given
      cases stands : standing? id before with
      | none =>
          rw [stands] at given
          cases given
      | some other =>
          rw [stands] at given
          cases given
          rcases standing?_eq_some_iff.mp stands with
            ⟨earlier, source, later, rfl, -⟩
          exact mem_parsed
            (List.mem_append_left _
              (List.mem_append_right _ List.mem_cons_self)) rfl

end Registrations

/-- A history that is faithful has been so before its last call. -/
theorem Faithful.init
    {one : Call × Answer} (faithful : Faithful (history ++ [one])) :
    history.Faithful := by
  rintro before call given after rfl
  exact faithful before call given (after ++ [one])
    (by rw [List.append_assoc, List.cons_append])

theorem Faithful.last
    {call : Call} {given : Answer}
    (faithful : Faithful (history ++ [(call, given)])) :
    given = history.answer call :=
  faithful history call given [] rfl

theorem Faithful.concat {call : Call} (faithful : history.Faithful) :
    Faithful (history ++ [(call, history.answer call)]) := by
  intro before other given after split
  rcases after.eq_nil_or_concat with rfl | ⟨after, last, rfl⟩
  · rcases List.append_inj' split rfl with ⟨rfl, single⟩
    cases single
    rfl
  · rw [List.concat_eq_append, ← List.cons_append, ← List.append_assoc] at split
    rcases List.append_inj' split rfl with ⟨rfl, -⟩
    exact faithful before other given after rfl

theorem toString_injective
    {number number' : Nat} (same : toString number = toString number') :
    number = number' := by
  have digits := congrArg String.toList same
  rw [Nat.toString_eq_repr, Nat.toString_eq_repr, Nat.toList_repr,
    Nat.toList_repr] at digits
  have numbers := congrArg (Nat.ofDigitChars 10 · 0) digits
  simpa only [Nat.ofDigitChars_ten_toDigits] using numbers

/-- A template that is parsed gets the next generated id. -/
theorem parsed?_answer {call : Call} {template : Template}
    (parsed : parsed? (call, history.answer call) = some template) :
    call.issues = true ∧ template.generatedId = history.nextId := by
  have generated {id source : String}
      (found : (parseAs id history.nextId source).toOption = some template) :
      template.generatedId = history.nextId := by
    cases given : parseAs id history.nextId source with
    | error error =>
        rw [given] at found
        cases found
    | ok other =>
        rw [given] at found
        cases found
        exact (parseAs_ok given).2.1
  cases call with
  | parse source => exact ⟨rfl, generated parsed⟩
  | register id source => exact ⟨rfl, generated parsed⟩
  | get id => cases parsed

/-- The generated id of a template that was parsed is a number that was
issued. -/
theorem Faithful.numbered (faithful : history.Faithful) :
    ∀ template ∈ history.parsed, ∃ number ≤ history.issued,
      template.generatedId = toString number := by
  induction history using List.reverseRecOn with
  | nil => exact nofun
  | append_singleton history one ih =>
      rcases one with ⟨call, given⟩
      rcases faithful.last with rfl
      intro template member
      rw [parsed_concat] at member
      rw [issued_concat]
      rcases List.mem_append.mp member with earlier | last
      · rcases ih faithful.init template earlier with
          ⟨number, within, generated⟩
        exact ⟨number, within.trans (Nat.le_add_right _ _), generated⟩
      · rcases parsed?_answer (Option.mem_toList.mp last) with
          ⟨issues, generated⟩
        rw [issues]
        exact ⟨_, le_rfl, generated⟩

/-- No two templates that were parsed have the same generated id. -/
theorem Faithful.nodup_generatedIds (faithful : history.Faithful) :
    (history.parsed.map Template.generatedId).Nodup := by
  induction history using List.reverseRecOn with
  | nil => exact List.nodup_nil
  | append_singleton history one ih =>
      rcases one with ⟨call, given⟩
      rcases faithful.last with rfl
      rw [parsed_concat, List.map_append, List.nodup_append]
      refine ⟨ih faithful.init, ?single, ?fresh⟩
      case single =>
        cases parsed? (call, History.answer history call) with
        | none => exact List.nodup_nil
        | some template => exact List.nodup_singleton _
      case fresh =>
        rintro _ earlier _ last rfl
        rcases List.mem_map.mp earlier with ⟨other, member, same⟩
        rcases List.mem_map.mp last with ⟨template, next, rfl⟩
        rcases faithful.init.numbered other member with
          ⟨number, within, generated⟩
        have numbers : toString number = History.nextId history := by
          rw [← generated, same, (parsed?_answer (Option.mem_toList.mp next)).2]
        have equal := toString_injective numbers
        omega

end History

end Registry

end Phrasebook
