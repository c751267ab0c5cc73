import Phrasebook.Proofs.Memoization.Lookup

/-!
# Runs of many lookups

Any number of lookups of one binding are started, polled and dropped in any
order, and between these actions the rest of the program may do whatever leaves
the memo of the binding alone.  A `Room` holds the completions of the lookups,
which is all that the program has; a `Board` shows their stages instead.  Both
see the same run.
-/

namespace Phrasebook

namespace Memoization

/-- One action on the lookups of a binding, which are numbered in the order in
which they started. -/
inductive Action (binding : Binding) where
  | start (caller : Caller)
  | poll (index : Nat)
  | drop (index : Nat)
  | elsewhere (change : Scene → Scene)
      (alone : ∀ scene, binding.memo (change scene) = binding.memo scene)

/-- A scene with the completions of the lookups of a binding, none for a dropped
one. -/
structure Room where
  scene : Scene
  lookups : List (Option (Evaluation Scene Settled))

/-- A scene with the lookups of a binding in their stages. -/
structure Board where
  scene : Scene
  lookups : List (Caller × Stage)

variable (binding : Binding)

namespace Room

/-- A room without lookups. -/
def opened (scene : Scene) : Room :=
  ⟨scene, []⟩

/-- What an action does to the completions.  Only a lookup that has not finished
can be polled or dropped with an effect. -/
def step (room : Room) : Action binding → Room
  | .start caller =>
    let (completion, scene) :=
      (caller.evaluator binding).lookupComputed caller.expression binding.cell
        room.scene
    ⟨scene, room.lookups ++ [some completion]⟩
  | .poll index =>
    match room.lookups[index]? with
    | some (some completion) =>
      let (completion, scene) := completion.poll room.scene
      ⟨scene, room.lookups.set index (some completion)⟩
    | _ => room
  | .drop index =>
    match room.lookups[index]? with
    | some (some completion) =>
      if completion.isReady then room
      else ⟨completion.abandon room.scene, room.lookups.set index none⟩
    | _ => room
  | .elsewhere change _ => ⟨change room.scene, room.lookups⟩

def run (actions : List (Action binding)) (room : Room) : Room :=
  actions.foldl (step binding) room

end Room

namespace Board

/-- A board without lookups. -/
def opened (scene : Scene) : Board :=
  ⟨scene, []⟩

/-- Changes the stage of a lookup, and the scene with it. -/
def change (index : Nat) (move : Caller → Stage → Scene → Stage × Scene)
    (board : Board) : Board :=
  match board.lookups[index]? with
  | none => board
  | some (caller, stage) =>
    let (stage, scene) := move caller stage board.scene
    ⟨scene, board.lookups.set index (caller, stage)⟩

/-- What an action does to the stages. -/
def step (board : Board) : Action binding → Board
  | .start caller =>
    let (stage, scene) := caller.start binding board.scene
    ⟨scene, board.lookups ++ [(caller, stage)]⟩
  | .poll index => board.change index fun caller stage =>
    caller.poll binding stage
  | .drop index => board.change index fun _ stage => stage.drop binding
  | .elsewhere change _ => ⟨change board.scene, board.lookups⟩

def run (actions : List (Action binding)) (board : Board) : Board :=
  actions.foldl (step binding) board

/-- The completions behind the stages. -/
def room (board : Board) : Room :=
  ⟨board.scene, board.lookups.map fun lookup =>
    lookup.1.completion? binding lookup.2⟩

end Board

variable {binding}

theorem lookups_room (board : Board) (index : Nat) :
    (board.room binding).lookups[index]? =
      board.lookups[index]?.map fun lookup =>
        lookup.1.completion? binding lookup.2 :=
  List.getElem?_map

/-- The room of a board whose lookup at an index has been changed. -/
theorem room_change
    {board : Board} {index : Nat} {caller : Caller} {stage : Stage}
    (found : board.lookups[index]? = some (caller, stage))
    (move : Caller → Stage → Scene → Stage × Scene) :
    (board.change index move).room binding =
      ⟨(move caller stage board.scene).2,
        (board.room binding).lookups.set index
          (caller.completion? binding (move caller stage board.scene).1)⟩ := by
  rw [Board.change, found]
  simp [Board.room, List.map_set]

/-- A lookup that stays in its stage leaves the room as it is. -/
theorem room_change_self
    {board : Board} {index : Nat} {caller : Caller} {stage : Stage}
    (found : board.lookups[index]? = some (caller, stage))
    {move : Caller → Stage → Scene → Stage × Scene}
    (stays : move caller stage board.scene = (stage, board.scene)) :
    (board.change index move).room binding = board.room binding := by
  rcases List.getElem?_eq_some_iff.mp found with ⟨bound, equal⟩
  rw [Board.change, found]
  dsimp only
  rw [stays, ← equal, List.set_getElem_self]

theorem room_poll (board : Board) (index : Nat) :
    Room.step binding (board.room binding) (.poll index) =
      (board.step binding (.poll index)).room binding := by
  rw [Room.step, Board.step, lookups_room]
  cases found : board.lookups[index]? with
  | none =>
      rw [Board.change, found]
      rfl
  | some lookup =>
      rcases lookup with ⟨caller, stage⟩
      rw [Option.map_some]
      cases stands : caller.completion? binding stage with
      | none =>
          rcases completion?_eq_none stands with rfl
          exact (room_change_self found rfl).symm
      | some completion =>
          rcases completion?_poll stands board.scene with ⟨stands', after⟩
          rw [room_change found, stands', after]
          rfl

theorem room_drop (board : Board) (index : Nat) :
    Room.step binding (board.room binding) (.drop index) =
      (board.step binding (.drop index)).room binding := by
  rw [Room.step, Board.step, lookups_room]
  cases found : board.lookups[index]? with
  | none =>
      rw [Board.change, found]
      rfl
  | some lookup =>
      rcases lookup with ⟨caller, stage⟩
      rw [Option.map_some]
      cases stands : caller.completion? binding stage with
      | none =>
          rcases completion?_eq_none stands with rfl
          exact (room_change_self found rfl).symm
      | some completion =>
          dsimp only
          split_ifs with ready
          · exact
              (room_change_self found
                (drop_of_ready stands ready board.scene)).symm
          · have pending : completion.isReady = false := by
              simpa using ready
            rw [room_change found, drop_of_pending stands pending board.scene]
            rfl

/-- A step on the board is the step in the room of each binding. -/
theorem room_step (board : Board) (action : Action binding) :
    Room.step binding (board.room binding) action =
      (board.step binding action).room binding := by
  cases action with
  | start caller =>
      rcases completion?_start binding caller board.scene with ⟨stands, after⟩
      simp only [Room.step, Board.step, Board.room, List.map_append,
        List.map_cons, List.map_nil, stands, after]
  | poll index => exact room_poll board index
  | drop index => exact room_drop board index
  | elsewhere change alone => rfl

/-- The completions that a program has are those of the stages, after any
run. -/
theorem room_run (actions : List (Action binding)) (board : Board) :
    Room.run binding actions (board.room binding) =
      (Board.run binding actions board).room binding := by
  induction actions generalizing board with
  | nil => rfl
  | cons action rest ih =>
      rw [Room.run, List.foldl_cons, room_step]
      exact ih (board.step binding action)

end Memoization

end Phrasebook
