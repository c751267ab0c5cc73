import Phrasebook.Journal
import Phrasebook.Memo
import Phrasebook.Registry

/-!
# Scenes

A scene is the state that evaluations act on: the data of the render and the
state of the engine. Render data are explicit values and computed bindings with
their memos. Resolvers and suppliers may read and write the values and register
bindings during the render; a lookup sees what was written before it. Suppliers
act on scenes, so data hold their names instead of them.
-/

namespace Phrasebook

/-- The state of an engine: its templates and its journal. -/
structure EngineState where
  registry : Registry
  journal : Journal
  deriving Repr

namespace EngineState

def empty : EngineState := ⟨.empty, []⟩

/-- Writes an event into the journal. -/
def log (event : Event) (state : EngineState) : EngineState :=
  { state with journal := event :: state.journal }

/-- Parses a source without registering it. -/
def parse (source : String) (state : EngineState) :
    Except EngineError Template × EngineState :=
  let (parsed, registry) := state.registry.parse source
  (parsed, { state with registry })

def register (id source : String) (state : EngineState) :
    Except EngineError Template × EngineState :=
  let (parsed, registry) := state.registry.register id source
  let state := { state with registry }
  match parsed with
  | .ok template => (.ok template, state.log (.registeredTemplate id))
  | .error error => (.error error, state)

/-- Registers sources in order up to the first error. -/
def registerAll (sources : List (String × String)) (state : EngineState) :
    Except EngineError Unit × EngineState :=
  match sources with
  | [] => (.ok (), state)
  | (id, source) :: rest =>
    match state.register id source with
    | (.ok _, state) => registerAll rest state
    | (.error error, state) => (.error error, state)

end EngineState

/-- The data of a render: explicit values, the cells that are registered for
computed bindings, the memos of cells, and the number of registrations so
far. -/
structure RenderData where
  explicit : Dictionary Json
  computed : Dictionary Cell
  memos : List (Cell × Memo)
  registrations : Nat
  deriving Repr

namespace RenderData

/-- Data without values. -/
def empty : RenderData := ⟨[], [], [], 0⟩

/-- The explicit value of a key. -/
def get? (key : String) (data : RenderData) : Option Json :=
  data.explicit.get? key

/-- Whether a key has an explicit value or a computed binding. -/
def contains (key : String) (data : RenderData) : Bool :=
  data.explicit.contains key || data.computed.contains key

def set (key : String) (value : Json) (data : RenderData) : RenderData :=
  { data with explicit := data.explicit.insert key value }

/-- Registers a computed binding in a new cell. The cell that the key had before
keeps its memo for the lookups that found it. -/
def setComputed (key supplier : String) (data : RenderData) : RenderData :=
  { data with
    computed := data.computed.insert key ⟨key, supplier, data.registrations⟩
    registrations := data.registrations + 1 }

/-- The cell that a lookup of a key finds. -/
def cell? (key : String) (data : RenderData) : Option Cell :=
  data.computed.get? key

/-- The memo of a cell, fresh as long as nobody has looked it up. -/
def memo (cell : Cell) (data : RenderData) : Memo :=
  (data.memos.lookup cell).getD .fresh

/-- Replaces the memo of a cell. -/
def setMemo (cell : Cell) (memo : Memo) (data : RenderData) : RenderData :=
  { data with memos := (cell, memo) :: data.memos.filter fun entry =>
      entry.1 ≠ cell }

end RenderData

instance : Inhabited EngineState := ⟨.empty⟩

instance : Inhabited RenderData := ⟨.empty⟩

/-- What an evaluation acts on: the data of its render and the state of the
engine. -/
structure Scene where
  data : RenderData
  engine : EngineState
  deriving Repr, Inhabited

namespace Scene

/-- Writes an event into the journal. -/
def log (event : Event) (scene : Scene) : Scene :=
  { scene with engine := scene.engine.log event }

/-- Changes the memo of a cell. -/
def updateMemo (cell : Cell) (change : Memo → Memo) (scene : Scene) : Scene :=
  { scene with data := scene.data.setMemo cell (change (scene.data.memo cell)) }

end Scene
end Phrasebook
