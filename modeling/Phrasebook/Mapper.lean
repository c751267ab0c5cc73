import Phrasebook.Config.Basic
import Phrasebook.Scene

/-!
# Mappers

Mappers turn results into text. They are asked in the order of descending
priority, equal priorities as they were registered; the first text wins, and a
failure ends the render. A value that no mapper takes is written by
`Json.plainText`, an absent one as the missing value of the settings, unless
rendering is strict.
-/

namespace Phrasebook

/-- A mapper of results, given the value, if there is one, and the expression
that it came from. -/
structure Mapper where
  priority : Int := 1
  map : Option Json → Expression → EngineState →
    Except Cause (Option String) × EngineState

namespace Mapper

/-- Mappers in the order in which they are asked. -/
def chain (mappers : List Mapper) : List Mapper :=
  mappers.mergeSort fun left right => right.priority ≤ left.priority

def defaultText
    (config : Config) (value : Option Json) (expression : Expression) :
    Except ResolutionError String :=
  match value with
  | some value => .ok value.plainText
  | none =>
    if config.strictRendering then .error (.of .propertyNotFound expression)
      else .ok config.missingValue

/-- The text of a value through a chain of mappers. -/
def mapThrough (config : Config) (mappers : List Mapper) (value : Option Json)
    (expression : Expression)
    (state : EngineState) : Except ResolutionError String × EngineState :=
  match mappers with
  | [] => (defaultText config value expression, state)
  | mapper :: rest =>
    match mapper.map value expression state with
    | (.error cause, state) =>
      (.error (.of (.mapperFailure cause) expression), state)
    | (.ok (some text), state) => (.ok text, state)
    | (.ok none, state) => mapThrough config rest value expression state

def nodeText (config : Config) (mappers : List Mapper) (node : ResultNode)
    (state : EngineState) :
    Except ResolutionError String × EngineState :=
  match node with
  | .constant text => (.ok text, state)
  | .single value expression => mapThrough config mappers value expression state

/-- The text of a list of nodes, after the text written so far. -/
def writeAll (config : Config) (mappers : List Mapper) (written : String)
    (nodes : List ResultNode)
    (state : EngineState) : Except ResolutionError String × EngineState :=
  match nodes with
  | [] => (.ok written, state)
  | node :: rest =>
    match nodeText config mappers node state with
    | (.error error, state) => (.error error, state)
    | (.ok text, state) => writeAll config mappers (written ++ text) rest state

end Mapper
end Phrasebook
