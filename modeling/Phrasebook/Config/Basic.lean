import Phrasebook.Text.Quoted

/-!
# Settings

An engine is built with settings, which never change afterwards.
-/

namespace Phrasebook

/-- The settings of an engine: the text that stands for values that are not
found, whether such a value fails the render instead, and whether foreign
handles are polled. -/
structure Config where
  missingValue : String := ""
  strictRendering : Bool := false
  unrestrictedAsyncValues : Bool := false
  deriving DecidableEq, Repr, Inhabited

/-- Diagnostic text of the settings. -/
def Config.debugText (config : Config) : String :=
  "EngineConfig \x7b missing_value: " ++ Text.quoted config.missingValue ++
    ", strict_rendering: " ++
    toString config.strictRendering ++ ", unrestricted_async_values: " ++
    toString config.unrestrictedAsyncValues ++ " \x7d"

end Phrasebook
