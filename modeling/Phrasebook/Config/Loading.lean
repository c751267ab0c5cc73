import Phrasebook.Config.Basic
import Phrasebook.Document.Format
import Phrasebook.Files
import Phrasebook.Journal

/-!
# Reading settings

Settings are documents of their own, which come from a file, and the environment
has a say in them.
-/

/-! ## Settings as documents

Settings are written as the record `missingValue, strictRendering,
unrestrictedAsyncValues`, whose fields all have defaults and which has no other
fields.
-/

namespace Phrasebook.Config

def fieldNames : List String :=
  ["missingValue", "strictRendering", "unrestrictedAsyncValues"]

/-- The settings that a document writes. -/
def ofDocument? (format : Format) (document : Document) : Option Config := do
  let record ← format.record? fieldNames document
  if Record.namesOnly fieldNames document then
    let missingValue ← record.default? 0 "" Document.string?
    let strictRendering ← record.default? 1 false Document.bool?
    let unrestrictedAsyncValues ← record.default? 2 false Document.bool?
    some { missingValue, strictRendering, unrestrictedAsyncValues }
  else none

/-- The data value of the settings. -/
def toValue (config : Config) : Json :=
  .ofPairs [
    ("missingValue", .string config.missingValue),
    ("strictRendering", .bool config.strictRendering),
    ("unrestrictedAsyncValues", .bool config.unrestrictedAsyncValues)]

end Phrasebook.Config

/-! ## Loading settings

Settings come from a file, which may be missing, and from the environment. The
environment may name the file, and its word on foreign handles wins over the
file.
-/

namespace Phrasebook

/-- The variables of the environment that settings depend on. -/
structure Environment where
  configPath : Option String
  unrestrictedAsync : Option String
  configHome : Option String
  home : String
  deriving Repr

namespace Environment

/-- The environment with the given variables; `home` is the home directory. -/
def ofVariables (home : String) (valueOf : String → Option String) :
    Environment where
  configPath := valueOf "STENCIL_CONFIG_PATH"
  unrestrictedAsync := valueOf "STENCIL_UNRESTRICTED_ASYNC"
  configHome := valueOf "XDG_CONFIG_HOME"
  home := home

/-- The directory of configuration files: the one that the environment names
when it is absolute, otherwise `.config` in the home directory. -/
def configDirectory (environment : Environment) : String :=
  match environment.configHome with
  | some directory =>
    if Path.isAbsolute directory then directory
      else Path.join environment.home ".config"
  | none => Path.join environment.home ".config"

/-- The path of the settings: the one that the environment names unless it is
blank, otherwise the standard place. -/
def configFile (environment : Environment) : String :=
  let standard :=
    Path.join (Path.join environment.configDirectory "stencil") "engine.json"
  match environment.configPath with
  | some path => if Text.trim path = "" then standard
      else Path.expandHome environment.home path
  | none => standard

end Environment

/-- Why settings could not be loaded from a file. -/
inductive ConfigError where
  | unreadable (path : String)
  | invalid (path : String)
  deriving DecidableEq, Repr

def ConfigError.message : ConfigError → String
  | .unreadable path => "Failed to read engine config: " ++ path
  | .invalid path => "Invalid engine config: " ++ path

namespace Config

/-- The settings with the word of the environment on foreign handles, if there
is one: `1` and `true` in any case allow them, any other text does not. -/
def withEnvironment (environment : Environment) (config : Config) : Config :=
  match environment.unrestrictedAsync with
  | some word =>
    let word := (Text.trim word).toLower
    { config with unrestrictedAsyncValues := word == "1" || word == "true" }
  | none => config

def ofEnvironment (environment : Environment) : Config :=
  withEnvironment environment {}

/-- The notation of a file of settings: JSON under the extension `json`,
otherwise YAML. -/
def format (path : String) : Format :=
  if Path.extension? path = some "json" then .json else .yaml

/-- Loads settings from a file. A missing file gives the defaults. -/
def load (environment : Environment) (files : Files) (path : String) :
    Except ConfigError Config :=
  match files path with
  | .absent => .ok (ofEnvironment environment)
  | .unreadable => .error (.unreadable path)
  | .text content =>
    match ((format path).document? content).bind
        (ofDocument? (format path)) with
    | some config => .ok (config.withEnvironment environment)
    | none => .error (.invalid path)

def loadStandard (environment : Environment) (files : Files) :
    Except ConfigError Config :=
  load environment files environment.configFile

/-- The settings of an engine that is given none: those of the environment's
file, or the defaults with a warning. -/
def loadOrDefault
    (environment : Environment) (files : Files) (journal : Journal) :
    Config × Journal :=
  match loadStandard environment files with
  | .ok config => (config, journal)
  | .error error =>
    (ofEnvironment environment, .defaultConfig error.message :: journal)

end Config
end Phrasebook
