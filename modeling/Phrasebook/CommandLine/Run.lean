import Phrasebook.Bundle.Loading
import Phrasebook.Bundle.Validation
import Phrasebook.CommandLine.Arguments
import Phrasebook.Config.Loading

/-!
# Running a command

The commands work on an environment and files. `render` writes one message,
`check` the diagnostics of bundles and of the templates that use them.
-/

namespace Phrasebook
namespace CommandLine

/-- How a run ends: its exit code, what it writes, and the message of the
failure that ended it. -/
structure Outcome where
  exitCode : Nat
  output : String
  failure : Option String
  deriving DecidableEq, Repr

def Outcome.success (output : String) : Outcome := ⟨0, output, none⟩

def Outcome.failed (failure : String) : Outcome := ⟨1, "", some failure⟩

/-- The engine of the command line: the built-in resolvers under some
settings. -/
def engine (config : Config) : Engine :=
  .build Resolver.BuiltIn.all [] [] [] config

/-- Loads the definitions of bundle files up to the first failure. -/
def loadDefinitions (files : Files) (paths : List String) :
    Except String (List BundleDefinition) :=
  paths.mapM fun path =>
    (BundleDefinition.load files path).mapError BundleError.message

/-- Reads ordinary templates, each under the name of its file without the
extension. -/
def loadTemplates (files : Files) (paths : List String) :
    Except String (List (String × String)) :=
  paths.mapM fun path =>
    match Path.stem? path with
    | none => .error ("template path has no usable file name: " ++ path)
    | some id =>
      match files path with
      | .text source => .ok (id, source)
      | _ => .error ("Failed to read template: " ++ path)

/-- Builds the catalog of bundle files and template files. -/
def loadCatalog
    (files : Files) (bundles templates : List String) (config : Config) :
    Except String (Catalog × EngineState) := do
  let definitions ← loadDefinitions files bundles
  let templates ← loadTemplates files templates
  match Catalog.build definitions templates (engine config) .empty with
  | (.ok catalog, state) => .ok (catalog, state)
  | (.error error, _) => .error error.message

/-- The bundle and the key that a written key names. A key without a colon needs
exactly one bundle.
-/
def splitKey (written : String) (bundles : List Bundle) :
    Except String (String × String) :=
  match Text.splitFirst? ':' written.toList with
  | some (bundle, key) => .ok (String.ofList bundle, String.ofList key)
  | none =>
    match bundles with
    | [] => .error "no bundles loaded"
    | [only] => .ok (only.name, written)
    | _ =>
      .error ("several bundles loaded; qualify the key as <bundle>:" ++ written)

/-- The arguments of a message in the order of its parameters; of repeated
parameters the last one counts. -/
def argumentsFor (message : Message) (given : List (String × Json)) :
    Except String (List Json) :=
  message.parameters.mapM fun parameter =>
    match given.reverse.lookup parameter with
    | some value => .ok value
    | none => .error ("missing --param " ++ parameter ++ "=<value>")

/-- The settings of `render`. -/
def renderConfig
    (environment : Environment) (files : Files) (options : RenderOptions) :
    Except ConfigError Config :=
  match options.config with
  | some path => Config.load environment files path
  | none => Config.loadStandard environment files

def render
    (environment : Environment) (files : Files) (options : RenderOptions) :
    Except String String := do
  let config ← (renderConfig environment files options).mapError
    ConfigError.message
  let (catalog, state) ← loadCatalog files options.bundles [] config
  let (bundle, key) ← splitKey options.key catalog.bundles
  match (catalog.bundle? bundle).bind fun found => found.byKey? key with
  | none => .error ("no message '" ++ key ++ "' in bundle '" ++ bundle ++ "'")
  | some message =>
    let arguments ← argumentsFor message options.parameters
    (catalog.message bundle options.locale key arguments state).1.mapError
      BundleError.message

/-- Checks bundles and templates: the number of templates and the
diagnostics. -/
def check (environment : Environment) (files : Files) (options : CheckOptions) :
    Except String (Nat × List Diagnostic) := do
  let config ← (Config.loadStandard environment files).mapError
    ConfigError.message
  let (catalog, state) ← loadCatalog files options.bundles
    options.templates config
  .ok (state.registry.ids.length, (catalog.validate state).1)

/-- The report of a check: one line for each diagnostic, or that there is
none. -/
def checkReport (templates : Nat) (diagnostics : List Diagnostic) : Outcome :=
  if diagnostics = [] then
    .success (toString templates ++ " template(s) checked, no problems found\n")
  else ⟨1,
    String.join (diagnostics.map fun diagnostic => diagnostic.text ++ "\n"),
      none⟩

/-- The name and the version of the program. -/
def versionText : String := "stencil 0.1.0\n"

def Command.run (environment : Environment) (files : Files) : Command → Outcome
  | .render options =>
    match CommandLine.render environment files options with
    | .ok text => .success (text ++ "\n")
    | .error failure => .failed failure
  | .check options =>
    match CommandLine.check environment files options with
    | .ok (templates, diagnostics) => checkReport templates diagnostics
    | .error failure => .failed failure
  | .version => .success versionText
  | .help topic => .success (helpText topic)

/-- Runs the program. Arguments that give no command end it with exit code 2. -/
def run (environment : Environment) (files : Files) (arguments : List String) :
    Outcome :=
  match command? arguments with
  | some command => command.run environment files
  | none => ⟨2, "", none⟩

def filesRead (environment : Environment) (arguments : List String) :
    List String :=
  match command? arguments with
  | some (.render options) =>
    options.config.getD environment.configFile :: options.bundles
  | some (.check options) =>
    environment.configFile :: options.bundles ++ options.templates
  | _ => []

end CommandLine
end Phrasebook
