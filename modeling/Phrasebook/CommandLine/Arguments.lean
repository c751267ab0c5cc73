import Phrasebook.Json.Reader
import Phrasebook.Text.Cutting

/-!
# Arguments of the command line

The arguments give a command: `render` and `check` with their options, and the
requests for help and for the version. An option takes its value from the next
argument, which must not look like an option itself, or after an equals sign. An
argument with one dash is a bunch of flags, the first of which decides what it
asks for. Arguments are read from left to right; the first request or fault
decides.
-/

namespace Phrasebook
namespace CommandLine

/-- What `render` is asked to do. -/
structure RenderOptions where
  bundles : List String
  key : String
  locale : Option String
  parameters : List (String × Json)
  config : Option String
  deriving Repr

/-- What `check` is asked to do. -/
structure CheckOptions where
  bundles : List String
  templates : List String
  deriving Repr

/-- What help can be about: the whole program, one of its commands, or help
itself. -/
inductive HelpTopic where
  | program
  | render
  | check
  | help
  deriving DecidableEq, Repr

/-- A command. -/
inductive Command where
  | render (options : RenderOptions)
  | check (options : CheckOptions)
  | version
  | help (topic : HelpTopic)
  deriving Repr

/-- The options of the commands. -/
inductive OptionName where
  | bundle
  | key
  | locale
  | param
  | config
  | template
  deriving DecidableEq, Repr

namespace OptionName

def ofName? : String → Option OptionName
  | "bundle" => some .bundle
  | "key" => some .key
  | "locale" => some .locale
  | "param" => some .param
  | "config" => some .config
  | "template" => some .template
  | _ => none

/-- Whether an option may be given several times. -/
def repeats : OptionName → Bool
  | .bundle | .param | .template => true
  | .key | .locale | .config => false

/-- Whether an option takes a text as its value: a path must not be empty, and a
parameter must contain an equals sign. -/
def accepts (option : OptionName) (value : String) : Bool :=
  match option with
  | .bundle | .config | .template => !value.isEmpty
  | .param => value.contains '='
  | .key | .locale => true

end OptionName

/-- What the arguments of a command amount to. -/
inductive Reading where
  | options (given : List (OptionName × String))
  | help
  | fault
  deriving Repr

/-- Whether an argument looks like an option; a dash alone does not. -/
def looksLikeOption (argument : String) : Bool :=
  argument.toList.head? == some '-' && argument ≠ "-"

/-- Whether an argument is a bunch of flags that starts with a given one. -/
def startsWithFlag (flag : Char) (argument : String) : Bool :=
  ['-', flag].isPrefixOf argument.toList

def asksForHelp (argument : String) : Bool :=
  argument == "--help" || startsWithFlag 'h' argument

def asksForVersion (argument : String) : Bool :=
  argument == "--version" || startsWithFlag 'V' argument

/-- Adds an option to those given before. -/
def give? (allowed : List OptionName) (given : List (OptionName × String))
    (name : List Char)
    (value : String) : Option (List (OptionName × String)) := do
  let option ← OptionName.ofName? (String.ofList name)
  let fresh := option.repeats || (given.lookup option).isNone
  if allowed.contains option && fresh && option.accepts value
    then some (given ++ [(option, value)])
  else none

/-- Reads the arguments of a command that allows some options. -/
def readOptions
    (allowed : List OptionName) (given : List (OptionName × String)) :
    List String → Reading
  | [] => .options given
  | argument :: rest =>
    if asksForHelp argument then .help
    else if argument = "--" then
      if rest = [] then .options given else .fault
    else
      match argument.toList with
      | '-' :: '-' :: text =>
        match Text.splitFirst? '=' text with
        | some (name, value) =>
          match give? allowed given name (String.ofList value) with
          | some given => readOptions allowed given rest
          | none => .fault
        | none =>
          match rest with
          | [] => .fault
          | value :: rest =>
            if looksLikeOption value then .fault
            else
              match give? allowed given text value with
              | some given => readOptions allowed given rest
              | none => .fault
      | _ => .fault

def valuesOf (option : OptionName) (given : List (OptionName × String)) :
    List String :=
  given.filterMap fun (other, value) => if other = option then some value
    else none

/-- A parameter written as `name=value`: the name without blanks around it, and
the value as data text if it is one, otherwise as a text. -/
def parameter (text : String) : String × Json :=
  match Text.splitFirst? '=' text.toList with
  | some (name, value) =>
    let value := String.ofList value
    (String.ofList (Text.trimChars name),
      (Json.ofText? value).getD (.string value))
  | none => (text, .null)

/-- The options of `render`, which needs a bundle file and a key. -/
def renderOptions? (given : List (OptionName × String)) :
    Option RenderOptions := do
  let key ← given.lookup .key
  let bundles := valuesOf .bundle given
  if bundles = [] then none
  else some {
    bundles, key
    locale := given.lookup .locale
    parameters := (valuesOf .param given).map parameter
    config := given.lookup .config }

/-- The options of `check`, which needs a bundle file. -/
def checkOptions? (given : List (OptionName × String)) : Option CheckOptions :=
  let bundles := valuesOf .bundle given
  if bundles = [] then none
    else some { bundles, templates := valuesOf .template given }

def Reading.command?
    (topic : HelpTopic) (make : List (OptionName × String) → Option Command) :
    Reading → Option Command
  | .options given => make given
  | .help => some (.help topic)
  | .fault => none

/-- The command that the arguments give; none when they give none. -/
def command? : List String → Option Command
  | "render" :: rest =>
    (readOptions [.bundle, .key, .locale, .param, .config] [] rest).command?
        .render fun given =>
      (renderOptions? given).map .render
  | "check" :: rest =>
    (readOptions [.bundle, .template] [] rest).command? .check fun given =>
      (checkOptions? given).map .check
  | ["help"] => some (.help .program)
  | ["help", "render"] => some (.help .render)
  | ["help", "check"] => some (.help .check)
  | ["help", "help"] => some (.help .help)
  | first :: _ =>
    if asksForHelp first then some (.help .program)
    else if asksForVersion first then some .version
    else none
  | [] => none

end CommandLine
end Phrasebook

/-! ## Help texts

What the program tells about itself and its commands.
-/

namespace Phrasebook.CommandLine

def helpText : HelpTopic → String
  | .program =>
    "Stencil message bundle command-line tool\n\n" ++
    "Usage: stencil <COMMAND>\n\n" ++
    "Commands:\n" ++
    "  render  Render one message\n" ++
    "  check   Validate bundles and the templates that use them\n" ++
    "  help    Print this message or the help of the given subcommand(s)\n\n" ++
    "Options:\n" ++
    "  -h, --help     Print help\n" ++
    "  -V, --version  Print version\n"
  | .render =>
    "Render one message\n\n" ++
    "Usage: stencil render [OPTIONS] --bundle <BUNDLES> --key <KEY>\n\n" ++
    "Options:\n" ++
    "      --bundle <BUNDLES>  Bundle definition files (YAML or JSON)\n" ++
    "      --key <KEY>         Message key, optionally prefixed " ++
      "with the bundle name (`msg:hello`)\n" ++
    "      --locale <LOCALE>   Locale of a localized bundle to prefer\n" ++
    "      --param <PARAMS>    Message parameter as `name=value`; " ++
      "values are parsed as JSON when possible\n" ++
    "      --config <CONFIG>   Engine configuration file; " ++
      "defaults to the standard location\n" ++
    "  -h, --help              Print help\n"
  | .check =>
    "Validate bundles and the templates that use them\n\n" ++
    "Usage: stencil check [OPTIONS] --bundle <BUNDLES>\n\n" ++
    "Options:\n" ++
    "      --bundle <BUNDLES>      Bundle definition files (YAML or JSON)\n" ++
    "      --template <TEMPLATES>  Additional templates to check; " ++
      "registered under their file stem\n" ++
    "  -h, --help                  Print help\n"
  | .help =>
    "Print this message or the help of the given subcommand(s)\n\n" ++
    "Usage: stencil help [COMMAND]...\n\n" ++
    "Arguments:\n" ++
    "  [COMMAND]...  Print help for the subcommand(s)\n"

end Phrasebook.CommandLine
