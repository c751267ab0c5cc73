import Phrasebook.Bundle.Definition
import Phrasebook.Bundle.Error
import Phrasebook.Files
import Phrasebook.Text.Cutting

/-!
# Bundle files

A file with the extension `json`, `yaml` or `yml` holds the document of a
definition. Any other file is a messages file, the localized override that its
name `<bundle>_<locale>.<ext>` tells, with lines `method=template`; the bundle
name ends at the first underscore, and the locale at the first dot. Blank lines
and lines that start with `#` are passed over.
-/

namespace Phrasebook

namespace MessagesFile

/-- The bundle and the locale that the name of a messages file tells. -/
def bundleAndLocale? (fileName : String) : Option (String × String) :=
  match Text.splitFirst? '_' (fileName.toList.takeWhile (· ≠ '.')) with
  | some (bundle, locale) =>
    if bundle = [] ∨ locale = [] then none
      else some (String.ofList bundle, String.ofList locale)
  | none => none

/-- Whether a line declares nothing. -/
def isSilent (line : List Char) : Bool :=
  line.head? == some '#' || line.all Text.isBlank

/-- Adds the messages of lines that are numbered from `number`; fails at the
first line that has no separator. -/
def addLines
    (number : Nat) (lines : List (List Char)) (definition : BundleDefinition) :
    Except FileFault BundleDefinition :=
  match lines with
  | [] => .ok definition
  | line :: rest =>
    if isSilent line then addLines (number + 1) rest definition
    else
      match Text.splitFirst? '=' line with
      | none => .error (.separator number)
      | some (method, template) =>
        addLines (number + 1) rest
          (definition.addMessage (String.ofList (Text.trimChars method))
            { template := String.ofList (Text.trimChars template) })

def parse (fileName content : String) : Except FileFault BundleDefinition :=
  match bundleAndLocale? fileName with
  | none => .error (.name fileName)
  | some (bundle, locale) =>
    addLines 1 (Text.lines content)
      { bundle, locale := some locale, localized := true }

end MessagesFile

namespace BundleDefinition

def parseFile (path content : String) : Except FileFault BundleDefinition :=
  let read (format : Format) : Except FileFault BundleDefinition :=
    match (format.document? content).bind (ofDocument? format) with
    | some definition => .ok definition
    | none => .error .document
  match Path.extension? path with
  | some "json" => read .json
  | some "yaml" => read .yaml
  | some "yml" => read .yaml
  | _ => MessagesFile.parse ((Path.fileName? path).getD "") content

def load
    (files : Files) (path : String) : Except BundleError BundleDefinition :=
  match files path with
  | .text content => (parseFile path content).mapError (.invalidFile path)
  | _ => .error (.unreadable path)

end BundleDefinition
end Phrasebook
