import Phrasebook.Error

/-!
# Failures of bundles

Loading bundle files, assembling bundles and rendering messages can fail; every
failure has a message and a kind.
-/

namespace Phrasebook

/-- What is wrong with a bundle file: its document, the name of a messages file,
or a line of it. -/
inductive FileFault where
  | document
  | name (fileName : String)
  | separator (line : Nat)
  deriving DecidableEq, Repr

/-- What a fault says, unless it lies in the document. -/
def FileFault.detail? : FileFault → Option String
  | .document => none
  | .name fileName =>
    some
      ("messages file name '" ++ fileName ++
        "' must look like <bundle>_<locale>.<ext>")
  | .separator line =>
    some ("missing key/value separator on line " ++ toString line)

/-- The failure of an operation on bundles. -/
inductive BundleError where
  | unreadable (path : String)
  | invalidFile (path : String) (fault : FileFault)
  | invalidName (name : String)
  | duplicateKey (bundle key : String)
  | duplicateBundle (bundle locale : String)
  | missingDefaultBundle (bundle locale : String)
  | missingLocale (bundle : String)
  | unknownLocalizedMessage (bundle locale method : String)
  | unknownBundle (bundle : String)
  | missingTemplate (bundle key : String)
  | argumentCount (bundle key : String) (expected actual : Nat)
  | engine (error : EngineError)
  deriving Repr

namespace BundleError

def message : BundleError → String
  | .unreadable path => "Failed to read bundle file " ++ path
  | .invalidFile path fault =>
    "Invalid bundle file " ++ path ++ match fault.detail? with
      | some detail => ": " ++ detail
      | none => ""
  | .invalidName name =>
    "Invalid bundle name '" ++ name ++
      "': must start with a lowercase letter " ++
      "followed by letters, digits or underscores"
  | .duplicateKey bundle key =>
    "Duplicate message key '" ++ key ++ "' in bundle '" ++ bundle ++ "'"
  | .duplicateBundle bundle locale =>
    "Bundle '" ++ bundle ++ "' is defined more than once for locale '" ++
      locale ++ "'"
  | .missingDefaultBundle bundle locale =>
    "Localized bundle '" ++ bundle ++ "' (" ++ locale ++
      ") has no default bundle"
  | .missingLocale bundle =>
    "Localized bundle '" ++ bundle ++ "' declares no locale"
  | .unknownLocalizedMessage bundle locale method =>
    "Localized bundle '" ++ bundle ++ "' (" ++ locale ++
      ") overrides unknown message '" ++ method ++ "'"
  | .unknownBundle bundle => "Unknown bundle '" ++ bundle ++ "'"
  | .missingTemplate bundle key =>
    "Message '" ++ key ++ "' not found in bundle '" ++ bundle ++ "'"
  | .argumentCount bundle key expected actual =>
    "Message '" ++ bundle ++ ":" ++ key ++ "' expects " ++ toString expected ++
      " argument(s), got " ++ toString actual
  | .engine error => error.message

def kind : BundleError → String
  | .unreadable _ => "Io"
  | .invalidFile _ _ => "Format"
  | .invalidName _ => "InvalidName"
  | .duplicateKey _ _ => "DuplicateKey"
  | .duplicateBundle _ _ => "DuplicateBundle"
  | .missingDefaultBundle _ _ => "MissingDefaultBundle"
  | .missingLocale _ => "MissingLocale"
  | .unknownLocalizedMessage _ _ _ => "UnknownLocalizedMessage"
  | .unknownBundle _ => "UnknownBundle"
  | .missingTemplate _ _ => "MissingTemplate"
  | .argumentCount _ _ _ _ => "ArgumentCount"
  | .engine error => error.kind

end BundleError
end Phrasebook
