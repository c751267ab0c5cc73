import Phrasebook.Document.Record
import Phrasebook.Json.Reader
import Phrasebook.Yaml.Reader

/-!
# Notations of documents

The two notations of documents in files. They differ in one more point: a record
in JSON may be written as an array of its field values, a record in YAML is
always a mapping.
-/

namespace Phrasebook

/-- The notation of a document. -/
inductive Format where
  | json
  | yaml
  deriving DecidableEq, Repr

namespace Format

def document? (format : Format) (text : String) : Option Document :=
  match format with
  | .json => Document.ofJsonText? text
  | .yaml => Document.ofYamlText? text

/-- The record with the given field names that a document writes. -/
def record? (format : Format) (names : List String) (document : Document) :
    Option Record :=
  match format with
  | .json => Record.ofDocument? names document
  | .yaml => Record.ofMapping? names document

end Format
end Phrasebook
