import Phrasebook.Document.Basic
import Phrasebook.Text.Case

/-!
# Keys of messages

A message without a key of its own gets one from the name of its method, by the
strategy of its bundle.
-/

namespace Phrasebook

/-- How the key of a message follows from its method name. -/
inductive KeyStrategy where
  | elementName
  | hyphenated
  | underscored
  deriving DecidableEq, Repr, Inhabited

namespace KeyStrategy

def name : KeyStrategy → String
  | .elementName => "element_name"
  | .hyphenated => "hyphenated_element_name"
  | .underscored => "underscored_element_name"

def ofName? : String → Option KeyStrategy
  | "element_name" => some .elementName
  | "hyphenated_element_name" => some .hyphenated
  | "underscored_element_name" => some .underscored
  | _ => none

/-- The strategy that a document writes: its name, also as the only key of a
mapping with the value null, or as the tag of its own that a null word has. -/
def ofDocument? : Document → Option KeyStrategy
  | .string name => ofName? name
  | .plain name => ofName? name
  | .mapping [(.string name, .null)] => ofName? name
  | .tagged tag content =>
    match tag.toList, content with
    | '!' :: name, .plain word =>
      if Document.nullWords.contains word then ofName? (String.ofList name)
        else none
    | '!' :: _, _ => none
    | _, content => content.string?.bind ofName?
  | _ => none

def apply (strategy : KeyStrategy) (method : String) : String :=
  match strategy with
  | .elementName => method
  | .hyphenated => Text.Words.joined '-' method
  | .underscored => Text.Words.joined '_' method

end KeyStrategy
end Phrasebook
