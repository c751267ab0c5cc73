import Phrasebook.Expression.Basic

/-!
# The journal

The journal holds what an engine reports while it works, and what resolvers,
mappers and callbacks write into it. The newest event comes first. Debug and
trace events are there for those who ask for them; warnings and notes always
show.
-/

namespace Phrasebook

/-- An event of the journal. -/
inductive Event where
  | registeredTemplate (template : String)
  | renderingTemplate (template : String)
  | evaluatingBinding (key : String)
  | resolveStarted (expression : Expression)
  | resolveCompleted (expression : Expression) (found : Bool)
  | builtBundles (bundles templates : Nat)
  | unusedParameter (template parameter : String)
  | defaultConfig (error : String)
  | note (text : String)
  deriving Repr

namespace Event

/-- Whether an event shows only to those who ask for details. -/
def isDetail : Event → Bool
  | .unusedParameter _ _ | .defaultConfig _ | .note _ => false
  | _ => true

/-- The line that reports an event. -/
def text : Event → String
  | .registeredTemplate template =>
    "DEBUG registered template template=" ++ template
  | .renderingTemplate template =>
    "DEBUG rendering template template=" ++ template
  | .evaluatingBinding key => "DEBUG evaluating computed binding key=" ++ key
  | .resolveStarted expression =>
    "TRACE resolve started expression=" ++ expression.text ++ " origin=" ++
      expression.origin.text
  | .resolveCompleted expression found =>
    "TRACE resolve completed expression=" ++ expression.text ++ " found=" ++
      toString found
  | .builtBundles bundles templates =>
    "DEBUG built message bundles bundles=" ++ toString bundles ++
      " templates=" ++ toString templates
  | .unusedParameter template parameter =>
    "WARN message parameter is never used template=" ++ template ++
      " parameter=" ++ parameter
  | .defaultConfig error =>
    "WARN failed to load engine config, using defaults error=" ++ error
  | .note text => text

end Event

/-- The events so far, newest first. -/
abbrev Journal := List Event

/-- The lines of a journal, oldest first, with or without details. -/
def Journal.lines (detailed : Bool) (journal : Journal) : List String :=
  (journal.reverse.filter fun event => detailed || !event.isDetail).map
    Event.text

end Phrasebook
