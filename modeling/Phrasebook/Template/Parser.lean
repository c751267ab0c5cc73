import Phrasebook.Template.Basic

/-!
# Parsing templates

A backslash before `{` makes it text; an opening brace before a blank, a brace
or the end of the text is text too; any other opening brace starts a placeholder
that runs to the first closing brace outside quotes. Neighbouring text is one
node, and no text node is empty.
-/

namespace Phrasebook
namespace TemplateNode

open Phrasebook.Text (Remainder isAsciiBlank)

/-- Whether an opening brace before this character starts a placeholder. -/
def opensBefore (next : Char) : Bool :=
  !isAsciiBlank next && next != '\x7b' && next != '\x7d'

/-- The content of a placeholder up to its closing brace, which stands outside
quotes. `quote` is the open quote; inside quotes a backslash passes over the
next character. -/
def content? (quote : Option Char) : (characters : List Char) →
    Option (Remainder (List Char) characters.length)
  | [] => none
  | character :: rest =>
    match quote with
    | none =>
      if character = '\x7d' then some ⟨[], rest, by simp⟩
      else
        let opened := if character = '\'' ∨ character = '"' then some character
          else none
        (content? opened rest).map fun read =>
          read.map (character :: ·) (by simp)
    | some open_ =>
      if character = '\\' then
        match rest with
        | [] => none
        | escaped :: rest =>
          (content? quote rest).map fun read =>
            read.map (character :: escaped :: ·) (by simp; omega)
      else
        let still := if character = open_ then none else quote
        (content? still rest).map fun read =>
          read.map (character :: ·) (by simp)

/-- A text node, unless the text is empty; `pending` holds its characters, last
first. -/
def ofPending (pending : List Char) : List TemplateNode :=
  if pending = [] then [] else [.text (String.ofList pending.reverse)]

/-- The nodes of the source from a given line on, after the text that is
pending. An error carries its line. -/
def ofSource
    (template : String) (line : Nat) (pending : List Char)
    (characters : List Char) :
    Except (Nat × PlaceholderError) (List TemplateNode) :=
  match characters with
  | [] => .ok (ofPending pending)
  | '\\' :: '\x7b' :: rest => ofSource template line ('\x7b' :: pending) rest
  | '\x7b' :: next :: rest =>
    if opensBefore next then
      match content? none (next :: rest) with
      | none => .error (line, .unterminated)
      | some read =>
        have := read.shorter
        let content := Text.trimEnd (String.ofList read.value)
        match Expression.parse content ⟨template, line⟩ with
        | .error error => .error (line, .invalid content error)
        | .ok expression =>
          match ofSource template (line + read.value.count '\n')
              [] read.rest with
          | .error error => .error error
          | .ok nodes =>
            .ok (ofPending pending ++ .placeholder expression :: nodes)
    else ofSource template line ('\x7b' :: pending) (next :: rest)
  | character :: rest =>
    ofSource template (if character = '\n' then line + 1 else line)
      (character :: pending) rest
  termination_by characters.length
  decreasing_by all_goals (simp only [List.length_cons] at *; omega)

def parse (template source : String) :
    Except (Nat × PlaceholderError) (List TemplateNode) :=
  ofSource template 1 [] source.toList

end TemplateNode
end Phrasebook
