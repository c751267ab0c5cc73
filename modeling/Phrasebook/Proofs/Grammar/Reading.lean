import Mathlib.Data.List.DropRight
import Mathlib.Tactic.SplitIfs
import Phrasebook.Proofs.Grammar.Tree

/-!
# What the parser reads

The parsing functions return bounds for their termination.  Their outcomes, a
value with the rest of the text or an error, satisfy equations without bounds.
What was read, if nothing failed, satisfies equations without the errors too,
and only these are used for the grammar.
-/

namespace Phrasebook

namespace Grammar

open Phrasebook.Text (Remainder isAsciiBlank)
open Expression.Parser

/-- What was read from the start of a text with the rest, or the error. -/
def outcome
    {α : Type} {bound : Nat}
    (read : Except ExpressionError (Remainder α bound)) :
    Except ExpressionError (α × List Char) :=
  read.map fun one => (one.value, one.rest)

/-- What has been read is shorter than the bound. -/
theorem shorter_of_outcome
    {α : Type} {bound : Nat} {read : Except ExpressionError (Remainder α bound)}
    {value : α} {rest : List Char} (done : outcome read = .ok (value, rest)) :
    rest.length < bound := by
  cases read with
  | error error => cases done
  | ok one =>
      cases done
      exact one.shorter

section Outcomes

variable (origin : Origin)

def readName (text : List Char) : Except ExpressionError (String × List Char) :=
  match taken? (name? text) with
  | none => .error (.expectedName text)
  | some named => .ok named

theorem shorter_of_readName {text rest : List Char} {name : String}
    (read : readName text = .ok (name, rest)) :
    rest.length < text.length := by
  rw [readName] at read
  cases found : name? text with
  | none =>
      rw [found] at read
      cases read
  | some named =>
      rw [found] at read
      cases read
      exact named.shorter

def readQuoted (quote : Char) (text : List Char) :
    Except ExpressionError (Expression × List Char) :=
  match taken? (quotedBody? quote text) with
  | none => .error .unterminatedString
  | some body => .ok (.literal (.string (String.ofList body.1)) origin, body.2)

def readNumeral
    (text : List Char) : Except ExpressionError (Expression × List Char) :=
  match numeralValue? (text.takeWhile isNumeralCharacter) with
  | none => .error (.invalidNumber (text.takeWhile isNumeralCharacter))
  | some value => .ok (.literal value origin, text.dropWhile isNumeralCharacter)

/-- The path that starts with a name, or with a member of a namespace. -/
def readPath (qualifier : Option String) (name : String) (text : List Char) :
    Except ExpressionError (Expression × List Char) :=
  (outcome (parts origin name text)).map fun taken =>
    (.path qualifier taken.1 origin, taken.2)

def readNamed (name : String) (text : List Char) :
    Except ExpressionError (Expression × List Char) :=
  match text with
  | ':' :: afterColon => (readName afterColon).bind fun member =>
    readPath origin (some name) member.1 member.2
  | _ =>
    match keywordBefore? name text with
    | some value => .ok (.literal value origin, text)
    | none => readPath origin none name text

/-- The expression that starts with a character, or its error. -/
def readFrom (first : Char) (rest : List Char) :
    Except ExpressionError (Expression × List Char) :=
  if first = '\'' ∨ first = '"' then readQuoted origin first rest
  else if startsNumeral first then readNumeral origin (first :: rest)
  else (readName (first :: rest)).bind fun named =>
    readNamed origin named.1 named.2

def readPart (name : String) (text : List Char) :
    Except ExpressionError (Part × List Char) :=
  match text with
  | '(' :: afterParenthesis =>
    (outcome (arguments origin afterParenthesis)).map fun taken =>
      (.method name taken.1, taken.2)
  | _ => .ok (.property name, text)

/-- The parts from after one of them on, or their error. -/
def readAfterPart (part : Part) (text : List Char) :
    Except ExpressionError (List Part × List Char) :=
  match text with
  | '.' :: afterDot =>
    (readName afterDot).bind fun next =>
      (outcome (parts origin next.1 next.2)).map fun taken =>
        (part :: taken.1, taken.2)
  | _ => .ok ([part], text)

/-- The arguments from after the first of them, and blanks, on, or their
error. -/
def readOthers (first : Expression) (text : List Char) :
    Except ExpressionError (List Expression × List Char) :=
  match text with
  | ')' :: afterParenthesis => .ok ([first], afterParenthesis)
  | ',' :: afterComma =>
    (outcome (argumentList origin afterComma)).map fun taken =>
      (first :: taken.1, taken.2)
  | _ => .error .expectedSeparator

/-- The arguments from after the opening parenthesis, and blanks, on, or their
error. -/
def readArguments
    (text : List Char) : Except ExpressionError (List Expression × List Char) :=
  match text with
  | ')' :: afterParenthesis => .ok ([], afterParenthesis)
  | _ => outcome (argumentList origin text)

/-- The end of a text behind its one expression, and blanks. -/
def readEnd (read : Expression) (text : List Char) :
    Except ExpressionError (Expression × List Char) :=
  match text with
  | [] => .ok (read, [])
  | _ => .error (.unexpected text)

variable {text rest : List Char} {first : Char}

/-- Blanks only are no expression. -/
theorem outcome_expression_nil (blank : skipBlanks text = []) :
    outcome (expression origin text) = .error .empty := by
  rw [expression]
  split
  · rfl
  · rename_i start
    cases blank.symm.trans start

/-- An expression is read from its first character that is no blank. -/
theorem outcome_expression_cons (start : skipBlanks text = first :: rest) :
    outcome (expression origin text) = readFrom origin first rest := by
  rw [expression]
  split
  · rename_i start'
    cases start.symm.trans start'
  rename_i first' rest' start'
  rcases List.cons.inj (start.symm.trans start') with ⟨rfl, rfl⟩
  dsimp only
  rw [readFrom]
  split_ifs with quote numeral
  · rw [readQuoted]
    cases quotedBody? first rest <;> rfl
  · have longer := isNumeralCharacter_of_startsNumeral numeral
    rw [readNumeral, List.takeWhile_cons_of_pos longer,
      List.dropWhile_cons_of_pos longer]
    cases numeralValue? (first :: rest.takeWhile isNumeralCharacter) <;> rfl
  rw [readName]
  cases name? (first :: rest) with
  | none => rfl
  | some name =>
      change _ = readNamed origin name.value name.rest
      dsimp only
      split
      · rename_i afterColon after
        conv => rhs; rw [after, readNamed, readName]
        cases name? afterColon with
        | none => rfl
        | some member =>
            change _ =
              readPath origin (some name.value) member.value member.rest
            dsimp only [readPath]
            cases parts origin member.value member.rest <;> rfl
      · rename_i noColon
        rw [readNamed]
        · cases keywordBefore? name.value name.rest with
          | some value => rfl
          | none =>
              dsimp only [readPath]
              cases parts origin name.value name.rest <;> rfl
        · exact noColon

/-- Blanks before an expression do not matter. -/
theorem outcome_skipBlanks (text : List Char) :
    outcome (expression origin (skipBlanks text)) =
      outcome (expression origin text) := by
  have again : skipBlanks (skipBlanks text) = skipBlanks text :=
    List.dropWhile_idempotent _ text
  cases start : skipBlanks text with
  | nil =>
      rw [outcome_expression_nil origin start,
        outcome_expression_nil origin rfl]
  | cons first rest =>
      rw [start] at again
      rw [outcome_expression_cons origin start,
        outcome_expression_cons origin again]

/-- Parts are read one at a time, each with what follows it. -/
theorem outcome_parts (name : String) (text : List Char) :
    outcome (parts origin name text) =
      (readPart origin name text).bind fun part =>
        readAfterPart origin part.1 part.2 := by
  rw [parts.eq_def]
  split
  · rename_i afterParenthesis
    rw [readPart]
    cases arguments origin afterParenthesis with
    | error error => rfl
    | ok values =>
        change _ = readAfterPart origin (.method name values.value) values.rest
        dsimp only
        split
        · rename_i afterDot after
          conv => rhs; rw [after, readAfterPart, readName]
          cases name? afterDot with
          | none => rfl
          | some next =>
              change _ = (outcome (parts origin next.value next.rest)).map _
              dsimp only
              cases parts origin next.value next.rest <;> rfl
        · rename_i noDot
          rw [readAfterPart]
          · rfl
          · exact noDot
  · rename_i afterDot
    change _ = readAfterPart origin (.property name) ('.' :: afterDot)
    rw [readAfterPart, readName]
    cases name? afterDot with
    | none => rfl
    | some next =>
        change _ = (outcome (parts origin next.value next.rest)).map _
        dsimp only
        cases parts origin next.value next.rest <;> rfl
  · rename_i noCall noDot
    have property : readPart origin name text = .ok (.property name, text) := by
      rw [readPart]
      exact noCall
    rw [property]
    change _ = readAfterPart origin (.property name) text
    rw [readAfterPart]
    · rfl
    · exact noDot

/-- An argument list is an expression and what follows it. -/
theorem outcome_argumentList (text : List Char) :
    outcome (argumentList origin text) =
      (outcome (expression origin text)).bind fun first =>
        readOthers origin first.1 (skipBlanks first.2) := by
  rw [argumentList]
  cases expression origin text with
  | error error => rfl
  | ok first =>
      change _ = readOthers origin first.value (skipBlanks first.rest)
      dsimp only
      split
      · rename_i afterParenthesis after
        conv => rhs; rw [after]
        rfl
      · rename_i afterComma after
        conv => rhs; rw [after]
        rw [readOthers]
        cases argumentList origin afterComma <;> rfl
      · rename_i noParenthesis noComma
        rw [readOthers]
        · rfl
        · exact noParenthesis
        · exact noComma

/-- Arguments are read behind the blanks in front of them. -/
theorem outcome_arguments (text : List Char) :
    outcome (arguments origin text) =
      readArguments origin (skipBlanks text) := by
  rw [arguments]
  split
  · rename_i rest start
    conv => rhs; rw [start]
    rfl
  · rename_i notClosed
    rw [readArguments, outcome_argumentList, outcome_argumentList,
      outcome_skipBlanks]
    exact notClosed

/-- A source is an expression with nothing but blanks behind it. -/
theorem outcome_parse (source : String) :
    (Expression.parse source origin).map (fun read => (read, [])) =
      (outcome (expression origin source.toList)).bind fun read =>
        readEnd read.1 (skipBlanks read.2) := by
  rw [Expression.parse]
  cases expression origin source.toList with
  | error error => rfl
  | ok read =>
      change _ = readEnd read.value (skipBlanks read.rest)
      dsimp only
      cases skipBlanks read.rest <;> rfl

end Outcomes

/-- What was read from the start of a text, if nothing failed. -/
def read?
    {α : Type} {bound : Nat}
    (outcome : Except ExpressionError (Remainder α bound)) :
    Option (α × List Char) :=
  match outcome with
  | .error _ => none
  | .ok one => some (one.value, one.rest)

section Values

variable {α β : Type} (origin : Origin)

/-- The outcome of a read tells what the plain reader gives. -/
theorem toOption_outcome
    {bound : Nat} (read : Except ExpressionError (Remainder α bound)) :
    (outcome read).toOption = read? read := by
  cases read <;> rfl

theorem toOption_map (read : Except ExpressionError α) (f : α → β) :
    (read.map f).toOption = read.toOption.map f := by
  cases read <;> rfl

theorem toOption_bind
    (read : Except ExpressionError α) (f : α → Except ExpressionError β) :
    (read.bind f).toOption = read.toOption.bind fun one =>
      (f one).toOption := by
  cases read <;> rfl

theorem toOption_readName
    (text : List Char) : (readName text).toOption = taken? (name? text) := by
  rw [readName]
  cases taken? (name? text) <;> rfl

end Values

variable (origin : Origin)

/-- The path without a namespace that starts with a name, or the literal that
the name stands for. -/
def readUnqualified? (name : String) (text : List Char) :
    Option (Expression × List Char) :=
  match keywordBefore? name text with
  | some value => some (.literal value origin, text)
  | none => (read? (parts origin name text)).map fun taken =>
    (.path none taken.1 origin, taken.2)

def readQualified? (qualifier : String) (text : List Char) :
    Option (Expression × List Char) :=
  (taken? (name? text)).bind fun member =>
    (read? (parts origin member.1 member.2)).map fun taken =>
      (.path (some qualifier) taken.1 origin, taken.2)

def readNamed? (name : String) (text : List Char) :
    Option (Expression × List Char) :=
  match text with
  | ':' :: afterColon => readQualified? origin name afterColon
  | _ => readUnqualified? origin name text

/-- The expression that starts with a character. -/
def readFrom? (first : Char) (rest : List Char) :
    Option (Expression × List Char) :=
  if first = '\'' ∨ first = '"' then
    (taken? (quotedBody? first rest)).map fun taken =>
      (.literal (.string (String.ofList taken.1)) origin, taken.2)
  else if startsNumeral first then
    (numeralValue? (first :: rest.takeWhile isNumeralCharacter)).map
        fun value =>
      (.literal value origin, rest.dropWhile isNumeralCharacter)
  else
    (taken? (name? (first :: rest))).bind fun named =>
      readNamed? origin named.1 named.2

theorem readNamed?_unqualified
    {name : String} {text : List Char} (noColon : ∀ rest, text ≠ ':' :: rest) :
    readNamed? origin name text = readUnqualified? origin name text := by
  unfold readNamed?
  split
  · exact (noColon _ rfl).elim
  · rfl

/-- Reading behind a name fails exactly when the plain reader does, and gives
the same otherwise. -/
theorem toOption_readNamed (name : String) (text : List Char) :
    (readNamed origin name text).toOption = readNamed? origin name text := by
  unfold readNamed readNamed?
  split
  · simp only [readQualified?, readPath, toOption_bind, toOption_map,
      toOption_outcome, toOption_readName]
  · rw [readUnqualified?]
    cases keywordBefore? name text with
    | some value => rfl
    | none => simp only [readPath, toOption_map, toOption_outcome]

/-- Reading from a first character fails exactly when the plain reader does, and
gives the same otherwise. -/
theorem toOption_readFrom (first : Char) (rest : List Char) :
    (readFrom origin first rest).toOption = readFrom? origin first rest := by
  rw [readFrom, readFrom?]
  split_ifs with quote numeral
  · rw [readQuoted]
    cases quotedBody? first rest <;> rfl
  · have longer := isNumeralCharacter_of_startsNumeral numeral
    rw [readNumeral, List.takeWhile_cons_of_pos longer,
      List.dropWhile_cons_of_pos longer]
    cases numeralValue? (first :: rest.takeWhile isNumeralCharacter) <;> rfl
  · simp only [toOption_bind, toOption_readName, toOption_readNamed]

theorem read?_expression_nil {text : List Char} (start : skipBlanks text = []) :
    read? (expression origin text) = none := by
  rw [← toOption_outcome, outcome_expression_nil origin start]
  rfl

theorem read?_expression_cons
    {text rest : List Char} {first : Char}
    (start : skipBlanks text = first :: rest) :
    read? (expression origin text) = readFrom? origin first rest := by
  rw [← toOption_outcome, outcome_expression_cons origin start,
    toOption_readFrom]

/-- The parts from after a point on. -/
def readMember? (text : List Char) : Option (List Part × List Char) :=
  (taken? (name? text)).bind fun next => read? (parts origin next.1 next.2)

/-- The parts from after an argument list on. -/
def readAfterCall? (part : Part) (text : List Char) :
    Option (List Part × List Char) :=
  match text with
  | '.' :: afterDot => (readMember? origin afterDot).map fun taken =>
    (part :: taken.1, taken.2)
  | _ => some ([part], text)

/-- A call without a dot behind it is the last part. -/
theorem readAfterCall?_done
    {part : Part} {text : List Char} (noDot : ∀ rest, text ≠ '.' :: rest) :
    readAfterCall? origin part text = some ([part], text) := by
  unfold readAfterCall?
  split
  · exact (noDot _ rfl).elim
  · rfl

theorem toOption_readAfterPart (part : Part) (text : List Char) :
    (readAfterPart origin part text).toOption =
      readAfterCall? origin part text := by
  unfold readAfterPart readAfterCall?
  split
  · simp only [readMember?, toOption_bind, toOption_map, toOption_readName,
      toOption_outcome, Option.map_bind, Function.comp_def]
  · rfl

/-- A name in front of an opening parenthesis is read as a method with its
arguments. -/
theorem read?_parts_call (name : String) (text : List Char) :
    read? (parts origin name ('(' :: text)) =
      (read? (arguments origin text)).bind fun values =>
        readAfterCall? origin (.method name values.1) values.2 := by
  rw [← toOption_outcome, outcome_parts, readPart, toOption_bind, toOption_map,
    toOption_outcome, Option.bind_map]
  simp only [Function.comp_def, toOption_readAfterPart]

theorem read?_parts_dot (name : String) (text : List Char) :
    read? (parts origin name ('.' :: text)) =
      (readMember? origin text).map fun taken =>
        (.property name :: taken.1, taken.2) := by
  rw [← toOption_outcome, outcome_parts]
  exact toOption_readAfterPart origin (.property name) ('.' :: text)

/-- A name with neither a call nor a dot behind it is the last part. -/
theorem read?_parts_done
    {name : String} {text : List Char}
    (noCall : ∀ rest, text ≠ '(' :: rest) (noDot : ∀ rest, text ≠ '.' :: rest) :
    read? (parts origin name text) = some ([.property name], text) := by
  rw [← toOption_outcome, outcome_parts, readPart]
  · exact (toOption_readAfterPart origin (.property name) text).trans
      (readAfterCall?_done origin noDot)
  · exact noCall

theorem read?_arguments_closed
    {text rest : List Char} (start : skipBlanks text = ')' :: rest) :
    read? (arguments origin text) = some ([], rest) := by
  rw [← toOption_outcome, outcome_arguments, start]
  rfl

theorem read?_arguments_open
    {text : List Char} (notClosed : ∀ rest, skipBlanks text ≠ ')' :: rest) :
    read? (arguments origin text) = read? (argumentList origin text) := by
  rw [arguments]
  split
  · rename_i start
    exact (notClosed _ start).elim
  · rfl

/-- The arguments from after the first of them on. -/
def readOthers? (first : Expression) (text : List Char) :
    Option (List Expression × List Char) :=
  match text with
  | ')' :: afterParenthesis => some ([first], afterParenthesis)
  | ',' :: afterComma =>
    (read? (argumentList origin afterComma)).map fun taken =>
      (first :: taken.1, taken.2)
  | _ => none

theorem toOption_readOthers (first : Expression) (text : List Char) :
    (readOthers origin first text).toOption =
      readOthers? origin first text := by
  unfold readOthers readOthers?
  split
  · rfl
  · rw [toOption_map, toOption_outcome]
  · rfl

/-- An argument list is read as an expression and what follows it. -/
theorem read?_argumentList (text : List Char) :
    read? (argumentList origin text) =
      (read? (expression origin text)).bind fun taken =>
        readOthers? origin taken.1 (skipBlanks taken.2) := by
  rw [← toOption_outcome, outcome_argumentList, toOption_bind, toOption_outcome]
  simp only [toOption_readOthers]

end Grammar

end Phrasebook
