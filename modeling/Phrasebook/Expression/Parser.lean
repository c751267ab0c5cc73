import Phrasebook.Expression.Basic
import Phrasebook.Json.Reader
import Phrasebook.Text.Cutting
import Phrasebook.Text.Remainder

/-!
# Parsing expressions

Blanks are allowed around an expression and around arguments, nowhere else;
names are longest runs of ASCII letters, digits, `_` and `-`. Each parsing
function returns the rest of its input together with a bound on its length,
which is also why the parser terminates.
-/

namespace Phrasebook

/-- Why a text is no expression. The rest of the text is kept where the message
names a place. -/
inductive ExpressionError where
  | empty
  | unexpected (rest : List Char)
  | expectedName (rest : List Char)
  | expectedSeparator
  | unterminatedString
  | invalidNumber (numeral : List Char)
  deriving DecidableEq, Repr

namespace ExpressionError

/-- The number of bytes of a text. -/
def byteCount (characters : List Char) : Nat :=
  (String.ofList characters).utf8ByteSize

/-- The message of an error in an expression text. Places are counted in
bytes. -/
def message (source : String) : ExpressionError → String
  | .empty => "empty expression in `" ++ source ++ "`"
  | .unexpected rest =>
    "unexpected `" ++ String.ofList rest ++ "` in expression `" ++ source ++ "`"
  | .expectedName rest =>
    "expected a name at offset " ++
      toString (byteCount source.toList - byteCount rest) ++ " in `" ++
      source ++ "`"
  | .expectedSeparator => "expected `,` or `)` in `" ++ source ++ "`"
  | .unterminatedString => "unterminated string literal in `" ++ source ++ "`"
  | .invalidNumber numeral =>
    "invalid number literal `" ++ String.ofList numeral ++ "`"

end ExpressionError

namespace Expression.Parser

open Phrasebook.Text (isAsciiBlank Remainder length_dropWhile_le)

/-- The text after its leading blanks. -/
def skipBlanks (characters : List Char) : List Char :=
  characters.dropWhile isAsciiBlank

/-- Skipping blanks leaves no more characters than there were. -/
theorem length_skipBlanks_le (characters : List Char) :
    (skipBlanks characters).length ≤ characters.length :=
  length_dropWhile_le isAsciiBlank characters

def isNameCharacter (character : Char) : Bool :=
  character.isAlphanum || character == '_' || character == '-'

/-- The characters of number literals. -/
def isNumeralCharacter (character : Char) : Bool :=
  character.isDigit || character == '.' || character == '-' ||
    character == '+' || character == 'e' ||
    character == 'E'

/-- The characters that start a number literal. -/
def startsNumeral (character : Char) : Bool :=
  character.isDigit || character == '-'

/-- Whatever may start a number may also go on in one. -/
theorem isNumeralCharacter_of_startsNumeral
    {character : Char} (starts : startsNumeral character = true) :
    isNumeralCharacter character = true := by
  simp only [startsNumeral, Bool.or_eq_true] at starts
  rcases starts with digit | minus
  · simp [isNumeralCharacter, digit]
  · simp [isNumeralCharacter, minus]

/-- A name at the start of a text. -/
def name?
    (characters : List Char) : Option (Remainder String characters.length) :=
  match characters with
  | [] => none
  | first :: rest =>
    if isNameCharacter first then
      some ⟨String.ofList (first :: rest.takeWhile isNameCharacter),
        rest.dropWhile isNameCharacter,
        Nat.lt_succ_of_le (length_dropWhile_le isNameCharacter rest)⟩
    else none

/-- The rest of a quoted literal after its opening quote: the text up to the
same quote, a backslash taking the next character as it is. -/
def quotedBody? (quote : Char) :
    (characters : List Char) → Option (Remainder (List Char) characters.length)
  | [] => none
  | '\\' :: [] => none
  | '\\' :: escaped :: rest =>
    (quotedBody? quote rest).map fun body =>
      body.map (escaped :: ·) (by simp; omega)
  | character :: rest =>
    if character = quote then some ⟨[], rest, by simp⟩
    else (quotedBody? quote rest).map fun body =>
      body.map (character :: ·) (by simp)

/-- The value of a number literal: one data number and nothing else. -/
def numeralValue? (numeral : List Char) : Option Json :=
  match Json.Reader.numeral? numeral with
  | some (read, []) => (Number.ofNumeral? read).map Json.number
  | _ => none

/-- The values that stand under a name. -/
def keyword? : String → Option Json
  | "true" => some (.bool true)
  | "false" => some (.bool false)
  | "null" => some .null
  | _ => none

/-- The keyword that a name stands for when no part and no argument list
continues it. -/
def keywordBefore? (name : String) (rest : List Char) : Option Json :=
  match rest with
  | '.' :: _ => none
  | '(' :: _ => none
  | _ => keyword? name

mutual

/-- An expression at the start of a text, after blanks. -/
def expression (origin : Origin) (characters : List Char) :
    Except ExpressionError (Remainder Expression characters.length) :=
  have blanks := length_skipBlanks_le characters
  match start : skipBlanks characters with
  | [] => .error .empty
  | first :: rest =>
    have bound : rest.length < characters.length := by
      simp only [start, List.length_cons] at blanks; omega
    if first = '\'' ∨ first = '"' then
      match quotedBody? first rest with
      | none => .error .unterminatedString
      | some body =>
        .ok
          (body.map (fun text => .literal (.string (String.ofList text)) origin)
            (Nat.le_of_lt bound))
    else if startsNumeral first then
      match numeralValue? (first :: rest.takeWhile isNumeralCharacter) with
      | none =>
        .error (.invalidNumber (first :: rest.takeWhile isNumeralCharacter))
      | some value =>
        .ok ⟨.literal value origin, rest.dropWhile isNumeralCharacter,
          Nat.lt_of_le_of_lt (length_dropWhile_le _ _) bound⟩
    else
      match name? (first :: rest) with
      | none => .error (.expectedName (first :: rest))
      | some name =>
        have shorter : name.rest.length < characters.length := by
          have := name.shorter; simp only [List.length_cons] at this; omega
        match after : name.rest with
        | ':' :: afterColon =>
          have shorter : afterColon.length < characters.length := by
            simp only [after, List.length_cons] at shorter; omega
          match name? afterColon with
          | none => .error (.expectedName afterColon)
          | some member =>
            have shorter := Nat.lt_trans member.shorter shorter
            match parts origin member.value member.rest with
            | .error error => .error error
            | .ok read =>
              .ok
                (read.map (fun parts => .path (some name.value) parts origin)
                  shorter)
        | _ =>
          match keywordBefore? name.value name.rest with
          | some value => .ok ⟨.literal value origin, name.rest, shorter⟩
          | none =>
            match parts origin name.value name.rest with
            | .error error => .error error
            | .ok read =>
              .ok (read.map (fun parts => .path none parts origin) shorter)
  termination_by (characters.length, 1)
  decreasing_by all_goals (apply Prod.Lex.left; assumption)

/-- The parts of a path from after the name of the first one. -/
def parts (origin : Origin) (name : String) (characters : List Char) :
    Except ExpressionError (Remainder (List Part) (characters.length + 1)) :=
  match characters with
  | '(' :: afterParenthesis =>
    match arguments origin afterParenthesis with
    | .error error => .error error
    | .ok values =>
      have shorter := values.shorter
      match after : values.rest with
      | '.' :: afterDot =>
        have shorter : afterDot.length < afterParenthesis.length := by
          simp only [after, List.length_cons] at shorter; omega
        match name? afterDot with
        | none => .error (.expectedName afterDot)
        | some next =>
          have shorter := Nat.lt_trans next.shorter shorter
          match parts origin next.value next.rest with
          | .error error => .error error
          | .ok read =>
            .ok
              (read.map (.method name values.value :: ·)
                (by simp only [List.length_cons]; omega))
      | _ =>
        .ok ⟨[.method name values.value],
          values.rest, by simp only [List.length_cons]; omega⟩
  | '.' :: afterDot =>
    match name? afterDot with
    | none => .error (.expectedName afterDot)
    | some next =>
      have shorter := next.shorter
      match parts origin next.value next.rest with
      | .error error => .error error
      | .ok read =>
        .ok
          (read.map (.property name :: ·)
            (by simp only [List.length_cons]; omega))
  | rest => .ok ⟨[.property name], rest, Nat.lt_succ_self _⟩
  termination_by (characters.length, 0)
  decreasing_by all_goals
    (apply Prod.Lex.left; simp only [List.length_cons]; omega)

/-- The arguments of a method from after the opening parenthesis to the closing
one. -/
def arguments (origin : Origin) (characters : List Char) :
    Except ExpressionError (Remainder (List Expression) characters.length) :=
  have blanks := length_skipBlanks_le characters
  match start : skipBlanks characters with
  | ')' :: rest =>
    .ok ⟨[], rest, by simp only [start, List.length_cons] at blanks; omega⟩
  | _ => argumentList origin characters
  termination_by (characters.length, 3)
  decreasing_by all_goals (apply Prod.Lex.right; decide)

/-- A nonempty argument list to its closing parenthesis. -/
def argumentList (origin : Origin) (characters : List Char) :
    Except ExpressionError (Remainder (List Expression) characters.length) :=
  match expression origin characters with
  | .error error => .error error
  | .ok read =>
    have shorter := read.shorter
    have blanks := length_skipBlanks_le read.rest
    match start : skipBlanks read.rest with
    | ')' :: afterParenthesis =>
      .ok ⟨[read.value], afterParenthesis,
        by simp only [start, List.length_cons] at blanks; omega⟩
    | ',' :: afterComma =>
      have bound : afterComma.length < characters.length := by
        simp only [start, List.length_cons] at blanks; omega
      match argumentList origin afterComma with
      | .error error => .error error
      | .ok others => .ok (others.map (read.value :: ·) (Nat.le_of_lt bound))
    | _ => .error .expectedSeparator
  termination_by (characters.length, 2)
  decreasing_by
    · exact Prod.Lex.right _ (by decide)
    · exact Prod.Lex.left _ _ bound

end

end Expression.Parser

/-- The expression that a text consists of, blanks around it aside. -/
def Expression.parse (source : String) (origin : Origin) :
    Except ExpressionError Expression :=
  match Parser.expression origin source.toList with
  | .error error => .error error
  | .ok read =>
    match Parser.skipBlanks read.rest with
    | [] => .ok read.value
    | rest => .error (.unexpected rest)

end Phrasebook
