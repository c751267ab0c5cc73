import Phrasebook.Bundle.Assembly
import Phrasebook.Proofs.Template.Embedding

/-!
# Templates that call one message

The template of a single placeholder that calls a message, with names for
arguments, is parsed to that placeholder: its expression is in the namespace of
the bundle and has one part, the method with one property for each name.
-/

namespace Phrasebook

namespace Grammar

open Expression.Parser (isNameCharacter startsNumeral)

/-- A name that stands for a property when it stands by itself: it starts no
number and is no keyword. -/
def Name.IsProperty (name : Name) : Prop :=
  name.Leads ∧ ∀ word : Keyword, name ≠ word.name

/-- The property of a name. -/
def Name.property (name : Name) : Tree :=
  .path none name .done

/-- Names as the arguments of a call, the first one behind the given blanks. -/
def argumentItems (before : Blanks) (name : Name) : List Name → Items
  | [] => .last before name.property .absent
  | next :: rest =>
    .comma before name.property .absent (argumentItems .space next rest)

def argumentsOf : List Name → Arguments
  | [] => .none .absent
  | name :: rest => .some (argumentItems .absent name rest)

/-- The call of a method in the namespace of a bundle, with names for
arguments. -/
def callTree (bundle method : Name) (names : List Name) : Tree :=
  .path (some bundle) method (.call (argumentsOf names))

variable {name : Name} {names : List Name} {bundle method : Name}

theorem argumentItems_valid
    (before : Blanks) (first : name.IsProperty)
    (properties : ∀ name ∈ names, name.IsProperty) :
    (argumentItems before name names).Valid := by
  induction names generalizing name before with
  | nil => exact ⟨first.1, fun _ _ => first.2, trivial⟩
  | cons next rest ih =>
      rcases List.forall_mem_cons.mp properties with ⟨second, others⟩
      exact ⟨⟨first.1, fun _ _ => first.2, trivial⟩, ih .space second others⟩

/-- The tree of a call is valid when its names are properties. -/
theorem callTree_valid
    (leads : bundle.Leads) (properties : ∀ name ∈ names, name.IsProperty) :
    (callTree bundle method names).Valid := by
  refine ⟨leads, nofun, ?_⟩
  cases names with
  | nil => trivial
  | cons name rest =>
      rcases List.forall_mem_cons.mp properties with ⟨first, others⟩
      exact argumentItems_valid .absent first others

section Value

variable (origin : Origin)

/-- The expression of a property of one name. -/
def Name.expression (name : Name) : Expression :=
  .path none [.property name.text] origin

theorem values_argumentItems
    (before : Blanks) (name : Name) (names : List Name) :
    (argumentItems before name names).values origin =
      (name :: names).map (Name.expression origin) := by
  induction names generalizing name before with
  | nil => rfl
  | cons next rest ih =>
      rw [argumentItems, Items.values, ih, List.map_cons]
      rfl

/-- The tree of a call is read as the method with its arguments. -/
theorem value_callTree (bundle method : Name) (names : List Name) :
    (callTree bundle method names).value origin =
      .path (some bundle.text)
        [.method method.text (names.map (Name.expression origin))] origin := by
  rw [callTree, Tree.value, Tail.parts]
  cases names with
  | nil => rfl
  | cons name rest =>
      rw [argumentsOf, Arguments.values, values_argumentItems]
      rfl

end Value

/-- The source of a template that calls a message. -/
def callSource (bundle method : String) (names : List String) : String :=
  "\x7b" ++ bundle ++ ":" ++ method ++ "(" ++
    String.intercalate ", " names ++ ")\x7d"

theorem text_argumentItems (before : Blanks) (name : Name) (names : List Name) :
    (argumentItems before name names).text =
      before.characters ++
        (String.intercalate ", " ((name :: names).map Name.text)).toList := by
  induction names generalizing name before with
  | nil =>
      rw [argumentItems, List.map_singleton, String.intercalate_singleton,
        name.toList_text]
      show before.characters ++ ((name.characters ++ []) ++ []) = _
      rw [List.append_nil, List.append_nil]
  | cons next rest ih =>
      have more : (next :: rest).map Name.text ≠ [] := List.cons_ne_nil _ _
      rw [argumentItems, List.map_cons, String.intercalate_cons_of_ne_nil more,
        Items.text, ih]
      show before.characters ++
        ((name.characters ++ []) ++ ([] ++ ',' :: ([' '] ++ _))) = _
      rw [String.toList_append, String.toList_append, name.toList_text]
      simp

/-- The source of a call is the text of its tree, in braces. -/
theorem toList_callSource (bundle method : Name) (names : List Name) :
    (callSource bundle.text method.text (names.map Name.text)).toList =
      '\x7b' :: ((callTree bundle method names).text ++ ['\x7d']) := by
  have between :
      (argumentsOf names).text =
          (String.intercalate ", " (names.map Name.text)).toList := by
    cases names with
    | nil => rfl
    | cons name rest =>
        rw [argumentsOf, Arguments.text, text_argumentItems]
        rfl
  rw [callTree, Tree.text, Tail.text, between, callSource]
  simp [Name.toList_text]

/-- The template of a call has one node. -/
theorem parse_callSource
    (leads : bundle.Leads) (properties : ∀ name ∈ names, name.IsProperty)
    (id : String) :
    TemplateNode.parse id
      (callSource bundle.text method.text (names.map Name.text)) =
      .ok [.placeholder ((callTree bundle method names).value ⟨id, 1⟩)] :=
  parse_tree (callTree_valid leads properties)
    (toList_callSource bundle method names) id

/-- The template of a method without namespace and arguments. -/
theorem parse_method
    (leads : name.Leads) {source : String}
    (spelled : source.toList =
      '\x7b' :: (name.characters ++ ['(', ')', '\x7d'])) (id : String) :
    TemplateNode.parse id source =
      .ok [.placeholder (.path none [.method name.text []] ⟨id, 1⟩)] := by
  let tree : Tree := .path none name (.call (.none .absent))
  have valid : tree.Valid := ⟨leads, nofun, trivial⟩
  have between : source.toList = '\x7b' :: (tree.text ++ ['\x7d']) := by
    rw [spelled, Tree.text_unqualified_append]
    rfl
  exact parse_tree valid between id

theorem not_startsNumeral_of_isLower
    {character : Char} (lower : character.isLower = true) :
    startsNumeral character = false := by
  have above : 'a'.val ≤ character.val := by
    have within :
        (decide ('a'.val ≤ character.val) && decide (character.val ≤ 'z'.val)) =
            true := lower
    rw [Bool.and_eq_true] at within
    exact of_decide_eq_true within.1
  have noDigit : ¬ character.val ≤ '9'.val :=
    fun below => absurd (UInt32.le_trans above below) (by decide)
  have noMinus : character ≠ '-' := by
    rintro rfl
    exact absurd above (by decide)
  rw [startsNumeral, Char.isDigit, decide_eq_false noDigit, Bool.and_false,
    Bool.false_or]
  exact beq_eq_false_iff_ne.mpr noMinus

/-- The name of a bundle can start a path. -/
theorem exists_name_of_isBundleName
    {text : String} (valid : Assembly.isBundleName text = true) :
    ∃ name : Name, name.text = text ∧ name.Leads := by
  rw [Assembly.isBundleName] at valid
  split at valid
  · cases valid
  · rename_i first rest split
    rcases Bool.and_eq_true_iff.mp valid with ⟨lower, others⟩
    have named : ∀ character ∈ first :: rest, isNameCharacter character =
        true := by
      refine List.forall_mem_cons.mpr ⟨?_, ?_⟩
      · show (((first.isUpper || first.isLower) || first.isDigit) || _ || _) =
          true
        rw [lower, Bool.or_true, Bool.true_or, Bool.true_or, Bool.true_or]
      · intro character member
        have inside := List.all_eq_true.mp others character member
        rw [isNameCharacter, inside, Bool.true_or]
    refine ⟨⟨first :: rest, List.cons_ne_nil _ _, named⟩, ?_, stops_cons ?_⟩
    · exact (congrArg String.ofList split).symm.trans String.ofList_toList
    · exact not_startsNumeral_of_isLower lower

end Grammar

end Phrasebook
