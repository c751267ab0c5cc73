import Phrasebook.Document.Basic

/-!
# The nesting of documents

Sequences and mappings stand inside one another. `Document.nestsWithin` bounds
the number of levels and looks no deeper than the bound; `Document.nesting` is
the number of levels itself. The main statement, `nestsWithin_iff`, says that
the bound is a bound on that number.
-/

namespace Phrasebook.Document

mutual

/-- Whether a document consists of at most a number of levels of sequences and
mappings. -/
def nestsWithin (levels : Nat) : Document → Bool
  | .sequence items =>
    match levels with
    | 0 => false
    | levels + 1 => itemsNestWithin levels items
  | .mapping entries =>
    match levels with
    | 0 => false
    | levels + 1 => entriesNestWithin levels entries
  | .tagged _ content => nestsWithin levels content
  | _ => true

/-- Whether every document of a list nests within a number of levels. -/
def itemsNestWithin (levels : Nat) : List Document → Bool
  | [] => true
  | item :: rest => nestsWithin levels item && itemsNestWithin levels rest

/-- Whether the value of every entry of a list nests within a number of
levels. -/
def entriesNestWithin (levels : Nat) : List (Document × Document) → Bool
  | [] => true
  | entry :: rest => nestsWithin levels entry.2 && entriesNestWithin levels rest

end

mutual

/-- The number of levels of sequences and mappings in a document. -/
def nesting : Document → Nat
  | .sequence items => itemsNesting items + 1
  | .mapping entries => entriesNesting entries + 1
  | .tagged _ content => nesting content
  | _ => 0

/-- The largest number of levels in a list of documents. -/
def itemsNesting : List Document → Nat
  | [] => 0
  | item :: rest => max (nesting item) (itemsNesting rest)

/-- The largest number of levels in the values of a list of entries. -/
def entriesNesting : List (Document × Document) → Nat
  | [] => 0
  | entry :: rest => max (nesting entry.2) (entriesNesting rest)

end

mutual

/-- A document nests within its own number of levels and no fewer. -/
theorem nestsWithin_iff (levels : Nat) :
    (document : Document) →
      (nestsWithin levels document ↔ document.nesting ≤ levels)
  | .sequence items => by
    cases levels with
    | zero => simp [nestsWithin, nesting]
    | succ levels =>
        simp [nestsWithin, nesting, itemsNestWithin_iff levels items]
  | .mapping entries => by
    cases levels with
    | zero => simp [nestsWithin, nesting]
    | succ levels =>
        simp [nestsWithin, nesting, entriesNestWithin_iff levels entries]
  | .tagged _ content => by
    simp [nestsWithin, nesting, nestsWithin_iff levels content]
  | .null => by simp [nestsWithin, nesting]
  | .bool _ => by simp [nestsWithin, nesting]
  | .number _ => by simp [nestsWithin, nesting]
  | .string _ => by simp [nestsWithin, nesting]
  | .plain _ => by simp [nestsWithin, nesting]
  | .unreadable => by simp [nestsWithin, nesting]

theorem itemsNestWithin_iff (levels : Nat) :
    (items : List Document) →
      (itemsNestWithin levels items ↔ itemsNesting items ≤ levels)
  | [] => by simp [itemsNestWithin, itemsNesting]
  | item :: rest => by
    simp only [itemsNestWithin, itemsNesting, Bool.and_eq_true,
      nestsWithin_iff levels item, itemsNestWithin_iff levels rest, Nat.max_le]

/-- The check of the entries decides how deep they nest. -/
theorem entriesNestWithin_iff (levels : Nat) :
    (entries : List (Document × Document)) →
      (entriesNestWithin levels entries ↔ entriesNesting entries ≤ levels)
  | [] => by simp [entriesNestWithin, entriesNesting]
  | (_, value) :: rest => by
    simp only [entriesNestWithin, entriesNesting, Bool.and_eq_true,
      nestsWithin_iff levels value,
      entriesNestWithin_iff levels rest, Nat.max_le]

end

end Phrasebook.Document
