/-!
# Remainders

Reading the start of a text gives a value and the unread rest. The bound on the
length of the rest is part of the result, so that a reader which goes on with
the rest terminates.
-/

namespace Phrasebook.Text

/-- A value read from the start of a text and the unread rest, which is shorter
than `bound`. -/
structure Remainder (α : Type) (bound : Nat) where
  value : α
  rest : List Char
  shorter : rest.length < bound

/-- The same remainder under a larger bound, with its value mapped. -/
def Remainder.map
    {α β : Type} {bound larger : Nat} (remainder : Remainder α bound)
    (f : α → β)
    (bounded : bound ≤ larger) : Remainder β larger :=
  ⟨f remainder.value, remainder.rest,
    Nat.lt_of_lt_of_le remainder.shorter bounded⟩

theorem length_dropWhile_le (test : Char → Bool) (characters : List Char) :
    (characters.dropWhile test).length ≤ characters.length :=
  (List.dropWhile_sublist test).length_le

end Phrasebook.Text
