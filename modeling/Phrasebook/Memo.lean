import Phrasebook.Result

/-!
# Memos of computed bindings

Every registration of a computed binding is a cell of its own, with a memo of
its own: a lookup keeps to the cell that it found, whatever is registered under
the same key later.

Lookups that need the value while it is not there stand in line; the first in
line is the one that may run the supplier. A success is kept and empties the
line; a failed or abandoned run takes its lookup out of the line, and the next
one may run.
-/

namespace Phrasebook

/-- A registration of a computed binding: its key, the name of its supplier, and
its number among the registrations in the same data, which tells it from the
other ones under its key. -/
structure Cell where
  key : String
  supplier : String
  number : Nat
  deriving DecidableEq, Repr

/-- The memo of a computed binding: its value, the tickets of the lookups in
line, the next ticket to give out and the number of times that the supplier was
called. -/
structure Memo where
  value : Option Settled
  line : List Nat
  nextTicket : Nat
  calls : Nat
  deriving Repr

namespace Memo

/-- The memo of a binding that was never looked up. -/
def fresh : Memo := ⟨none, [], 0, 0⟩

/-- Puts a new lookup at the end of the line; also its ticket. -/
def join (memo : Memo) : Nat × Memo :=
  (memo.nextTicket,
    { memo with line := memo.line ++ [memo.nextTicket], nextTicket :=
        memo.nextTicket + 1 })

/-- Whether a lookup may run the supplier. -/
def mayRun (ticket : Nat) (memo : Memo) : Bool :=
  memo.line.head? == some ticket

/-- Takes a lookup out of the line. -/
def leave (ticket : Nat) (memo : Memo) : Memo :=
  { memo with line := memo.line.erase ticket }

/-- Counts a call of the supplier. -/
def called (memo : Memo) : Memo :=
  { memo with calls := memo.calls + 1 }

/-- Keeps a value and dismisses the line. -/
def keep (value : Settled) (memo : Memo) : Memo :=
  { memo with value := some value, line := [] }

end Memo
end Phrasebook
