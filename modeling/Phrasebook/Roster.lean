/-!
# Rosters

Values under text keys in the order in which the keys first came, each key once.
-/

namespace Phrasebook

/-- Values under text keys in the order of their first mention. -/
abbrev Roster (α : Type) := List (String × α)

namespace Roster

variable {α : Type}

/-- Sets the value of a key: in its old place, or at the end for a new key. -/
def put (key : String) (value : α) : Roster α → Roster α
  | [] => [(key, value)]
  | (other, old) :: rest =>
    if key = other then (key, value) :: rest
      else (other, old) :: put key value rest

def get? (key : String) (roster : Roster α) : Option α :=
  roster.lookup key

/-- The roster of a list of pairs, the last value of a key in the place of the
first. -/
def ofList (pairs : List (String × α)) : Roster α :=
  pairs.foldl (fun roster (key, value) => put key value roster) []

end Roster
end Phrasebook
