/-!
# Dictionaries

Values under text keys, sorted by key (by code points, which is the order of the
UTF-8 bytes too), each key once.
-/

namespace Phrasebook

/-- Values under text keys, sorted by key. -/
abbrev Dictionary (α : Type) := List (String × α)

namespace Dictionary

variable {α : Type}

/-- Sets the value of a key, replacing an earlier one. -/
def insert (key : String) (value : α) : Dictionary α → Dictionary α
  | [] => [(key, value)]
  | (other, old) :: rest =>
    if key < other then (key, value) :: (other, old) :: rest
    else if key = other then (key, value) :: rest
    else (other, old) :: insert key value rest

def get? (key : String) (dictionary : Dictionary α) : Option α :=
  dictionary.lookup key

def contains (key : String) (dictionary : Dictionary α) : Bool :=
  (dictionary.lookup key).isSome

def keys (dictionary : Dictionary α) : List String :=
  dictionary.map Prod.fst

/-- The dictionary of a list of pairs, the last pair of a key winning. -/
def ofList (pairs : List (String × α)) : Dictionary α :=
  pairs.foldl (fun dictionary (key, value) => insert key value dictionary) []

end Dictionary
end Phrasebook
