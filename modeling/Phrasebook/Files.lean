import Phrasebook.Text.Cutting

/-!
# Files and their paths

Files are read by their paths.
-/

/-! ## Files

To the library a file is what reading its path gives.
-/

namespace Phrasebook

/-- What reading a file gives: the path may not exist, and what exists may not
be readable as text.
-/
inductive FileContent where
  | absent
  | unreadable
  | text (content : String)
  deriving DecidableEq, Repr, Inhabited

/-- The files that can be read, by path. -/
abbrev Files := String → FileContent

end Phrasebook

/-! ## Paths

Paths of files have `/` between their segments.
-/

namespace Phrasebook.Path

/-- Whether a path starts at the root. -/
def isAbsolute (path : String) : Bool :=
  path.toList.head? == some '/'

/-- A path inside a directory. An absolute path replaces the directory, and a
directory that ends in a slash takes no second one. -/
def join (directory path : String) : String :=
  if isAbsolute path || directory.isEmpty then path
  else if directory.toList.getLast? == some '/' then directory ++ path
  else directory ++ "/" ++ path

/-- The last segment of a path, if it is a name. Empty segments and dots count
for nothing. -/
def fileName? (path : String) : Option String :=
  let segments := (path.toList.splitOn '/').filter fun segment => segment ≠ [] ∧
    segment ≠ ['.']
  match segments.getLast? with
  | some ['.', '.'] => none
  | some segment => some (String.ofList segment)
  | none => none

/-- The parts of a file name before and after its last dot. A name without a
dot, and one whose only dot comes first, has no second part. -/
def splitName (name : String) : String × Option String :=
  let reversed := name.toList.reverse
  let extension := (reversed.takeWhile (· ≠ '.')).reverse
  let stem := ((reversed.dropWhile (· ≠ '.')).drop 1).reverse
  if stem = [] then (name, none)
    else (String.ofList stem, some (String.ofList extension))

/-- The file name of a path without its extension. -/
def stem? (path : String) : Option String :=
  (fileName? path).map fun name => (splitName name).1

/-- The extension of a path in lower case. -/
def extension? (path : String) : Option String :=
  (fileName? path).bind fun name => (splitName name).2.map String.toLower

/-- The path that a person wrote, without the blanks around it; a leading `~`
that stands alone or before a slash or backslash is the home directory. -/
def expandHome (home path : String) : String :=
  let trimmed := Text.trim path
  match trimmed.toList with
  | ['~'] => home
  | '~' :: next :: rest =>
    if next = '/' ∨ next = '\\' then
      if rest = [] then home else join home (String.ofList rest)
    else trimmed
  | _ => trimmed

end Phrasebook.Path
