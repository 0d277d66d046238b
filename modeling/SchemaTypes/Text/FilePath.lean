import SchemaTypes.Text.Split

/-!
# Paths of files

Names in a path that is written with slashes.

## Main definitions

* `FilePath.fileName?`: the last name, unless the path ends in a step upward.
* `FilePath.extension?`: what follows the last point of the last name; a name that only starts with
  a point has none.
* `FilePath.join` and `FilePath.parent?`.
-/

namespace SchemaTypes.FilePath

/-- The names of a path.  Empty ones and steps to the same place do not count, except for such a
step at the beginning. -/
def names (path : String) : List String :=
  let pieces := Text.split '/' path
  (pieces.zipIdx.filter fun entry =>
    !entry.1.isEmpty && (entry.1 != "." || entry.2 == 0)).map (·.1)

/-- The last name of a path. -/
def fileName? (path : String) : Option String :=
  (names path).getLast?.filter fun name => name != ".." && name != "."

/-- What follows the last point of the last name. -/
def extension? (path : String) : Option String := do
  let name ← fileName? path
  let reversed := name.toList.reverse
  let last := reversed.takeWhile (· != '.')
  let before := (reversed.drop last.length).drop 1
  if last.length == reversed.length || before.isEmpty then none
  else some (String.ofList last.reverse)

/-- Whether a path starts at the root of all files. -/
def isAbsolute (path : String) : Bool := path.toList.head? == some '/'

/-- The path to a file as seen from a directory. -/
def join (directory path : String) : String :=
  if isAbsolute path || directory.isEmpty then path
  else if directory.toList.getLast? == some '/' then directory ++ path
  else directory ++ "/" ++ path

/-- The directory that holds what a path names. -/
def parent? (path : String) : Option String :=
  match names path with
  | [] => none
  | found => some ((if isAbsolute path then "/" else "") ++ "/".intercalate found.dropLast)

end SchemaTypes.FilePath
