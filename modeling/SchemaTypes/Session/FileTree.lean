import SchemaTypes.Text.FilePath

/-!
# Trees of files

The files and directories that a run of the program sees, below the directory it runs in.

## Main definitions

* `FileTree.read`, `FileTree.write`, `FileTree.makeDirectories`: what a run does with files.
* `FileFault`: why it fails.
-/

namespace SchemaTypes

/-- Why a file or directory cannot be used. -/
inductive FileFault
  | missing
  | alreadyExists
  | notMappable
  | notADirectory
  | isADirectory
  | other (reason : String)
deriving DecidableEq, Repr, Inhabited

/-- The fault as the operating system words it. -/
def FileFault.message : FileFault → String
  | .missing => "No such file or directory (os error 2)"
  | .alreadyExists => "File exists (os error 17)"
  | .notMappable => "No such device (os error 19)"
  | .notADirectory => "Not a directory (os error 20)"
  | .isADirectory => "Is a directory (os error 21)"
  | .other reason => reason

/-- What stands at a path. -/
inductive FileEntry
  | file (contents : String)
  | directory
deriving DecidableEq, Repr, Inhabited

/-- A place in a tree is given by the names on the way to it. -/
structure FileTree where
  entries : List (List String × FileEntry) := []
deriving Repr, Inhabited

namespace FileTree

/-- A tree with nothing in it. -/
def empty : FileTree := {}

/-- What lies at a place. -/
def entry? (tree : FileTree) (place : List String) : Option FileEntry :=
  if place.isEmpty then some .directory else tree.entries.lookup place

/-- Puts an entry at a place, over the one that lies there. -/
def put (tree : FileTree) (place : List String) (entry : FileEntry) : FileTree :=
  ⟨tree.entries.filter (·.1 != place) ++ [(place, entry)]⟩

/-- Follows the steps of a path from a place.  All of them have to lead to directories. -/
def enter (tree : FileTree) (place : List String) :
    (steps : List String) → Except FileFault (List String)
  | [] => .ok place
  | step :: rest =>
    if step == "." then enter tree place rest
    else if step == ".." then enter tree place.dropLast rest
    else
      match tree.entry? (place ++ [step]) with
      | some .directory => enter tree (place ++ [step]) rest
      | some (.file _) => .error .notADirectory
      | none => .error .missing

/-- Whether a path leads to a directory. -/
def isDirectory (tree : FileTree) (steps : List String) : Bool :=
  (tree.enter [] steps).toBool

/-- The place that a path names, and what lies there. -/
def locate (tree : FileTree) (steps : List String) :
    Except FileFault (List String × Option FileEntry) := do
  match steps.getLast? with
  | none => return ([], some .directory)
  | some last =>
    if last == "." || last == ".." then return (← tree.enter [] steps, some .directory)
    else
      let place := (← tree.enter [] steps.dropLast) ++ [last]
      return (place, tree.entry? place)

/-- Makes a directory in one that is there. -/
def makeDirectory (tree : FileTree) (steps : List String) : Except FileFault FileTree := do
  match ← tree.locate steps with
  | (_, some _) => throw .alreadyExists
  | (place, none) => return tree.put place .directory

/-- Makes a directory, and those above it as far as they are missing.  The steps come last first. -/
def makeDirectories (tree : FileTree) : (steps : List String) → Except FileFault FileTree
  | [] => .ok tree
  | step :: above =>
    let steps := (step :: above).reverse
    let make := fun (tree : FileTree) =>
      match tree.makeDirectory steps with
      | .ok tree => .ok tree
      | .error fault => if tree.isDirectory steps then .ok tree else .error fault
    match tree.makeDirectory steps with
    | .error .missing => do make (← makeDirectories tree above)
    | _ => make tree

/-- Writes a file, and makes the directories it lies in. -/
def write (tree : FileTree) (path contents : String) : Except FileFault FileTree := do
  let steps := FilePath.names path
  let tree ← tree.makeDirectories steps.dropLast.reverse
  match ← tree.locate steps with
  | (_, some .directory) => throw .isADirectory
  | (place, _) => return tree.put place (.file contents)

/-- The bytes of a file. -/
def read (tree : FileTree) (path : String) : Except FileFault (List UInt8) := do
  match ← tree.locate (FilePath.names path) with
  | (_, some (.file contents)) => return contents.toUTF8.toList
  | (_, some .directory) => throw .notMappable
  | (_, none) => throw .missing

/-- The tree of some files, given by paths and contents. -/
def ofFiles (files : List (String × String)) : FileTree :=
  files.foldl
    (fun tree file => (tree.write file.1 file.2).toOption.getD tree) empty

/-- All files by their paths, in order. -/
def files (tree : FileTree) : List (String × String) :=
  let found := tree.entries.filterMap fun (place, entry) =>
    match entry with
    | .file contents => some ("/".intercalate place, contents)
    | .directory => none
  found.mergeSort fun a b => decide (¬ b.1 < a.1)

end FileTree

end SchemaTypes
