import SchemaTypes.Code.Basic
import SchemaTypes.Text.Split

/-!
# Documentation of generated types

Title and description of a schema as lines of documentation.
-/

namespace SchemaTypes

/-- Lines of documentation. -/
structure Documentation where
  lines : List String
deriving DecidableEq, Repr, Inhabited

namespace Documentation

/-- No documentation. -/
def none : Documentation := ⟨[]⟩

/-- The lines of a text without blanks at their ends.  A backslash before an `n` breaks the line
as well. -/
def ofText (text : String) : Documentation :=
  let broken := String.ofList (Text.replacePair '\\' 'n' ['\n'] text.toList)
  ⟨(Text.lines broken).map Text.trimEnd⟩

/-- Whether there are no lines. -/
def isEmpty (docs : Documentation) : Bool := docs.lines.isEmpty

/-- Title and description, separated by an empty line. -/
def ofTitleAndDescription (title description : Option String) : Documentation :=
  let titleLines := ((title.map ofText).getD none).lines
  match description with
  | Option.none => ⟨titleLines⟩
  | some text =>
    let separator := if titleLines.isEmpty then [] else [""]
    ⟨titleLines ++ separator ++ (ofText text).lines⟩

/-- The attributes that document what follows. -/
def code (docs : Documentation) : Code :=
  .concat (docs.lines.map fun line => Code.docLine (if line.isEmpty then "" else " " ++ line))

end Documentation

end SchemaTypes
