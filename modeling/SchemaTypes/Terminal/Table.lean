/-!
# Tables

A table has a title line and rows, with a line above, below, and under the titles.  The columns
share the width of the page.

## Main definitions

* `Table.columnWidths`: a column that needs no more than an equal share of the page gets what it
  needs, and what is left is shared equally by the others.
* `Table.lines`: the lines of a table.
-/

namespace SchemaTypes

/-- The side that a text stands at. -/
inductive Alignment
  | left
  | right
deriving DecidableEq, Repr, Inhabited

/-- A column with its heading. -/
structure TableColumn where
  title : String
  alignment : Alignment := .left
deriving DecidableEq, Repr, Inhabited

/-- A table of texts. -/
structure Table where
  columns : List TableColumn
  /-- The texts of each row, one for each column. -/
  rows : List (List String)
deriving DecidableEq, Repr, Inhabited

namespace Table

/-- A character several times. -/
def repeated (c : Char) (count : Nat) : String := String.ofList (List.replicate count c)

/-! ## Widths -/

/-- Width of the longest text of each column. -/
def neededWidths (table : Table) : List Nat :=
  table.columns.zipIdx.map fun entry =>
    let texts := entry.1.title :: table.rows.map fun row => row.getD entry.2 ""
    (texts.map String.length).foldl max 0

/-- The equal share of those that need more than it, once the others have what they need, and the
number of characters that are left over.  There is none when everyone has what they need.  Each
round lets go of at least one column. -/
def equalShare? : (rounds : Nat) → (available : Nat) → (needs : List Nat) → Option (Nat × Nat)
  | 0, _, _ => none
  | rounds + 1, available, needs =>
    let average := available / needs.length
    let small := needs.filter (· ≤ average)
    if needs.isEmpty then none
    else if small.isEmpty then some (average, available % needs.length)
    else equalShare? rounds (available - small.sum) (needs.filter (average < ·))

/-- Gives everyone who needs more than the share the share, and one more to the first of them as
long as something is left over. -/
def shareOut (share : Nat) : (left : Nat) → (needs : List Nat) → List Nat
  | _, [] => []
  | left, need :: rest =>
    if need ≤ share then need :: shareOut share left rest
    else
      match left with
      | 0 => share :: shareOut share 0 rest
      | left + 1 => (share + 1) :: shareOut share left rest

/-- Widths of columns that share some characters. -/
def columnWidths (available : Nat) (needs : List Nat) : List Nat :=
  match equalShare? needs.length available needs with
  | none => needs
  | some (share, left) => shareOut share left needs

/-! ## Lines -/

/-- The pieces of a text of which each but the last has the given width. -/
def chunks (width : Nat) : (count : Nat) → List Char → List (List Char)
  | 0, chars => [chars]
  | count + 1, chars =>
    if chars.length ≤ width || width == 0 then [chars]
    else chars.take width :: chunks width count (chars.drop width)

/-- The lines of a cell. -/
def cellLines (width : Nat) (text : String) : List String :=
  (chunks width text.length text.toList).map String.ofList

/-- A text filled up with blanks to a width. -/
def aligned (alignment : Alignment) (width : Nat) (text : String) : String :=
  let gap := repeated ' ' (width - text.length)
  match alignment with
  | .left => text ++ gap
  | .right => gap ++ text

/-- The lines of one row.  A text that is too wide goes on in further lines. -/
def rowLines (alignments : List Alignment) (widths : List Nat) (row : List String) :
    List String :=
  let cells := (widths.zip row).map fun entry => cellLines entry.1 entry.2
  let height := (cells.map List.length).foldl max 0
  (List.range height).map fun index =>
    let texts := (alignments.zip (widths.zip cells)).map fun entry =>
      " " ++ aligned entry.1 entry.2.1 (entry.2.2.getD index "") ++ " "
    " ".intercalate texts

/-- A horizontal line, interrupted between columns by `joint`. -/
def rule (joint : String) (widths : List Nat) : String :=
  joint.intercalate (widths.map fun width => repeated '─' (width + 2))

/-- The lines of a table on a page of some width.  Every column has a blank on both sides, and
there is one character between columns. -/
def lines (table : Table) (pageWidth : Nat) : List String :=
  let count := table.columns.length
  let available := pageWidth - (count - 1) - 2 * count
  let widths := columnWidths available table.neededWidths
  let titles :=
    rowLines (table.columns.map fun _ => .left) widths (table.columns.map (·.title))
  let rows := table.rows.flatMap (rowLines (table.columns.map (·.alignment)) widths)
  rule " " widths :: titles ++ rule "─" widths :: rows ++ [rule " " widths]

end Table

end SchemaTypes
