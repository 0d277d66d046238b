import SchemaTypes.CommandLine.Invocation
import SchemaTypes.Generation.Run
import SchemaTypes.Session.Spelling
import SchemaTypes.Session.TypeName
import SchemaTypes.Terminal.Table

/-!
# Listing types

The plan of a run that lists the types a schema gives, with the file of each.
-/

namespace SchemaTypes

/-- A row for each type. -/
def typeTable (types : List TypeSummary) : Table where
  columns := [⟨"TYPE", .left⟩, ⟨"KIND", .right⟩, ⟨"FILE", .left⟩]
  rows := types.map fun type => [type.path.text, type.category.label, type.file]

namespace ListArguments

/-- The table of types is as wide as this at most. -/
def pageWidth : Nat := 80

/-- A table of the types that a run with default settings would generate. -/
def plan (arguments : ListArguments) (document : Except DocumentFault Json) : Plan :=
  match document with
  | .error fault => .failed (.document arguments.input fault)
  | .ok document =>
    match rootTypeName arguments.input arguments.className with
    | .error fault => .failed fault
    | .ok rootName =>
      match ({ document, rootName := Name.typeName rootName } : Generation).run with
      | .error error => .failed (.listing error)
      | .ok output => { actions := ((typeTable output.types).lines pageWidth).map .print }

end ListArguments

end SchemaTypes
