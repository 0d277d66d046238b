import SchemaTypes.Session.Plan

/-!
# Names of root types
-/

namespace SchemaTypes

/-- The name that is given, or else what the name of the schema file has before its first point. -/
def rootTypeName (input : String) (given : Option String) : Except SessionFault String :=
  match given with
  | some name => .ok name
  | none =>
    let stem := (FilePath.fileName? input).bind fun name => (Text.split '.' name).head?
    match stem.filter (!·.isEmpty) with
    | some name => .ok name
    | none => .error (.noTypeName input)

end SchemaTypes
