import SchemaTypes.Name.Identifier

/-!
# Paths of types

The absolute path of a generated type, or of a type that exists already and is used in its place,
such as `crate::definitions::Address`.
-/

namespace SchemaTypes

/-- A type by the modules it lies in and its name. -/
structure TypePath where
  modules : List String
  name : String
deriving DecidableEq, Repr, Inhabited

namespace TypePath

/-- The pieces of a text between double colons, blanks around them dropped. -/
def segments (text : String) : List String :=
  (Text.piecesAtPair ':' ':' text.toList).map fun piece => Text.trim (String.ofList piece)

/-- The segments of a module path that name a module. -/
def moduleSegments (text : String) : List String := (segments text).filter (!·.isEmpty)

/-- The type in a namespace below the module that generated code is mounted at. -/
def inNamespace [Spelling] (moduleRoot : List String) (segments : List String) (name : String) :
    TypePath :=
  ⟨moduleRoot ++ segments.map Name.moduleName, name⟩

/-- Reads a path; the last segment is the type name.  There is none when a segment is empty. -/
def parse? (text : String) : Option TypePath :=
  let all := segments text
  if all.any (·.isEmpty) then none
  else all.getLast?.map fun name => ⟨all.dropLast, name⟩

/-- The path with double colons between its segments. -/
def text (path : TypePath) : String :=
  String.join (path.modules.map (· ++ "::")) ++ path.name

end TypePath

end SchemaTypes
