import SchemaTypes.Json.Pointer
import SchemaTypes.Name.Identifier

/-!
# Names of definitions

A definition is named after its pointer: the last token gives the type name, the tokens before it
the namespace.
-/

namespace SchemaTypes.Name

/-- Name of the namespace that a token of a pointer gives. -/
def namespaceSegment [Spelling] (token : String) : String :=
  if token == "$defs" then "Defs" else typeName token

/-- Namespace and type name of the definition at a pointer.  There are none for a pointer that is
not local or names nothing. -/
def definitionPath? [Spelling] (pointer : String) : Option (List String × String) :=
  match Text.dropStart? pointer Pointer.localStart with
  | none => none
  | some path =>
    if path.isEmpty then none
    else
      let segments := (Text.split '/' path).map fun token =>
        namespaceSegment (Pointer.unescapeToken token)
      segments.getLast?.map fun name => (segments.dropLast, name)

end SchemaTypes.Name
