import SchemaTypes.Name.DefinitionPath
import SchemaTypes.Schema.Keyword

/-!
# Definitions of a document

The schemas declared under `definitions` and `$defs`, at any depth of such keywords, each with the
pointer it is declared at and the name derived from that pointer.  They are listed in pre-order:
a definition comes before those declared inside it, and `definitions` before `$defs`.
-/

namespace SchemaTypes

/-- A declared schema and its name. -/
structure Definition where
  pointer : String
  typeName : String
  «namespace» : List String
  schema : Json
deriving Repr, Inhabited

namespace Definition

variable [Spelling]

/-- Keywords under which definitions are declared, in the order in which they are searched. -/
def keywords : List String := ["definitions", "$defs"]

/-- The definition at a pointer; none when the pointer names nothing. -/
def at? (pointer : String) (schema : Json) : Option Definition :=
  (Name.definitionPath? pointer).map fun path => ⟨pointer, path.2, path.1, schema⟩

mutual

/-- Definitions declared at or below the node at a pointer. -/
def collectAt (pointer : String) : Json → List Definition
  | .object members =>
    collectUnder pointer "definitions" members ++ collectUnder pointer "$defs" members
  | _ => []

/-- Definitions declared under one keyword of a node. -/
def collectUnder (pointer keyword : String) : List (String × Json) → List Definition
  | [] => []
  | (key, .object entries) :: rest =>
    if key == keyword then collectEntries (pointer ++ "/" ++ keyword) entries
    else collectUnder pointer keyword rest
  | _ :: rest => collectUnder pointer keyword rest

/-- Each entry, followed by what is declared inside it. -/
def collectEntries (pointer : String) : List (String × Json) → List Definition
  | [] => []
  | (key, schema) :: rest =>
    let entry := Pointer.child pointer key
    (at? entry schema).toList ++ collectAt entry schema ++ collectEntries pointer rest

end

/-- All definitions of a document. -/
def collect (document : Json) : List Definition := collectAt Pointer.root document

end Definition

end SchemaTypes
