import SchemaTypes.Json.Pointer
import SchemaTypes.Json.Writer
import SchemaTypes.Schema.Definition

/-!
# Embedded schemas

A generated struct carries the text of its schema for validation.  The definitions of the document
are attached to it, so that local references keep resolving, and a reference that would not
resolve there is replaced by the schema that accepts everything.
-/

namespace SchemaTypes.Embedding

/-- Whether a reference resolves in a schema that carries the definitions of `root`.  The
reference `#` does so only in the schema of the root itself. -/
def isResolvable (root : Json) (isRoot : Bool) (reference : String) : Bool :=
  if reference == Pointer.root then isRoot
  else
    match Text.dropStart? reference Pointer.localStart with
    | none => false
    | some path =>
      Definition.keywords.any (fun keyword => (Text.split '/' path).head? == some keyword) &&
        (root.atPointer? ("/" ++ path)).isSome

mutual

/-- Replaces the nodes with a reference that does not satisfy `resolvable`. -/
def detach (resolvable : String → Bool) : Json → Json
  | .object members =>
    if ((Json.object members).reference?.map resolvable).getD true then
      .object (detachMembers resolvable members)
    else .object []
  | .array items => .array (detachItems resolvable items)
  | other => other

/-- Detaches the values of members. -/
def detachMembers (resolvable : String → Bool) : List (String × Json) → List (String × Json)
  | [] => []
  | (key, child) :: rest => (key, detach resolvable child) :: detachMembers resolvable rest

/-- Detaches items. -/
def detachItems (resolvable : String → Bool) : List Json → List Json
  | [] => []
  | item :: rest => detach resolvable item :: detachItems resolvable rest

end

/-- Sets the definitions of `root` on an object. -/
def attachDefinitions (resolvable : String → Bool) (root : Json) (members : Members) : Members :=
  Definition.keywords.foldl
    (fun members keyword =>
      match root.get? keyword with
      | some definitions => members.insert keyword (detach resolvable definitions)
      | none => members) members

/-- The schema of a type with the definitions it refers to. -/
def embed (schema root : Json) (isRoot : Bool) : Json :=
  let resolvable := isResolvable root isRoot
  match detach resolvable schema with
  | .object members => .object (attachDefinitions resolvable root members)
  | other => other

/-- The text of the embedded schema. -/
def text (schema root : Json) (isRoot : Bool) : String := (embed schema root isRoot).text

end SchemaTypes.Embedding
