import SchemaTypes.Json.Pointer
import SchemaTypes.Code.TypePath
import SchemaTypes.Schema.Enumeration
import SchemaTypes.Schema.Kind

/-!
# What a reference stands for

A `$ref` names a type: the struct of the root, the struct or enumeration generated for a
definition, or a type that exists already and is mapped to the pointer.  Anything else is unknown
and its value is passed through untyped.

## Main definitions

* `ReferencedType`: the target of a reference.
* `Lookup.find`: the target of a reference; total, since unknown targets have a case of their own.
* `Lookup.schema?`: the schema a local reference names, for merging.
-/

namespace SchemaTypes

/-- The target of a reference. -/
inductive ReferencedType
  /-- A struct.  A boxed one takes part in a reference cycle and is held behind a `Box`. -/
  | struct (path : TypePath) (boxed : Bool)
  | enumeration (path : TypePath) (definition : EnumDefinition)
  | unknown (pointer : String)
deriving Repr, Inhabited

namespace ReferencedType

/-- The same target held by value, as inside a collection. -/
def unboxed : ReferencedType → ReferencedType
  | .struct path _ => .struct path false
  | other => other

/-- Whether values of the target are held in a `Box`. -/
def isBoxed : ReferencedType → Bool
  | .struct _ boxed => boxed
  | _ => false

/-- The path of the target, if it is generated or given. -/
def path? : ReferencedType → Option TypePath
  | .struct path _ => some path
  | .enumeration path _ => some path
  | .unknown _ => none

/-- The target that a definition becomes. -/
def ofDefinition [Spelling] (pointer : String) (path : TypePath) (schema : Json)
    (enumsSupported boxed : Bool) : ReferencedType :=
  if schema.enumValues?.isSome then
    match EnumDefinition.ofSchema schema enumsSupported with
    | .ok definition => .enumeration path definition
    | .error _ => .unknown pointer
  else if schema.isClassShaped || schema.allOf?.isSome then .struct path boxed
  else .unknown pointer

end ReferencedType

/-- The types that the references of one document stand for. -/
structure Lookup where
  root : Json
  rootPath : TypePath
  /-- Targets of definitions, by pointer. -/
  definitions : List (String × ReferencedType)
  /-- Existing types, by the reference they replace. -/
  external : List (String × TypePath)
  /-- Pointers that take part in a reference cycle. -/
  cyclic : List String
deriving Repr, Inhabited

namespace Lookup

/-- The target of a reference.  Mappings to existing types come first. -/
def find (lookup : Lookup) (reference : String) : ReferencedType :=
  match lookup.external.lookup reference with
  | some path => .struct path false
  | none =>
    if reference == Pointer.root then .struct lookup.rootPath (lookup.cyclic.contains reference)
    else (lookup.definitions.lookup reference).getD (.unknown reference)

/-- The schema that a local reference names. -/
def schema? (lookup : Lookup) (reference : String) : Option Json :=
  if (lookup.external.lookup reference).isSome then none
  else (Text.dropStart? reference Pointer.root).bind lookup.root.atPointer?

/-- The node accepts `null`, itself or through the target of its reference. -/
def acceptsNull (lookup : Lookup) (node : Json) : Bool :=
  node.isNullable ||
    match node.reference? with
    | some reference => ((lookup.schema? reference).map (·.isNullable)).getD false
    | none => false

end Lookup

end SchemaTypes
