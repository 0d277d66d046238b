import SchemaTypes.Property.Documentation
import SchemaTypes.Schema.Lookup

/-!
# Properties

A resolved schema node.  `Property` is a closed set of kinds; a property tree holds the types that
are generated along with it, but no source text.

## Main definitions

* `ClassRequest`: a struct to be generated and the schema it comes from.
* `Property` and its parts.
* `Property.minted`: the types a property needs besides its own.
-/

namespace SchemaTypes

/-- Values without items or members. -/
inductive ScalarKind
  | bool
  | integer
  | number
  | string
  | dateTime
deriving DecidableEq, Repr, Inhabited

/-- What the items of a collection are. -/
inductive CollectionKind
  /-- Scalars, enumerations, unions, collections or untyped values. -/
  | primitive
  /-- Structs generated for the items. -/
  | object
  /-- Targets of a reference. -/
  | reference
deriving DecidableEq, Repr, Inhabited

/-- A struct to be generated. -/
structure ClassRequest where
  schema : Json
  typeName : String
  /-- Module path that generated code is mounted at. -/
  moduleRoot : List String
  «namespace» : List String
  /-- Where the schema lies in the document. -/
  pointer : String
  /-- Number of structs this one is nested in. -/
  depth : Nat
deriving Repr, Inhabited

namespace ClassRequest

variable [Spelling]

/-- Path of the struct. -/
def path (request : ClassRequest) : TypePath :=
  .inNamespace request.moduleRoot request.namespace request.typeName

/-- Path of a type in the namespace of the struct. -/
def sibling (request : ClassRequest) (name : String) : TypePath :=
  .inNamespace request.moduleRoot request.namespace name

/-- A struct one level further down, in the same namespace. -/
def descend (request : ClassRequest) (typeName : String) (schema : Json) (pointer : String) :
    ClassRequest :=
  { request with schema, typeName, pointer, depth := request.depth + 1 }

end ClassRequest

/-- An enumeration to be generated. -/
structure EnumTarget where
  path : TypePath
  definition : EnumDefinition
  docs : Documentation
deriving Repr, Inhabited

/-- One alternative of a union. -/
structure Alternative (α : Type) where
  variant : String
  property : α
deriving Repr, Inhabited

/-- One way of typing the values of a dynamic object: those whose keys match the pattern, or all
others when there is none. -/
structure Branch (α : Type) where
  variant : String
  pattern : Option String
  property : α
deriving Repr, Inhabited

/-- A resolved schema node. -/
inductive Property
  | scalar (kind : ScalarKind)
  | collection (kind : CollectionKind) (container : Container) (item : Property)
  | nestedObject (request : ClassRequest)
  /-- A merged `allOf`. -/
  | intersection (request : ClassRequest)
  | reference (target : ReferencedType)
  /-- Alternatives, tried in order. -/
  | union (path : TypePath) (docs : Documentation) (alternatives : List (Alternative Property))
  | enumeration (target : EnumTarget)
  /-- An object keyed by patterns; `entry` is the type of its values. -/
  | dynamic (entry : TypePath) (branches : List (Branch Property))
  /-- A value that may also be `null`. -/
  | nullable (inner : Property)
  | mixed
deriving Repr, Inhabited

/-- A type that has to be generated along with a property. -/
inductive MintedType
  | struct (request : ClassRequest)
  | enumeration (target : EnumTarget)
  | union (path : TypePath) (docs : Documentation) (alternatives : List (Alternative Property))
  | dynamic (entry : TypePath) (branches : List (Branch Property))
deriving Repr, Inhabited

namespace MintedType

/-- Path of the type. -/
def path [Spelling] : MintedType → TypePath
  | .struct request => request.path
  | .enumeration target => target.path
  | .union path _ _ => path
  | .dynamic entry _ => entry

end MintedType

namespace Property

/-- Scalars, untyped values and collections of them: what can be checked against its schema
without any generated type. -/
def isScalarLike : Property → Bool
  | .scalar _ => true
  | .mixed => true
  | .collection .primitive _ item => item.isScalarLike
  | .nullable inner => inner.isScalarLike
  | _ => false

/-- The kind of a scalar. -/
def scalarKind? : Property → Option ScalarKind
  | .scalar kind => some kind
  | _ => none

/-- Whether the property is marked as nullable. -/
def isNullable : Property → Bool
  | .nullable _ => true
  | _ => false

/-- The values have no type more precise than JSON. -/
def isUntyped : Property → Bool
  | .mixed => true
  | .reference (.unknown _) => true
  | .nullable inner => inner.isUntyped
  | _ => false

/-- The same property with `null`.  Untyped values include it already. -/
def orNull (property : Property) : Property :=
  if property.isNullable || property.isUntyped then property else .nullable property

/-- A reference that is held behind a `Box`. -/
def isBoxed : Property → Bool
  | .reference target => target.isBoxed
  | _ => false

/-- The types a property needs besides its own. -/
def minted : Property → List MintedType
  | .collection _ _ item => item.minted
  | .nullable inner => inner.minted
  | .nestedObject request => [.struct request]
  | .intersection request => [.struct request]
  | .union path docs alternatives => [.union path docs alternatives]
  | .enumeration target => [.enumeration target]
  | .dynamic entry branches => [.dynamic entry branches]
  | .scalar _ => []
  | .reference _ => []
  | .mixed => []

end Property

namespace Branch

/-- Branches with a pattern. -/
def patterned {α : Type} (branches : List (Branch α)) : List (Branch α) :=
  branches.filter (·.pattern.isSome)

/-- The branch for keys that match no pattern. -/
def catchAll? {α : Type} (branches : List (Branch α)) : Option (Branch α) :=
  branches.find? (·.pattern.isNone)

end Branch

end SchemaTypes
