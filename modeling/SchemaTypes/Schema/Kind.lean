import SchemaTypes.Schema.Keyword

/-!
# Kinds of property schemas

Every schema node is of exactly one kind, decided by the first test it passes in the order in
which the kinds are listed.  A node that passes none is mixed.
-/

namespace SchemaTypes

/-- What a property with this schema becomes. -/
inductive SchemaKind
  | reference
  | intersection
  | union
  | enumeration
  | dateTime
  | string
  | objectArray
  | primitiveArray
  | primitive
  | nestedObject
  | dynamic
  | mixed
deriving DecidableEq, Repr, Inhabited

namespace Json

/-- The item schema of an array or map satisfies `p`. -/
def hasItems (node : Json) (p : Json → Bool) : Bool :=
  match node.collection? with
  | some (_, items) => p items
  | none => false

/-- A reference, or a list of them. -/
def isReferenceKind (node : Json) : Bool :=
  node.reference?.isSome || node.hasItems (·.reference?.isSome)

/-- A list of objects. -/
def isObjectArrayKind (node : Json) : Bool :=
  node.hasItems fun items => items.isClassShaped || items.allOf?.isSome

/-- A truth value or a number. -/
def isPrimitiveKind (node : Json) : Bool :=
  node.isType "boolean" || node.isType "integer" || node.isType "number"

/-- An object with properties of its own.  One with patterns only is a map. -/
def isNestedObjectKind (node : Json) : Bool :=
  node.properties?.isSome || (node.isType "object" && node.patternProperties?.isNone)

/-- The kind of a node. -/
def kind (node : Json) : SchemaKind :=
  if node.isReferenceKind then .reference
  else if node.allOf?.isSome then .intersection
  else if node.alternatives?.isSome then .union
  else if node.enumValues?.isSome then .enumeration
  else if node.isDateTime then .dateTime
  else if node.isType "string" then .string
  else if node.isObjectArrayKind then .objectArray
  else if node.collection?.isSome then .primitiveArray
  else if node.isPrimitiveKind then .primitive
  else if node.isNestedObjectKind then .nestedObject
  else if node.patternProperties?.isSome then .dynamic
  else .mixed

end Json

end SchemaTypes
