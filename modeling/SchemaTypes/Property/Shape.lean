import SchemaTypes.Property.Basic

/-!
# Types of values in generated code

`TypeShape` is a type of the generated code as data.  `Property.storageShape?` is the type in which
the value of a property is held, if there is one more precise than a JSON value.
-/

namespace SchemaTypes

/-- Package that generated code is linked with. -/
def supportPackage : String := "schema2rs_support"

namespace Code

/-- An item of the package that generated code is linked with. -/
def support (segments : List String) : Code := externalPath (supportPackage :: segments)

/-- The type of JSON values. -/
def jsonValue : Code := support ["serde_json", "Value"]

/-- The type of validation failures. -/
def validationError : Code := support ["ValidationError"]

end Code

/-- A type of the generated code. -/
inductive TypeShape
  | bool
  | integer
  | number
  | string
  | dateTime
  /-- An untyped JSON value. -/
  | json
  | named (path : TypePath)
  | boxed (inner : TypeShape)
  | optional (inner : TypeShape)
  | list (item : TypeShape)
  | map (item : TypeShape)
  | borrowed (inner : TypeShape)
deriving DecidableEq, Repr, Inhabited

namespace TypeShape

/-- The type as it is written. -/
def code : TypeShape → Code
  | .bool => .word "bool"
  | .integer => .word "i64"
  | .number => .support ["Number"]
  | .string => .word "String"
  | .dateTime => .support ["DateTime"]
  | .json => .jsonValue
  | .named path => .ofTypePath path
  | .boxed inner => (Code.word "Box").applied [inner.code]
  | .optional inner => (Code.word "Option").applied [inner.code]
  | .list item => (Code.word "Vec").applied [item.code]
  | .map item => (Code.support ["Map"]).applied [item.code]
  | .borrowed inner => .borrow inner.code

end TypeShape

namespace ScalarKind

/-- Type of a scalar. -/
def shape : ScalarKind → TypeShape
  | .bool => .bool
  | .integer => .integer
  | .number => .number
  | .string => .string
  | .dateTime => .dateTime

/-- Name of a scalar in documentation, after its type in schemas. -/
def typeLabel : ScalarKind → String
  | .bool => "boolean"
  | .integer => "integer"
  | .number => "integer | float"
  | .string => "string"
  | .dateTime => "date-time"

end ScalarKind

/-- Type of a collection of items of a type. -/
def Container.shape : Container → TypeShape → TypeShape
  | .list, item => .list item
  | .map, item => .map item

/-- Name of a collection in documentation. -/
def Container.typeLabel : Container → String → String
  | .list, item => s!"array<{item}>"
  | .map, item => s!"map<{item}>"

namespace ReferencedType

/-- Type of the target itself. -/
def viewShape? : ReferencedType → Option TypeShape
  | .struct path _ => some (.named path)
  | .enumeration path _ => some (.named path)
  | .unknown _ => none

/-- Type in which the target is held. -/
def storageShape? : ReferencedType → Option TypeShape
  | .struct path true => some (.boxed (.named path))
  | other => other.viewShape?

/-- Name of the target in documentation. -/
def typeLabel : ReferencedType → String
  | .struct path _ => path.name
  | .enumeration path _ => path.name
  | .unknown _ => "mixed"

end ReferencedType

/-- Appends the mark of values that may be null, unless it is there. -/
def markNullable (typeLabel : String) : String :=
  if Text.endsWith typeLabel " | null" then typeLabel else typeLabel ++ " | null"

namespace Property

variable [Spelling]

/-- Type in which a value is held; none when nothing more precise than a JSON value is known. -/
def storageShape? : Property → Option TypeShape
  | .scalar kind => some kind.shape
  | .collection _ container item => some (container.shape (item.storageShape?.getD .json))
  | .nestedObject request => some (.named request.path)
  | .intersection request => some (.named request.path)
  | .reference target => target.storageShape?
  | .union path _ _ => some (.named path)
  | .enumeration target => some (.named target.path)
  | .dynamic entry _ => some (.map (.named entry))
  | .nullable inner => inner.storageShape?.map .optional
  | .mixed => none

/-- Type of the field that holds a value. -/
def fieldShape (property : Property) : TypeShape := property.storageShape?.getD .json

/-- Type that accessors hand out and mutators take: the type of the field without the `Box`. -/
def viewShape : Property → TypeShape
  | .reference target => target.viewShape?.getD .json
  | .nullable inner => .optional inner.viewShape
  | other => other.fieldShape

mutual

/-- The type as shown in the documentation of generated code. -/
def typeLabel : Property → String
  | .scalar kind => kind.typeLabel
  | .collection _ container item => container.typeLabel item.typeLabel
  | .nestedObject request => request.typeName
  | .intersection request => request.typeName
  | .reference target => target.typeLabel
  | .union _ _ alternatives => " | ".intercalate (alternativeLabels alternatives)
  | .enumeration target => target.path.name
  | .dynamic entry _ => Container.map.typeLabel entry.name
  | .nullable inner => markNullable inner.typeLabel
  | .mixed => "mixed"

/-- The types of alternatives as documentation shows them. -/
def alternativeLabels : List (Alternative Property) → List String
  | [] => []
  | ⟨_, property⟩ :: rest => property.typeLabel :: alternativeLabels rest

end

end Property

end SchemaTypes
