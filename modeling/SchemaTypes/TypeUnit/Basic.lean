import SchemaTypes.Property.Presence

/-!
# Units of generated code

A unit is everything that is known about one generated type, or one generated file, before it is
written out.  The parts of a type are fixed once it is assembled; extensions can only be added.

Expressions inside a unit follow fixed conventions.  Decoding expressions of a field read the map
`object`, those of a variant read the JSON value `input`, and both may leave the function with a
failure while `validate` is in scope.  Encoding statements of a field insert into `output`.
-/

namespace SchemaTypes

/-- What has been added to a type: derived traits, attributes, methods of the inherent
implementation, and items after the type. -/
structure Extensions where
  derives : List Code := []
  attributes : List Code := []
  methods : List Code := []
  items : List Code := []
deriving Repr, Inhabited

namespace Extensions

/-- No additions. -/
def none : Extensions := {}

instance : Append Extensions where
  append a b := {
    derives := a.derives ++ b.derives
    attributes := a.attributes ++ b.attributes
    methods := a.methods ++ b.methods
    items := a.items ++ b.items }

end Extensions

/-- A field of a struct. -/
structure FieldUnit where
  key : String
  ident : String
  docs : Documentation
  typeLabel : String
  fieldShape : TypeShape
  mutatorShape : TypeShape
  accessorShape : TypeShape
  accessorBody : Code
  decode : Code
  encode : Code
  clone : Code
  assertion : Option Code
  /-- The field value for the parameter of the mutator. -/
  assign : Code
  /-- The field value when the key is absent; none for required fields. -/
  absent : Option Code
deriving Repr, Inhabited

namespace FieldUnit

/-- Whether the key has to be there, so that there is nothing to hold in its absence. -/
def isRequired (field : FieldUnit) : Bool := field.absent.isNone

/-- All code of the field. -/
def code (field : FieldUnit) : Code :=
  .concat
    ([.word field.ident, field.fieldShape.code, field.mutatorShape.code, field.accessorShape.code,
        field.accessorBody, field.decode, field.encode, field.clone, field.assign] ++
      field.assertion.toList ++ field.absent.toList)

end FieldUnit

/-- A struct with its fields in order. -/
structure StructUnit where
  path : TypePath
  docs : Documentation
  /-- Text of the schema that values are validated against. -/
  schema : String
  fields : List FieldUnit
  extensions : Extensions := .none
deriving Repr, Inhabited

/-- An enum of literals. -/
structure EnumUnit where
  path : TypePath
  docs : Documentation
  definition : EnumDefinition
  extensions : Extensions := .none
deriving Repr, Inhabited

/-- How a union picks its variant when it decodes. -/
inductive Dispatch
  /-- The first variant whose condition accepts the JSON value. -/
  | alternatives
  /-- The first variant whose condition accepts the key of a map entry. -/
  | entries
deriving DecidableEq, Repr, Inhabited

/-- A variant of a union: when it is chosen, and how its value is decoded and encoded. -/
structure VariantUnit where
  ident : String
  storage : TypeShape
  condition : Code
  decode : Code
  encode : Code
deriving Repr, Inhabited

namespace VariantUnit

/-- All code of the variant. -/
def code (variant : VariantUnit) : Code :=
  .concat [.word variant.ident, variant.storage.code, variant.condition, variant.decode,
    variant.encode]

end VariantUnit

/-- An enumeration that holds one of several types.  Without a fallback, values that no variant
accepts are kept as JSON in a variant of their own. -/
structure UnionUnit where
  path : TypePath
  docs : Documentation
  dispatch : Dispatch
  variants : List VariantUnit
  fallback : Option VariantUnit
  extensions : Extensions := .none
deriving Repr, Inhabited

/-- A generated type. -/
inductive TypeUnit
  | struct (unit : StructUnit)
  | enumeration (unit : EnumUnit)
  | union (unit : UnionUnit)
deriving Repr, Inhabited

namespace TypeUnit

/-- The path of the type. -/
def path : TypeUnit → TypePath
  | .struct unit => unit.path
  | .enumeration unit => unit.path
  | .union unit => unit.path

/-- Categories of generated types, as reported. -/
inductive Category
  | struct
  | enumeration
  | union
  | entry
deriving DecidableEq, Repr, Inhabited

/-- The category as lists of types name it. -/
def Category.label : Category → String
  | .struct => "struct"
  | .enumeration => "enum"
  | .union => "union"
  | .entry => "entry"

/-- The category of the type.  A union by keys is an entry of a map. -/
def category : TypeUnit → Category
  | .struct _ => .struct
  | .enumeration _ => .enumeration
  | .union unit =>
    match unit.dispatch with
    | .entries => .entry
    | .alternatives => .union

end TypeUnit

/-- One generated file: the types of a namespace and the declarations of the modules below it. -/
structure FileUnit where
  /-- Path below the output directory. -/
  path : String
  «namespace» : List String
  submodules : List String
  types : List TypeUnit
  items : List Code := []
deriving Repr, Inhabited

end SchemaTypes
