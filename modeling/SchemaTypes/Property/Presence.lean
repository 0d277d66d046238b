import SchemaTypes.Property.Expression

/-!
# Presence of properties

A property of a struct is required, optional, or has a default.  `FieldProperty` decides what this
means for the field: its type, what absent keys give, and how accessors and mutators treat it.

An optional property that accepts `null` is not optional twice: `null` and absence both give
`None`.
-/

namespace SchemaTypes

variable [Spelling]

/-- A property and what happens when its key is absent. -/
inductive FieldProperty
  | required (inner : Property)
  /-- Absent keys give `None`.  `ignored` is a default that does not fit the type. -/
  | optional (inner : Property) (ignored : Option Json) (acceptsNull : Bool)
  /-- Absent keys give the default.  With `nullable` the field may also hold `None`; with
  `acceptsNull` an explicit `null` gives it. -/
  | defaulted (inner : Property) (default : DefaultValue) (nullable acceptsNull : Bool)
deriving Repr, Inhabited

/-- How the parameter of a mutator becomes the value of the field. -/
inductive Wrapping
  | keep
  | box
  /-- Boxes the value inside an `Option`. -/
  | boxInside
  | present (inner : Wrapping)
deriving DecidableEq, Repr, Inhabited

/-- The wrapped value as it is written. -/
def Wrapping.code : Wrapping → Code → Code
  | .keep, value => value
  | .box, value => (Code.path ["Box", "new"]).call [value]
  | .boxInside, value => value.grouped.method "map" [.path ["Box", "new"]]
  | .present inner, value => .some (inner.code value)

namespace Property

/-- How a parameter of the view type becomes a value of the field type. -/
def wrapping : Property → Wrapping
  | .nullable inner => if inner.isBoxed then .boxInside else .keep
  | property => if property.isBoxed then .box else .keep

/-- Return type and body of the accessor of an optional field of this property. -/
def optionalAccessor (inner : Property) (field : Place) : TypeShape × Code :=
  if inner.isCopy then (.optional inner.fieldShape, field.code)
  else if inner.isBoxed then
    (.optional (.borrowed inner.viewShape), field.code.method "as_deref" [])
  else (.optional (.borrowed inner.fieldShape), field.code.method "as_ref" [])

/-- Return type and body of the accessor of a field.  Values that are copied by naming them are
returned as they are, others by reference. -/
def accessor (property : Property) (field : Place) : TypeShape × Code :=
  match property with
  | .nullable inner => inner.optionalAccessor field
  | property =>
    if property.isCopy then (property.fieldShape, field.code)
    else (.borrowed property.viewShape, .borrow field.code)

/-- Inserts the encoded value under its key. -/
def insertStatement (output : Code) (key : String) (encoded : Code) : Code :=
  output.method "insert" [.ownedText key, encoded] ++ .semicolon

end Property

namespace FieldProperty

/-- Decides the presence of a property from its schema.  A default that fits the type counts,
except a `null` that the property accepts anyway. -/
def decorate (property : Property) (required : Bool) (default : Option Json)
    (nullableDefaults : Bool) : FieldProperty :=
  if required then .required property
  else
    let (inner, acceptsNull) : Property × Bool :=
      match property with
      | .nullable inner => (inner, true)
      | other => (other, false)
    match default.filter fun literal => !(acceptsNull && literal.isNull) with
    | none => .optional inner none acceptsNull
    | some literal =>
      match inner.defaultValue? literal with
      | some value => .defaulted inner value (nullableDefaults || acceptsNull) acceptsNull
      | none => .optional inner (some literal) acceptsNull

/-- A default that does not fit the property and is ignored. -/
def ignoredDefault? : FieldProperty → Option Json
  | .optional _ ignored _ => ignored
  | _ => none

/-- The property apart from its presence. -/
def inner : FieldProperty → Property
  | .required inner => inner
  | .optional inner _ _ => inner
  | .defaulted inner _ _ _ => inner

/-- The field may hold `None` on account of its presence. -/
def isOptional : FieldProperty → Bool
  | .required _ => false
  | .optional _ _ _ => true
  | .defaulted _ _ nullable _ => nullable

/-- The types that are generated for the property. -/
def minted (property : FieldProperty) : List MintedType := property.inner.minted

/-! ## Types -/

/-- The type as documentation shows it; an optional field is marked as nullable. -/
def typeLabel (property : FieldProperty) : String :=
  if property.isOptional then markNullable property.inner.typeLabel
  else property.inner.typeLabel

/-- Type of the field; none when nothing more precise than a JSON value is known. -/
def storageShape? (property : FieldProperty) : Option TypeShape :=
  if property.isOptional then property.inner.storageShape?.map .optional
  else property.inner.storageShape?

/-- Type of the field.  A key that may be absent puts an option around the type of the property. -/
def fieldShape (property : FieldProperty) : TypeShape :=
  if property.isOptional then .optional property.inner.fieldShape else property.inner.fieldShape

/-- Type that accessors hand out. -/
def viewShape (property : FieldProperty) : TypeShape :=
  if property.isOptional then .optional property.inner.viewShape else property.inner.viewShape

/-- Type of the parameter of the mutator. -/
def mutatorShape (property : FieldProperty) : TypeShape := property.inner.viewShape

/-- Whether the field itself is a `Box`.  A box inside an option does not count. -/
def isBoxed (property : FieldProperty) : Bool := !property.isOptional && property.inner.isBoxed

/-! ## Expressions -/

/-- The JSON value of a key; optional properties read it as an option. -/
def rawInput (property : FieldProperty) (object : Code) (key : String) : Code :=
  match property with
  | .required _ => ((Code.support ["decode", "required"]).call [object, .string key]).attempt
  | _ => object.method "get" [.string key]

/-- Whether the JSON value can be decoded; of an optional property `raw` is an option. -/
def inputAssertion (property : FieldProperty) (raw : Code) : Code :=
  match property with
  | .required inner => inner.inputAssertion raw
  | .optional inner _ acceptsNull | .defaulted inner _ _ acceptsNull =>
    let check := inner.inputAssertion (.word "raw")
    let check :=
      if acceptsNull then (Code.word "raw").method "is_null" [] ++ .operator "||" ++ check
      else check
    raw.grouped.method "is_none_or" [.closure [.word "raw"] check]

/-- A value of the field for a value of the property. -/
def wrap (nullable : Bool) (value : Code) : Code := if nullable then .some value else value

/-- Decodes the JSON value; of an optional property `raw` is an option. -/
def inputMapping (property : FieldProperty) (raw : Code) : Code :=
  let present := Code.some (.word "raw")
  let isNull := (Code.word "raw").method "is_null" []
  match property with
  | .required inner => inner.inputMapping raw
  | .optional inner _ acceptsNull =>
    let mapping := Code.some (inner.inputMapping (.word "raw"))
    if acceptsNull then
      .matchOn raw
        [.arm (present ++ .word "if" ++ .operator "!" ++ isNull) mapping,
          .arm (.word "_") .none]
    else .matchOn raw [.arm present mapping, .arm .none .none]
  | .defaulted inner default nullable acceptsNull =>
    let nullArm := if acceptsNull then [Code.arm (present ++ .word "if" ++ isNull) .none] else []
    .matchOn raw <|
      nullArm ++
        [.arm present (wrap nullable (inner.inputMapping (.word "raw"))),
          .arm .none (wrap nullable default.code)]

/-- Encodes the value of the field. -/
def outputMapping (property : FieldProperty) (value : Operand) : Code :=
  if property.isOptional then .encodeOptional (property.inner.outputMapping .value) value
  else property.inner.outputMapping value

/-- Encodes the value of the field into `output`.  A missing value leaves its key out, unless it
stands for an explicit `null`. -/
def encodeStatement (property : FieldProperty) (output : Code) (key : String) (value : Operand) :
    Code :=
  let leaveOut :=
    match property with
    | .required _ => false
    | .optional _ _ _ => true
    | .defaulted _ _ nullable acceptsNull => nullable && !acceptsNull
  if leaveOut then
    .word "if" ++ .word "let" ++ .some (.word "value") ++ .operator "=" ++
      value.receiver.method "as_ref" [] ++
      .braces (Property.insertStatement output key (property.inner.outputMapping .value))
  else Property.insertStatement output key (property.outputMapping value)

/-- A deep copy of the field; none when it is copied by naming it. -/
def cloneExpression? (property : FieldProperty) (value : Operand) : Option Code :=
  if property.isOptional then (Property.nullable property.inner).cloneExpression? value
  else property.inner.cloneExpression? value

/-- Checks the parameter of the mutator. -/
def assertion? (property : FieldProperty) (value : Operand) (key : String) : Option Code :=
  property.inner.assertion? value key

/-- A literal as a value of the field. -/
def literalExpression? (property : FieldProperty) (literal : Json) : Option Code :=
  (property.inner.defaultValue? literal).map fun value => wrap property.isOptional value.code

/-- How the parameter of the mutator becomes the value of the field. -/
def wrapping (property : FieldProperty) : Wrapping :=
  if property.isOptional then .present property.inner.wrapping else property.inner.wrapping

/-- The value of the field when its key is absent; required properties have none. -/
def absentValue? : FieldProperty → Option Code
  | .required _ => none
  | .optional _ _ _ => some .none
  | .defaulted _ default nullable _ => some (wrap nullable default.code)

/-- Return type and body of the accessor. -/
def accessor (property : FieldProperty) (field : Place) : TypeShape × Code :=
  if property.isOptional then property.inner.optionalAccessor field
  else property.inner.accessor field

end FieldProperty

end SchemaTypes
