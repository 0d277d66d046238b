import SchemaTypes.Property.Default

/-!
# Expressions of a property

What generated code does with the value of a property: test whether a JSON value can be decoded,
decode it, encode it, copy it and check it against the schema.

Decoding expressions read a JSON value and may leave the enclosing function with a failure.
Encoding and copying expressions read an `Operand`, a place in memory or a borrow of one.
-/

namespace SchemaTypes

/-- A variable, or a field of the value at hand. -/
inductive Place
  | variable (name : String)
  | field (name : String)
deriving DecidableEq, Repr, Inhabited

/-- The place as it is written in a method. -/
def Place.code : Place → Code
  | .variable name => .word name
  | .field name => (Code.word "self").field name

/-- A place that holds a value or a reference to one, or a borrowed place. -/
inductive Operand
  | place (place : Place)
  | borrowed (place : Place)
deriving DecidableEq, Repr, Inhabited

namespace Operand

/-- The value as it is handed to a function. -/
def code : Operand → Code
  | .place held => held.code
  | .borrowed held => .borrow held.code

/-- As the receiver of a method, where borrows are implied. -/
def receiver : Operand → Code
  | .place held => held.code
  | .borrowed held => held.code

/-- The value behind the reference. -/
def deref : Operand → Code
  | .place held => Code.operator "*" ++ held.code
  | .borrowed held => held.code

/-- What the closures over items call their parameter. -/
def item : Operand := .place (.variable "item")

/-- What a variant calls the value that it holds. -/
def value : Operand := .place (.variable "value")

/-- What the closures over options call their parameter. -/
def inner : Operand := .place (.variable "inner")

end Operand

namespace Code

/-- The JSON value in brackets, as the receiver of a method. -/
def grouped (raw : Code) : Code := parens raw

/-- `Result<_, ValidationError>`. -/
def decodingResult : Code := (word "Result").applied [word "_", validationError]

/-- A closure with a body in braces that may fail to decode. -/
def decodingClosure (parameter : Code) (decoded : Code) : Code :=
  operator "|" ++ parameter ++ operator "|" ++ operator "->" ++ decodingResult ++
    braces (ok decoded)

/-- Collects decoded items, or the first failure. -/
def collectInto (items container : Code) : Code :=
  attempt <|
    items.field "collect" ++ operator "::" ++ operator "<" ++ word "Result" ++ operator "<" ++
      container.applied [word "_"] ++ comma ++ word "_" ++ operator ">>" ++ parens empty

/-- Variant of a JSON value. -/
def jsonVariant (name : String) : Code := support ["serde_json", "Value", name]

/-- The parameter of the closures over members. -/
def keyAndItem : Code := parens (separated [word "key", word "item"])

/-- The key of a member as a text of its own. -/
def clonedKey : Code := (word "key").method "clone" []

end Code

namespace ScalarKind

/-- Whether the JSON value can be decoded. -/
def inputAssertion (kind : ScalarKind) (raw : Code) : Code :=
  match kind with
  | .bool => raw.grouped.method "is_boolean" []
  | .integer => (Code.support ["decode", "is_integer"]).call [raw]
  | .number => raw.grouped.method "is_number" []
  | .string => raw.grouped.method "is_string" []
  | .dateTime => (Code.support ["decode", "is_date_time"]).call [raw]

/-- Name of the decoder. -/
def decoder : ScalarKind → String
  | .bool => "boolean"
  | .integer => "integer"
  | .number => "number"
  | .string => "string"
  | .dateTime => "date_time"

/-- Decodes a scalar with the function for its kind; a failure is passed on. -/
def inputMapping (kind : ScalarKind) (raw : Code) : Code :=
  ((Code.support ["decode", kind.decoder]).call [raw]).attempt

/-- Encodes a scalar.  What is copied by naming it is taken out of its reference. -/
def outputMapping (kind : ScalarKind) (value : Operand) : Code :=
  match kind with
  | .bool => (Code.jsonVariant "Bool").call [value.deref]
  | .integer => (Code.jsonVariant "from").call [value.deref]
  | .number => value.receiver.method "to_json" []
  | .string => (Code.jsonVariant "String").call [value.receiver.method "clone" []]
  | .dateTime => (Code.support ["encode", "date_time"]).call [value.code]

end ScalarKind

namespace Container

/-- Whether input is an array or an object, all of whose items pass a check. -/
def inputAssertion (container : Container) (check : Code) (raw : Code) : Code :=
  let all := fun (items : Code) =>
    items.method "all" [Code.closure [.word "item"] check]
  match container with
  | .list =>
    (raw.grouped.method "as_array" []).method "is_some_and"
      [.closure [.word "items"] (all ((Code.word "items").method "iter" []))]
  | .map =>
    (raw.grouped.method "as_object" []).method "is_some_and"
      [.closure [.word "entries"] (all ((Code.word "entries").method "values" []))]

/-- Decodes a collection item by item, up to the first failure. -/
def inputMapping (container : Container) (mapping : Code) (raw : Code) : Code :=
  match container with
  | .list =>
    let items := ((Code.support ["decode", "array"]).call [raw]).attempt.method "iter" []
    (items.method "map" [.decodingClosure (.word "item") mapping]).collectInto (.word "Vec")
  | .map =>
    let entries := ((Code.support ["decode", "object"]).call [raw]).attempt.method "iter" []
    let pair := Code.parens (.separated [.clonedKey, mapping])
    (entries.method "map" [.decodingClosure .keyAndItem pair]).collectInto (.support ["Map"])

/-- Encodes a collection item by item. -/
def outputMapping (container : Container) (output : Code) (value : Operand) : Code :=
  let encoder :=
    match container with
    | .list => "list"
    | .map => "map"
  (Code.support ["encode", encoder]).call [value.code, .closure [.word "item"] output]

end Container

namespace ReferencedType

/-- Whether input is valid for the target.  Nothing is known of an unknown one, so it takes
everything. -/
def inputAssertion (target : ReferencedType) (raw : Code) : Code :=
  match target with
  | .struct path _ =>
    (((Code.ofTypePath path).member "validate_input").call [raw]).method "is_ok" []
  | .enumeration path _ =>
    (((Code.ofTypePath path).member "try_from_json").call [raw]).method "is_some" []
  | .unknown _ => .word "true"

/-- Decodes a struct. -/
def buildFromInput (path : TypePath) (raw : Code) : Code :=
  (((Code.ofTypePath path).member "build_from_input").call [raw, .word "validate"]).attempt

/-- Decodes the target.  One that takes part in a cycle of references is boxed; an unknown one is
kept as it is. -/
def inputMapping (target : ReferencedType) (raw : Code) : Code :=
  match target with
  | .struct path false => buildFromInput path raw
  | .struct path true => (Code.path ["Box", "new"]).call [buildFromInput path raw]
  | .enumeration path _ => (((Code.ofTypePath path).member "from_json").call [raw]).attempt
  | .unknown _ => raw.grouped.method "clone" []

/-- Encodes the target, whether it is boxed or not. -/
def outputMapping (target : ReferencedType) (value : Operand) : Code :=
  match target with
  | .unknown _ => value.receiver.method "clone" []
  | _ => value.receiver.method "to_json" []

end ReferencedType

/-- Encodes a value that may be missing; `output` encodes the variable `value`. -/
def Code.encodeOptional (output : Code) (value : Operand) : Code :=
  .matchOn value.code
    [.arm (.some (.word "value")) output, .arm .none (.jsonVariant "Null")]

namespace Property

variable [Spelling]

/-- Whether the JSON value `raw` can be decoded. -/
def inputAssertion : Property → (raw : Code) → Code
  | .scalar kind, raw => kind.inputAssertion raw
  | .collection _ container item, raw =>
    container.inputAssertion (item.inputAssertion (.word "item")) raw
  | .nestedObject request, raw => (ReferencedType.struct request.path false).inputAssertion raw
  | .intersection request, raw => (ReferencedType.struct request.path false).inputAssertion raw
  | .reference target, raw => target.inputAssertion raw
  | .union path _ _, raw => ((Code.ofTypePath path).member "matches_input").call [raw]
  | .enumeration target, raw =>
    (ReferencedType.enumeration target.path target.definition).inputAssertion raw
  | .dynamic _ _, raw => raw.grouped.method "is_object" []
  | .nullable inner, raw =>
    .parens (raw.grouped.method "is_null" [] ++ .operator "||" ++ inner.inputAssertion raw)
  | .mixed, _ => .word "true"

/-- Decodes the JSON value `raw`. -/
def inputMapping : Property → (raw : Code) → Code
  | .scalar kind, raw => kind.inputMapping raw
  | .collection _ container item, raw =>
    container.inputMapping (item.inputMapping (.word "item")) raw
  | .nestedObject request, raw => ReferencedType.buildFromInput request.path raw
  | .intersection request, raw => ReferencedType.buildFromInput request.path raw
  | .reference target, raw => target.inputMapping raw
  | .union path _ _, raw => ReferencedType.buildFromInput path raw
  | .enumeration target, raw =>
    (ReferencedType.enumeration target.path target.definition).inputMapping raw
  | .dynamic entry _, raw =>
    Container.map.inputMapping
      (((Code.ofTypePath entry).member "build_from_entry").call
        [.word "key", .word "item", .word "validate"]).attempt raw
  | .nullable inner, raw =>
    let isNull := (Code.word "raw").method "is_null" []
    .matchOn raw
      [.arm (Code.word "raw" ++ .word "if" ++ isNull) .none,
        .arm (.word "raw") (.some (inner.inputMapping (.word "raw")))]
  | .mixed, raw => raw.grouped.method "clone" []

/-- Encodes a value as JSON. -/
def outputMapping : Property → (value : Operand) → Code
  | .scalar kind, value => kind.outputMapping value
  | .collection _ container item, value =>
    container.outputMapping (item.outputMapping .item) value
  | .reference target, value => target.outputMapping value
  | .dynamic _ _, value =>
    Container.map.outputMapping (Operand.item.receiver.method "to_json" []) value
  | .nullable inner, value => .encodeOptional (inner.outputMapping .value) value
  | .mixed, value => value.receiver.method "clone" []
  | _, value => value.receiver.method "to_json" []

/-- The values are copied by naming them. -/
def isCopy : Property → Bool
  | .scalar .string => false
  | .scalar _ => true
  | .enumeration _ => true
  | .reference (.enumeration _ _) => true
  | .nullable inner => inner.isCopy
  | _ => false

/-- A deep copy of a value that is not copied by naming it. -/
def clone : Property → (value : Operand) → Code
  | .nullable inner, value =>
    (value.receiver.method "as_ref" []).method "map"
      [.closure [.word "inner"] (inner.clone .inner)]
  | _, value => value.receiver.method "clone" []

/-- A deep copy; none when the value is copied by naming it. -/
def cloneExpression? (property : Property) (value : Operand) : Option Code :=
  if property.isCopy then none else some (property.clone value)

/-- A statement that checks a value against the schema of `key`, where the type of the value does
not guarantee it. -/
def assertion? (property : Property) (value : Operand) (key : String) : Option Code :=
  if property.isScalarLike then
    let arguments :=
      [Code.path ["Self", "SCHEMA"], .string key, .borrow (property.outputMapping value)]
    some (((Code.support ["validate_property"]).call arguments).attempt ++ .semicolon)
  else none

end Property

end SchemaTypes
