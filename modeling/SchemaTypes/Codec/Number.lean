import SchemaTypes.Codec.Failure

/-!
# Numbers of generated types

JSON does not tell `1` from `1.0` by type.  Here a number that is written as an integer of 64 bits
with sign is an integer, and every other one is a double.
-/

namespace SchemaTypes

/-- The value of a property of type `number`. -/
inductive NumberValue
  | integer (value : Int)
  | float (value : Binary64)
deriving DecidableEq, Repr, Inhabited

namespace NumberValue

/-- An integer if the number is written as a signed integer of 64 bits, and else the nearest double.
-/
def ofJsonNumber (number : JsonNumber) : NumberValue :=
  match number.signed? with
  | some value => .integer value
  | none => .float number.toBinary64

/-- Decodes a number of either kind. -/
def ofJson (value : Json) : Decoded NumberValue :=
  match value with
  | .number number => .ok (ofJsonNumber number)
  | other => .error (.unexpected "number" other)

/-- Encodes a number as one of its kind. -/
def toJson : NumberValue → Json
  | .integer value => .number (.integer value)
  | .float value => .number (.float value)

/-- The nearest double. -/
def toBinary64 : NumberValue → Binary64
  | .integer value => Binary64.ofInt value
  | .float value => value

/-- Whether the number is held as an integer. -/
def isInteger : NumberValue → Bool
  | .integer _ => true
  | .float _ => false

/-- Equal integers, or doubles of equal value. -/
def sameValue : NumberValue → NumberValue → Bool
  | .integer a, .integer b => a == b
  | .float a, .float b => a.sameValue b
  | _, _ => false

/-- The number in full, never with an exponent. -/
def text : NumberValue → String
  | .integer value => toString value
  | .float value => value.positionalText

end NumberValue

end SchemaTypes
