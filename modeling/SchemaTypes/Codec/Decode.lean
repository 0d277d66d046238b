import SchemaTypes.Codec.Instant
import SchemaTypes.Codec.Number
import SchemaTypes.Pattern.Reader

/-!
# Decoding and encoding JSON values

The conversions that generated types are built from.  A decoder never trusts the shape of its
input: what does not fit is a failure.
-/

namespace SchemaTypes

namespace Decode

/-- The members of an object. -/
def object (value : Json) : Decoded Members :=
  match value with
  | .object members => .ok members
  | other => .error (.unexpected "object" other)

/-- The items of an array. -/
def array (value : Json) : Decoded (List Json) :=
  match value with
  | .array items => .ok items
  | other => .error (.unexpected "array" other)

/-- The value of a key that must be there. -/
def required (members : Members) (key : String) : Decoded Json :=
  match members.get? key with
  | some value => .ok value
  | none => .error (.missing key)

/-- A string. -/
def string (value : Json) : Decoded String :=
  match value with
  | .string text => .ok text
  | other => .error (.unexpected "string" other)

/-- A truth value. -/
def boolean (value : Json) : Decoded Bool :=
  match value with
  | .bool value => .ok value
  | other => .error (.unexpected "boolean" other)

/-- Doubles that are read as integers are smaller than this. -/
def greatestIntegralFloat : Int := 9000000000000000

/-- The integer that a double stands for: one without a fraction that is not too large. -/
def integerOfFloat? (value : Binary64) : Option Int :=
  if value.isIntegral && value.abs.compareInt greatestIntegralFloat == .lt then
    some value.truncate
  else none

/-- The integer that a number stands for. -/
def integerOfNumber? (number : JsonNumber) : Option Int :=
  number.signed?.or (integerOfFloat? number.toBinary64)

/-- The integer of 64 bits that a value stands for; floating-point numbers may stand for one. -/
def integer? (value : Json) : Option Int := value.number?.bind integerOfNumber?

/-- An integer of 64 bits with sign. -/
def integer (value : Json) : Decoded Int :=
  match integer? value with
  | some integer => .ok integer
  | none => .error (.unexpected "integer" value)

/-- Whether an integer can be read from a value, as unions ask before they decode. -/
def isInteger (value : Json) : Bool := (integer? value).isSome

/-- A number of either kind. -/
def number (value : Json) : Decoded NumberValue := NumberValue.ofJson value

/-- A date with a time, in the notation of RFC 3339. -/
def dateTime (value : Json) : Decoded Instant :=
  match value with
  | .string text =>
    match Instant.parse text with
    | .ok instant => .ok instant
    | .error fault =>
      .error (.ofMessage s!"'{text}' is not a valid date-time: {fault.message}")
  | other => .error (.unexpected "date-time string" other)

/-- Whether a date with a time can be read from a value. -/
def isDateTime (value : Json) : Bool := (dateTime value).toBool

/-- Whether a key matches a pattern somewhere.  What is no pattern matches nothing. -/
def matchesPattern (pattern key : String) : Bool :=
  match Pattern.parse? pattern with
  | some pattern => pattern.isFoundIn key
  | none => false

end Decode

namespace Encode

/-- A date with a time in UTC, in the notation of RFC 3339. -/
def dateTime (instant : Instant) : Json := .string instant.text

/-- Items in their order. -/
def list {α : Type} (encode : α → Json) (items : List α) : Json := .array (items.map encode)

/-- Entries in their order. -/
def map {α : Type} (encode : α → Json) (entries : List (String × α)) : Json :=
  .object (entries.map fun entry => (entry.1, encode entry.2))

end Encode

end SchemaTypes
