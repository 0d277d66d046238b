import SchemaTypes.Json.Value

/-!
# Validation failures

A value that does not fit its schema fails with one message for each violated constraint.
-/

namespace SchemaTypes

/-- Name of the type of a JSON value, in which integers are told from other numbers. -/
def Json.typeName : Json → String
  | .null => "null"
  | .bool _ => "boolean"
  | .number (.float _) => "number"
  | .number (.integer _) => "integer"
  | .string _ => "string"
  | .array _ => "array"
  | .object _ => "object"

/-- Messages, one for each violated constraint. -/
structure ValidationFailure where
  messages : List String
deriving DecidableEq, Repr, Inhabited

namespace ValidationFailure

/-- A failure with one message. -/
def ofMessage (message : String) : ValidationFailure := ⟨[message]⟩

/-- A required key is absent. -/
def missing (key : String) : ValidationFailure :=
  ofMessage s!"required property '{key}' is missing"

/-- A value of another type than expected. -/
def unexpected (expected : String) (actual : Json) : ValidationFailure :=
  ofMessage s!"expected {expected}, found {actual.typeName}"

/-- The same failure, told for the value under a key. -/
def under (failure : ValidationFailure) (key : String) : ValidationFailure :=
  ⟨failure.messages.map fun message => key ++ ": " ++ message⟩

/-- All messages in one line. -/
def text (failure : ValidationFailure) : String := "; ".intercalate failure.messages

end ValidationFailure

/-- The result of a decoder. -/
abbrev Decoded (α : Type) := Except ValidationFailure α

end SchemaTypes
