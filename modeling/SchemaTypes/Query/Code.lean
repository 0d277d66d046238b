import SchemaTypes.Codec.Failure
import SchemaTypes.Json.Writer

/-!
# Codes of search queries

An enumeration of literals of two types.
-/

namespace SchemaTypes

/-- The literal `1`, `"2"` or `"two"`. -/
inductive QueryCode
  | value1
  | value2
  | valueTwo
deriving DecidableEq, Repr, Inhabited

namespace QueryCode

/-- Every case, in order of declaration. -/
def all : List QueryCode := [value1, value2, valueTwo]

/-- Name of the case in generated code. -/
def caseName : QueryCode → String
  | value1 => "VALUE_1"
  | value2 => "VALUE_2"
  | valueTwo => "VALUE_TWO"

/-- The literal of a code. -/
def toJson : QueryCode → Json
  | value1 => .number (.integer 1)
  | value2 => .string "2"
  | valueTwo => .string "two"

/-- The code with this literal.  Numbers are compared as they are written, so `1.0` is no code. -/
def ofJson? (value : Json) : Option QueryCode := all.find? fun case => case.toJson == value

/-- Decodes a code; the failure shows the input. -/
def ofJson (value : Json) : Decoded QueryCode :=
  match ofJson? value with
  | some case => .ok case
  | none => .error (.ofMessage (value.text ++ " is not a valid QueryCode"))

end QueryCode

end SchemaTypes
