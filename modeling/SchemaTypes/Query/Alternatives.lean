import SchemaTypes.Codec.Decode
import SchemaTypes.Validation.Validate

/-!
# Alternatives in search queries

A value that fits one of several schemas is decoded as the first alternative that accepts it, and
kept as it is when none does.  `QueryValue` tells its alternatives by type; those of `QueryPick`
are objects, which are told by their schemas.
-/

namespace SchemaTypes

/-! ## An integer or a text -/

/-- An integer or a text. -/
inductive QueryValue
  | integer (value : Int)
  | text (value : String)
  /-- A value that no alternative accepts. -/
  | unmatched (value : Json)
deriving BEq, Repr, Inhabited

namespace QueryValue

/-- Whether some alternative accepts the input. -/
def accepts (input : Json) : Bool := Decode.isInteger input || input.isString

/-- Decodes input as the first alternative that accepts it. -/
def ofJson (input : Json) : Decoded QueryValue :=
  if Decode.isInteger input then return .integer (← Decode.integer input)
  else if input.isString then return .text (← Decode.string input)
  else return .unmatched input

/-- Encodes a value as its alternative does. -/
def toJson : QueryValue → Json
  | integer value => .number (.integer value)
  | text value => .string value
  | unmatched value => value

end QueryValue

/-! ## Objects with one or two texts -/

/-- An object with a member `foo`. -/
structure FooPick where
  foo : String
deriving DecidableEq, Repr, Inhabited

/-- An object with members `foo` and `bar`. -/
structure FooBarPick where
  foo : String
  bar : String
deriving DecidableEq, Repr, Inhabited

/-- The schema of strings. -/
def textSchema : Json := .object [("type", .string "string")]

/-- The schema of objects with members that are strings and have to be there. -/
def textsSchema (keys : List String) : Json :=
  .object [
    ("type", .string "object"),
    ("properties", .object (keys.map (·, textSchema))),
    ("required", .array (keys.map .string))]

/-- Decodes the string under a key, for which failures are told. -/
def requiredText (members : Members) (key : String) : Decoded String :=
  (Decode.required members key >>= Decode.string).mapError (·.under key)

namespace FooPick

/-- Objects with a text `foo`. -/
def schema : Json := textsSchema ["foo"]

/-- Decodes input, after checking it against the schema when `validating`. -/
def ofJson (input : Json) (validating : Bool) : Decoded FooPick := do
  if validating then validate schema input
  let members ← Decode.object input
  return { foo := ← requiredText members "foo" }

/-- Encodes the object. -/
def toJson (pick : FooPick) : Json := .object [("foo", .string pick.foo)]

end FooPick

namespace FooBarPick

/-- Objects with texts `foo` and `bar`. -/
def schema : Json := textsSchema ["foo", "bar"]

/-- Decodes input, after checking it against the schema when `validating`. -/
def ofJson (input : Json) (validating : Bool) : Decoded FooBarPick := do
  if validating then validate schema input
  let members ← Decode.object input
  return { foo := ← requiredText members "foo", bar := ← requiredText members "bar" }

/-- Encodes the object, members in order of declaration. -/
def toJson (pick : FooBarPick) : Json :=
  .object [("foo", .string pick.foo), ("bar", .string pick.bar)]

end FooBarPick

/-- An object with one or with two texts. -/
inductive QueryPick
  | foo (value : FooPick)
  | fooBar (value : FooBarPick)
  /-- A value that no alternative accepts. -/
  | unmatched (value : Json)
deriving BEq, Repr, Inhabited

namespace QueryPick

/-- Whether the schema of objects with one text accepts the input. -/
def acceptsFoo (input : Json) : Bool := (validate FooPick.schema input).toBool

/-- Whether the schema of objects with two texts accepts the input. -/
def acceptsFooBar (input : Json) : Bool := (validate FooBarPick.schema input).toBool

/-- Whether some alternative accepts the input. -/
def accepts (input : Json) : Bool := acceptsFoo input || acceptsFooBar input

/-- Decodes input as the first alternative that accepts it. -/
def ofJson (input : Json) (validating : Bool) : Decoded QueryPick :=
  if acceptsFoo input then return .foo (← FooPick.ofJson input validating)
  else if acceptsFooBar input then return .fooBar (← FooBarPick.ofJson input validating)
  else return .unmatched input

/-- Encodes a pick as its alternative does. -/
def toJson : QueryPick → Json
  | foo value => value.toJson
  | fooBar value => value.toJson
  | unmatched value => value

end QueryPick

end SchemaTypes
