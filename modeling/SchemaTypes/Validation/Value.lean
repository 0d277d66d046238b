import SchemaTypes.Json.Value

/-!
# Values as a schema sees them

A schema takes numbers for what they are worth: `1` and `1.0` are one value, and both are
integers.  Objects are equal when their members are, in any order.

## Main definitions

* `Json.hasType`: whether a value is of a type that is named in a schema.
* `Json.sameValue`: equality of values.
* `JsonNumber.compareValue`: exact comparison of numbers of either kind.
-/

namespace SchemaTypes

namespace JsonNumber

/-- Whether the number has no fraction. -/
def isIntegral : JsonNumber → Bool
  | .integer _ => true
  | .float value => value.isIntegral

/-- Comparison of values, exact also between an integer and a double. -/
def compareValue : JsonNumber → JsonNumber → Ordering
  | .integer a, .integer b => compare a b
  | .integer a, .float b => (b.compareInt a).swap
  | .float a, .integer b => a.compareInt b
  | .float a, .float b => compare a.scaled b.scaled

/-- Doubles this close to an integer, from below the next one, count as one. -/
def closeness : Binary64 := ⟨false, Binary64.leastNormal, -104⟩

/-- What a quotient has beyond the integer next to it toward zero. -/
def fraction (value : Binary64) : Binary64 :=
  let (num, den) := value.magnitude
  (Binary64.ofRatio? value.negative (num % den) den).getD .zero

/-- Whether a number is a multiple of a factor.  For a factor with a fraction the rounded quotient
decides: it may pass an integer by less than `closeness`, and any negative one will do. -/
def isMultipleOf (number factor : Binary64) : Bool :=
  if factor.isIntegral then
    let (num, den) := number.magnitude
    let (num', den') := factor.magnitude
    number.isIntegral && (num / den) % (num' / den') == 0
  else
    match number.div? factor with
    | some quotient => (fraction quotient).lt closeness
    | none => true

end JsonNumber

namespace Json

/-- The names of types in a schema, in order. -/
def typeNames : List String :=
  ["array", "boolean", "integer", "null", "number", "object", "string"]

/-- Whether a value is of the type with a name.  A number without a fraction is an integer. -/
def hasType (value : Json) (name : String) : Bool :=
  match value with
  | .null => name == "null"
  | .bool _ => name == "boolean"
  | .number n => name == "number" || (name == "integer" && n.isIntegral)
  | .string _ => name == "string"
  | .array _ => name == "array"
  | .object _ => name == "object"

mutual

/-- Equality of values: numbers are compared by value, members by key. -/
def sameValue : Json → Json → Bool
  | .null, .null => true
  | .bool a, .bool b => a == b
  | .number a, .number b => a.compareValue b == .eq
  | .string a, .string b => a == b
  | .array a, .array b => sameItems a b
  | .object a, .object b => a.length == b.length && sameMembers a b
  | _, _ => false

/-- Equality item by item. -/
def sameItems : List Json → List Json → Bool
  | [], [] => true
  | a :: as, b :: bs => sameValue a b && sameItems as bs
  | _, _ => false

/-- Whether every member on the left has the same value under its key on the right. -/
def sameMembers : List (String × Json) → Members → Bool
  | [], _ => true
  | (key, a) :: rest, members =>
    (match members.get? key with
      | some b => sameValue a b
      | none => false) && sameMembers rest members

end

/-- Whether no two items are the same value. -/
def areDistinct : List Json → Bool
  | [] => true
  | item :: rest => !rest.any item.sameValue && areDistinct rest

/-! ## Measures -/

mutual

/-- Number of arrays and objects around the innermost value. -/
def depth : Json → Nat
  | .array items => depthOfItems items + 1
  | .object members => depthOfMembers members + 1
  | _ => 0

/-- The depth of the deepest item. -/
def depthOfItems : List Json → Nat
  | [] => 0
  | item :: rest => max (depth item) (depthOfItems rest)

/-- The depth of the deepest member. -/
def depthOfMembers : List (String × Json) → Nat
  | [] => 0
  | (_, value) :: rest => max (depth value) (depthOfMembers rest)

end

mutual

/-- Number of values in a document. -/
def nodeCount : Json → Nat
  | .array items => nodeCountOfItems items + 1
  | .object members => nodeCountOfMembers members + 1
  | _ => 1

/-- Number of values in all items. -/
def nodeCountOfItems : List Json → Nat
  | [] => 0
  | item :: rest => nodeCount item + nodeCountOfItems rest

/-- Number of values in all members. -/
def nodeCountOfMembers : List (String × Json) → Nat
  | [] => 0
  | (_, value) :: rest => nodeCount value + nodeCountOfMembers rest

end

end Json

end SchemaTypes
