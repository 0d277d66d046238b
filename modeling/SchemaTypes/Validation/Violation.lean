import SchemaTypes.Json.Writer
import SchemaTypes.Validation.Value

/-!
# Violations

What a value can do against a schema.  Each violation names the constraint and, mostly, the value
that breaks it; `Violation.message` puts it into words.
-/

namespace SchemaTypes

/-- What the size of a value is counted in. -/
inductive SizeUnit
  | characters
  | items
  | properties
deriving DecidableEq, Repr, Inhabited

/-- A constraint that a value violates. -/
inductive Violation
  /-- The schema accepts nothing. -/
  | forbidden (value : Json)
  /-- The value has none of the types. -/
  | wrongType (allowed : List String) (value : Json)
  | notListed (options : Json) (value : Json)
  | notConstant (constant : Json)
  | belowMinimum (limit value : Json)
  | aboveMaximum (limit value : Json)
  /-- The value does not exceed a limit that is excluded. -/
  | notAbove (limit value : Json)
  /-- The value does not stay below a limit that is excluded. -/
  | notBelow (limit value : Json)
  | notMultiple (factor : Binary64) (value : Json)
  | tooSmall (unit : SizeUnit) (limit : Nat) (value : Json)
  | tooLarge (unit : SizeUnit) (limit : Nat) (value : Json)
  | mismatch (pattern : String) (value : Json)
  | missingProperty (key : String)
  | repeatedItems (value : Json)
  /-- Too few or too many items are of the kind that an array has to contain. -/
  | notContained (value : Json)
  | additionalProperties (keys : List String)
  | unevaluatedProperties (keys : List String)
  | unevaluatedItems (items : List Json)
  /-- None of the schemas under a keyword accepts the value. -/
  | noAlternative (keyword : String) (value : Json)
  /-- Not only one of the schemas under `oneOf` accepts the value. -/
  | severalAlternatives (value : Json)
  | excluded (schema value : Json)
deriving Repr, Inhabited

namespace Violation

/-- Names in quotes, and whether one or several were unexpected. -/
def unexpectedText (names : List String) : String :=
  "(" ++ ", ".intercalate (names.map fun name => "'" ++ name ++ "'") ++
    (if names.length == 1 then " was unexpected)" else " were unexpected)")

/-- A number of units. -/
def sizeText (unit : SizeUnit) (count : Nat) : String :=
  let single := count == 1
  toString count ++
    match unit with
    | .characters => if single then " character" else " characters"
    | .items => if single then " item" else " items"
    | .properties => if single then " property" else " properties"

/-- The violation as the validator words it. -/
def message : Violation → String
  | forbidden value => "False schema does not allow " ++ value.text
  | wrongType allowed value =>
    value.text ++ (if allowed.length == 1 then " is not of type " else " is not of types ") ++
      ", ".intercalate (allowed.map Json.quote)
  | notListed options value => value.text ++ " is not one of " ++ options.text
  | notConstant constant => constant.text ++ " was expected"
  | belowMinimum limit value => value.text ++ " is less than the minimum of " ++ limit.text
  | aboveMaximum limit value => value.text ++ " is greater than the maximum of " ++ limit.text
  | notAbove limit value =>
    value.text ++ " is less than or equal to the minimum of " ++ limit.text
  | notBelow limit value =>
    value.text ++ " is greater than or equal to the maximum of " ++ limit.text
  | notMultiple factor value => value.text ++ " is not a multiple of " ++ factor.positionalText
  | tooSmall unit limit value =>
    value.text ++ (if unit == .characters then " is shorter than " else " has less than ") ++
      sizeText unit limit
  | tooLarge unit limit value =>
    value.text ++ (if unit == .characters then " is longer than " else " has more than ") ++
      sizeText unit limit
  | mismatch pattern value => value.text ++ " does not match \"" ++ pattern ++ "\""
  | missingProperty key => Json.quote key ++ " is a required property"
  | repeatedItems value => value.text ++ " has non-unique elements"
  | notContained value => "None of " ++ value.text ++ " are valid under the given schema"
  | additionalProperties keys => "Additional properties are not allowed " ++ unexpectedText keys
  | unevaluatedProperties keys => "Unevaluated properties are not allowed " ++ unexpectedText keys
  | unevaluatedItems items =>
    "Unevaluated items are not allowed " ++ unexpectedText (items.map Json.text)
  | noAlternative keyword value =>
    value.text ++ " is not valid under any of the schemas listed in the '" ++ keyword ++
      "' keyword"
  | severalAlternatives value =>
    value.text ++ " is valid under more than one of the schemas listed in the 'oneOf' keyword"
  | excluded schema value => schema.text ++ " is not allowed for " ++ value.text

end Violation

end SchemaTypes
