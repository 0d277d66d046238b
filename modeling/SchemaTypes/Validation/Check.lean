import SchemaTypes.Pattern.Reader
import SchemaTypes.Validation.Reference
import SchemaTypes.Validation.Violation

/-!
# Checking a value against a schema

`violations` lists all that is wrong with a value.  The keywords of a schema are checked in their
order; each has a function of its own here, which is given the check of subschemas as an argument.
Where `additionalProperties` restricts an object, the declared properties and patterns are checked
together with it, member by member.

Subschemas are checked with one unit of fuel less.  A chain of checks that is longer than
`checkFuel` comes back to a schema and a value that it met before.
-/

namespace SchemaTypes

/-- Violations of a value against a schema. -/
abbrev Check := (schema value : Json) → List Violation

namespace Check

/-- Whether a check finds no violation. -/
def accepts (check : Check) (schema value : Json) : Bool := (check schema value).isEmpty

/-! ## Any value -/

/-- The names of the types that `type` lists. -/
def allowedTypes (declared : Json) : List String :=
  match declared with
  | .string name => [name]
  | .array [.string name] => [name]
  | .array names => Json.typeNames.filter (names.filterMap Json.string?).contains
  | _ => []

/-- The value is of one of the declared types. -/
def type (declared value : Json) : List Violation :=
  let allowed := allowedTypes declared
  if allowed.any value.hasType then [] else [.wrongType allowed value]

/-- The value is listed. -/
def enum (options value : Json) : List Violation :=
  if (options.items?.getD []).any value.sameValue then [] else [.notListed options value]

/-- The value is the constant. -/
def const (constant value : Json) : List Violation :=
  if constant.sameValue value then [] else [.notConstant constant]

/-! ## Numbers -/

/-- A limit that numbers keep when they compare to it in an expected way. -/
def limit (keeps : Ordering → Bool) (violation : Json → Json → Violation) (bound value : Json) :
    List Violation :=
  match bound, value with
  | .number limit, .number number =>
    if keeps (number.compareValue limit) then [] else [violation bound value]
  | _, _ => []

/-- The number is at least the limit. -/
def minimum : Json → Json → List Violation := limit Ordering.isGE .belowMinimum

/-- The number is at most the limit. -/
def maximum : Json → Json → List Violation := limit Ordering.isLE .aboveMaximum

/-- The number is above the limit. -/
def exclusiveMinimum : Json → Json → List Violation := limit Ordering.isGT .notAbove

/-- The number is below the limit. -/
def exclusiveMaximum : Json → Json → List Violation := limit Ordering.isLT .notBelow

/-- The number is a multiple of the factor. -/
def multipleOf (factor value : Json) : List Violation :=
  match factor, value with
  | .number factor, .number number =>
    if JsonNumber.isMultipleOf number.toBinary64 factor.toBinary64 then []
    else [.notMultiple factor.toBinary64 value]
  | _, _ => []

/-! ## Sizes -/

/-- A number without sign and fraction. -/
def count? (value : Json) : Option Nat :=
  match value with
  | .number (.integer count) => if 0 ≤ count then some count.toNat else none
  | .number (.float count) =>
    if count.isIntegral && 0 ≤ count.truncate then some count.truncate.toNat else none
  | _ => none

/-- The size is at least the limit. -/
def least (unit : SizeUnit) (size : Nat) (limit value : Json) : List Violation :=
  match count? limit with
  | some limit => if limit ≤ size then [] else [.tooSmall unit limit value]
  | none => []

/-- The size is at most the limit. -/
def most (unit : SizeUnit) (size : Nat) (limit value : Json) : List Violation :=
  match count? limit with
  | some limit => if size ≤ limit then [] else [.tooLarge unit limit value]
  | none => []

/-! ## Strings -/

/-- Whether a text matches a pattern somewhere, in the dialect of schemas. -/
def matchesSchemaPattern (pattern text : String) : Bool :=
  (Pattern.parseInSchema? pattern).any (·.isFoundIn text)

/-- The text matches the pattern. -/
def pattern (expected value : Json) : List Violation :=
  match expected, value with
  | .string pattern, .string text =>
    if matchesSchemaPattern pattern text then [] else [.mismatch pattern value]
  | _, _ => []

/-! ## Arrays -/

/-- Every item behind those that have a schema of their own. -/
def items (check : Check) (members : Members) (schema value : Json) : List Violation :=
  let leading := (((members.get? "prefixItems").bind Json.items?).getD []).length
  ((value.items?.getD []).drop leading).flatMap (check schema)

/-- The first items, each by the schema at its place. -/
def prefixItems (check : Check) (schemas value : Json) : List Violation :=
  ((schemas.items?.getD []).zip (value.items?.getD [])).flatMap fun pair => check pair.1 pair.2

/-- At least one item is accepted, or as many as the bounds beside the keyword tell. -/
def contains (check : Check) (members : Members) (schema value : Json) : List Violation :=
  match value with
  | .array items =>
    let found := items.countP (check.accepts schema)
    let least := ((members.get? "minContains").bind count?).getD 1
    let most := (members.get? "maxContains").bind count?
    if least ≤ found && most.all (found ≤ ·) then [] else [.notContained value]
  | _ => []

/-- No item occurs twice, if that is asked for. -/
def uniqueItems (asked value : Json) : List Violation :=
  match asked, value with
  | .bool true, .array items => if Json.areDistinct items then [] else [.repeatedItems value]
  | _, _ => []

/-! ## Objects -/

/-- The keys in a list that an object lacks. -/
def required (keys : Json) (value : Json) : List Violation :=
  match keys, value with
  | .array keys, .object object =>
    (keys.filterMap Json.string?).flatMap fun key =>
      if Members.contains object key then [] else [.missingProperty key]
  | _, _ => []

/-- Whether the members of an object are checked by `additionalProperties`. -/
def restricted (members : Members) : Bool :=
  match members.get? "additionalProperties" with
  | some (.bool false) => true
  | some (.object _) => true
  | _ => false

/-- The properties that are declared beside a keyword. -/
def declared (members : Members) : Members :=
  ((members.get? "properties").bind Json.members?).getD []

/-- The patterns that are declared beside a keyword. -/
def patterns (members : Members) : Members :=
  ((members.get? "patternProperties").bind Json.members?).getD []

/-- The schemas of the patterns that a key matches. -/
def patternSchemas (members : Members) (key : String) : List Json :=
  ((patterns members).filter fun entry => matchesSchemaPattern entry.1 key).map (·.2)

/-- The members by the schemas of their keys. -/
def properties (check : Check) (members : Members) (value : Json) : List Violation :=
  if restricted members then []
  else
    (declared members).flatMap fun entry =>
      match value.get? entry.1 with
      | some child => check entry.2 child
      | none => []

/-- The members by the schemas of all patterns that their keys match. -/
def patternProperties (check : Check) (members : Members) (value : Json) : List Violation :=
  if restricted members then []
  else
    (patterns members).flatMap fun entry =>
      (value.members?.getD []).flatMap fun member =>
        if matchesSchemaPattern entry.1 member.1 then check entry.2 member.2 else []

/-- Keys of an object that are neither declared nor match a pattern. -/
def additionalKeys (members object : Members) : List String :=
  (object.map (·.1)).filter fun key =>
    !(declared members).contains key && (patternSchemas members key).isEmpty

/-- Declared members and members that match patterns, each by their own schemas, and every other
member by the schema given for it. -/
def additionalProperties (check : Check) (members : Members) (schema value : Json) :
    List Violation :=
  match value with
  | .object object =>
    let additional := additionalKeys members object
    let checked := object.flatMap fun (key, child) =>
      (match (declared members).get? key with
        | some own => check own child
        | none => []) ++
      (patternSchemas members key).flatMap (check · child) ++
      (if schema.isObject && additional.contains key then check schema child else [])
    match schema with
    | .object _ => checked
    | .bool false =>
      if !members.contains "properties" && !members.contains "patternProperties" then
        (object.take 1).map fun entry => .forbidden entry.2
      else if additional.isEmpty then checked
      else checked ++ [.additionalProperties additional]
    | _ => []
  | _ => []

/-- Keys are checked as strings. -/
def propertyNames (check : Check) (schema value : Json) : List Violation :=
  match schema, value with
  | .bool false, .object object => if object.isEmpty then [] else [.forbidden value]
  | _, .object object => object.flatMap fun entry => check schema (.string entry.1)
  | _, _ => []

/-- What an object has to fulfil when it has a key: a schema, or a list of further keys. -/
def dependencies (check : Check) (entries value : Json) : List Violation :=
  match entries, value with
  | .object entries, .object object =>
    entries.flatMap fun entry =>
      if Members.contains object entry.1 then
        match entry.2 with
        | .array _ => required entry.2 value
        | schema => check schema value
      else []
  | _, _ => []

/-! ## Combinations -/

/-- Every schema accepts the value. -/
def allOf (check : Check) (schemas value : Json) : List Violation :=
  (schemas.items?.getD []).flatMap (check · value)

/-- Some schema accepts the value. -/
def anyOf (check : Check) (schemas value : Json) : List Violation :=
  if (schemas.items?.getD []).any (check.accepts · value) then []
  else [.noAlternative "anyOf" value]

/-- Exactly one schema accepts the value. -/
def oneOf (check : Check) (schemas value : Json) : List Violation :=
  match (schemas.items?.getD []).countP (check.accepts · value) with
  | 0 => [.noAlternative "oneOf" value]
  | 1 => []
  | _ => [.severalAlternatives value]

/-- The schema does not accept the value. -/
def not (check : Check) (schema value : Json) : List Violation :=
  if check.accepts schema value then [.excluded schema value] else []

/-- The schema under `then` or `else` that counts for a value. -/
def conditional? (check : Check) (members : Members) (condition value : Json) : Option Json :=
  members.get? (if check.accepts condition value then "then" else "else")

/-- The schema that the condition decides on accepts the value. -/
def condition (check : Check) (members : Members) (condition value : Json) : List Violation :=
  match conditional? check members condition value with
  | some schema => check schema value
  | none => []

/-- The schema that the reference leads to accepts the value.  Unknown targets have been refused
before. -/
def reference (check : Check) (root target value : Json) : List Violation :=
  match target.string?.map root.resolveReference with
  | some (.ok schema) => check schema value
  | _ => []

/-! ## Members and items that no other keyword has looked at -/

/-- Keys of an object that a schema has looked at, by its own keywords or by those of subschemas
that accept the object. -/
def evaluatedKeys (check : Check) (root : Json) (object : Members) :
    (fuel : Nat) → (schema : Json) → List String
  | 0, _ => []
  | fuel + 1, schema =>
    let value := Json.object object
    let inner := fun schema =>
      if check.accepts schema value then evaluatedKeys check root object fuel schema else []
    let members := schema.members?.getD []
    members.flatMap fun (keyword, part) =>
      match keyword with
      | "properties" => (object.map (·.1)).filter (declared members).contains
      | "patternProperties" =>
        (object.map (·.1)).filter fun key => !(patternSchemas members key).isEmpty
      | "additionalProperties" => additionalKeys members object
      | "unevaluatedProperties" => object.map (·.1)
      | "allOf" => (part.items?.getD []).flatMap inner
      | "anyOf" => (part.items?.getD []).flatMap inner
      | "oneOf" => (part.items?.getD []).flatMap inner
      | "if" =>
        inner part ++ ((conditional? check members part value).map inner).getD []
      | "dependentSchemas" =>
        (part.members?.getD []).flatMap fun entry =>
          if Members.contains object entry.1 then inner entry.2 else []
      | "$ref" =>
        match part.string?.map root.resolveReference with
        | some (.ok target) => inner target
        | _ => []
      | _ => []

/-- The members that no other keyword has looked at. -/
def unevaluatedProperties (check : Check) (root : Json) (fuel : Nat) (members : Members)
    (schema value : Json) : List Violation :=
  match value with
  | .object object =>
    let others := members.filter (·.1 != "unevaluatedProperties")
    let evaluated := evaluatedKeys check root object fuel (.object others)
    let rest := object.filter fun entry =>
      !evaluated.contains entry.1 && !check.accepts schema entry.2
    if rest.isEmpty then [] else [.unevaluatedProperties (rest.map (·.1))]
  | _ => []

/-- Which items of an array a schema has looked at. -/
def evaluatedItems (check : Check) (root : Json) (items : List Json) :
    (fuel : Nat) → (schema : Json) → List Bool
  | 0, _ => items.map fun _ => false
  | fuel + 1, schema =>
    let value := Json.array items
    let nothing := items.map fun _ => false
    let merge := fun a b => List.zipWith (· || ·) a b
    let inner := fun schema =>
      if check.accepts schema value then evaluatedItems check root items fuel schema else nothing
    let all := fun schemas => (schemas.map inner).foldl merge nothing
    let members := schema.members?.getD []
    (members.map fun (keyword, part) =>
      match keyword with
      | "items" => items.map fun _ => true
      | "unevaluatedItems" => items.map fun _ => true
      | "prefixItems" => items.mapIdx fun place _ => place < (part.items?.getD []).length
      | "contains" => items.map (check.accepts part)
      | "allOf" => all (part.items?.getD [])
      | "anyOf" => all (part.items?.getD [])
      | "oneOf" => all (part.items?.getD [])
      | "if" => all (part :: (conditional? check members part value).toList)
      | "$ref" =>
        match part.string?.map root.resolveReference with
        | some (.ok target) => inner target
        | _ => nothing
      | _ => nothing).foldl merge nothing

/-- The items that no other keyword has looked at. -/
def unevaluatedItems (check : Check) (root : Json) (fuel : Nat) (members : Members)
    (schema value : Json) : List Violation :=
  match value with
  | .array items =>
    let others := members.filter (·.1 != "unevaluatedItems")
    let evaluated := evaluatedItems check root items fuel (.object others)
    let rest := (items.zip evaluated).filter fun entry =>
      !entry.2 && !check.accepts schema entry.1
    if rest.isEmpty then [] else [.unevaluatedItems (rest.map (·.1))]
  | _ => []

/-! ## Schemas -/

/-- A check of the length of a text. -/
def characters (value : Json) (check : Nat → List Violation) : List Violation :=
  (value.string?.map fun text => check text.length).getD []

/-- A check of the number of items. -/
def itemCount (value : Json) (check : Nat → List Violation) : List Violation :=
  (value.items?.map fun items => check items.length).getD []

/-- A check of the number of members. -/
def memberCount (value : Json) (check : Nat → List Violation) : List Violation :=
  (value.members?.map fun members => check members.length).getD []

/-- Violations of one keyword.  Keywords that only describe a value, or are read together with
another one, have none. -/
def keyword (check : Check) (root : Json) (fuel : Nat) (members : Members) (name : String)
    (part value : Json) : List Violation :=
  match name with
  | "$ref" => reference check root part value
  | "additionalProperties" => additionalProperties check members part value
  | "allOf" => allOf check part value
  | "anyOf" => anyOf check part value
  | "const" => const part value
  | "contains" => contains check members part value
  | "dependencies" => dependencies check part value
  | "dependentRequired" => dependencies check part value
  | "dependentSchemas" => dependencies check part value
  | "enum" => enum part value
  | "exclusiveMaximum" => exclusiveMaximum part value
  | "exclusiveMinimum" => exclusiveMinimum part value
  | "if" => condition check members part value
  | "items" => items check members part value
  | "maxItems" => itemCount value fun size => most .items size part value
  | "maxLength" => characters value fun size => most .characters size part value
  | "maxProperties" => memberCount value fun size => most .properties size part value
  | "maximum" => maximum part value
  | "minItems" => itemCount value fun size => least .items size part value
  | "minLength" => characters value fun size => least .characters size part value
  | "minProperties" => memberCount value fun size => least .properties size part value
  | "minimum" => minimum part value
  | "multipleOf" => multipleOf part value
  | "not" => not check part value
  | "oneOf" => oneOf check part value
  | "pattern" => pattern part value
  | "patternProperties" => patternProperties check members value
  | "prefixItems" => prefixItems check part value
  | "properties" => properties check members value
  | "propertyNames" => propertyNames check part value
  | "required" => required part value
  | "type" => type part value
  | "unevaluatedItems" => unevaluatedItems check root fuel members part value
  | "unevaluatedProperties" => unevaluatedProperties check root fuel members part value
  | "uniqueItems" => uniqueItems part value
  | _ => []

/-- Violations of a value against a schema of the document `root`. -/
def withFuel (root : Json) : (fuel : Nat) → Check
  | 0, _, _ => []
  | fuel + 1, schema, value =>
    match schema with
    | .bool false => [.forbidden value]
    | .object members =>
      members.flatMap fun entry =>
        keyword (withFuel root fuel) root fuel members entry.1 entry.2 value
    | _ => []

end Check

/-- As many checks within each other as there are schemas to check a value and its parts, among
them its keys, against. -/
def checkFuel (root value : Json) : Nat := root.nodeCount * (value.depth + 2) + 1

/-- All that is wrong with a value against a schema. -/
def violations (schema value : Json) : List Violation :=
  Check.withFuel schema (checkFuel schema value) schema value

end SchemaTypes
