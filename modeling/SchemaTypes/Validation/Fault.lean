import SchemaTypes.Validation.Check
import SchemaTypes.Validation.MetaSchema

/-!
# Faults of schemas

A document is fit to check values when it is a schema by the schema of schemas, when its patterns
can be read and when its references lead somewhere.  The last two are asked only of schemas that a
check can reach: definitions count when something refers to them.
-/

namespace SchemaTypes

/-- Why a document cannot check values. -/
inductive SchemaFault
  /-- The document is no schema. -/
  | violated (violation : Violation)
  /-- The text, or the schema of a pattern for keys, is given with what is no pattern. -/
  | notPattern (shown : Json)
  | badReference (fault : ReferenceFault)
deriving Repr, Inhabited

/-- The fault as the validator words it. -/
def SchemaFault.message : SchemaFault → String
  | .violated violation => violation.message
  | .notPattern shown => shown.text ++ " is not a \"regex\""
  | .badReference fault => fault.message

namespace SchemaFault

/-- What a keyword needs before it can be checked. -/
inductive Need
  | schema (schema : Json)
  | pattern (text : String) (shown : Json)
  | reference (target : String)

/-- The items of an array have to be schemas. -/
def ofSchemas (part : Json) : List Need := (part.items?.getD []).map .schema

/-- The values of an object have to be schemas. -/
def ofMembers (part : Json) : List Need := (part.members?.getD []).map fun entry => .schema entry.2

/-- The keys have to be patterns, and the values schemas. -/
def ofPatterns (patterns : Members) : List Need :=
  patterns.flatMap fun entry => [.pattern entry.1 entry.2, .schema entry.2]

/-- What a keyword needs, in the order in which it asks for it. -/
def needs (members : Members) (keyword : String) (part : Json) : List Need :=
  let restricted := Check.restricted members
  match keyword with
  | "$ref" => (part.string?.map Need.reference).toList
  | "additionalProperties" =>
    if restricted then
      ofPatterns (Check.patterns members) ++ (if part.isObject then [.schema part] else []) ++
        ofMembers (.object (Check.declared members))
    else []
  | "allOf" => ofSchemas part
  | "anyOf" => ofSchemas part
  | "contains" => [.schema part]
  | "dependencies" => ofMembers part
  | "dependentSchemas" => ofMembers part
  | "if" =>
    .schema part ::
      ((members.get? "then").toList ++ (members.get? "else").toList).map Need.schema
  | "items" => [.schema part]
  | "not" => [.schema part]
  | "oneOf" => ofSchemas part
  | "pattern" => (part.string?.map fun text => Need.pattern text part).toList
  | "patternProperties" => if restricted then [] else ofPatterns (Check.patterns members)
  | "prefixItems" => ofSchemas part
  | "properties" => if restricted then [] else ofMembers part
  | "propertyNames" => [.schema part]
  | "unevaluatedItems" => [.schema part]
  | "unevaluatedProperties" => [.schema part]
  | _ => []

/-- Looks for faults in what a check of `schema` can reach.  `followed` are the references that
have been followed; the result adds those that were followed here. -/
def search (root : Json) : (fuel : Nat) → (schema : Json) → (followed : List String) →
    Except SchemaFault (List String)
  | 0, _, followed => .ok followed
  | fuel + 1, schema, followed =>
    let members := schema.members?.getD []
    (members.flatMap fun entry => needs members entry.1 entry.2).foldlM
      (fun followed need =>
        match need with
        | .schema part => search root fuel part followed
        | .pattern text shown =>
          if (Pattern.parseInSchema? text).isSome then .ok followed else .error (.notPattern shown)
        | .reference target =>
          if followed.contains target then .ok followed
          else
            match root.resolveReference target with
            | .ok part => search root fuel part (target :: followed)
            | .error fault => .error (.badReference fault))
      followed

/-- The first fault of a document. -/
def of? (document : Json) : Option SchemaFault :=
  match violations MetaSchema.document document with
  | violation :: _ => some (.violated violation)
  | [] =>
    match search document (document.nodeCount * (document.nodeCount + 1)) document [] with
    | .ok _ => none
    | .error fault => some fault

end SchemaFault

end SchemaTypes
