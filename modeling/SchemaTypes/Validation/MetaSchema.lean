import SchemaTypes.Validation.Value

/-!
# The schema of schemas

What a document has to look like to be a schema.  Groups of keywords are checked one after the
other: those that name and place schemas, those that apply subschemas, those that state
constraints, and those that describe.  Only keywords that can be violated are listed.
-/

namespace SchemaTypes.MetaSchema

/-- A schema from its keywords. -/
def schema (keywords : Members) : Json := .object keywords

/-- The member that asks for a type. -/
def ofType (name : String) : String × Json := ("type", .string name)

/-- The reference to a schema under `$defs`. -/
def reference (name : String) : Json := schema [("$ref", .string ("#/$defs/" ++ name))]

/-- The reference to the schema of schemas as a whole. -/
def anySchema : Json := schema [("$ref", .string "#")]

/-- The member that declares properties. -/
def properties (entries : Members) : String × Json := ("properties", .object entries)

/-- Objects whose members fit one schema. -/
def mapOf (entry : Json) : Json := schema [ofType "object", ("additionalProperties", entry)]

/-- The number 0. -/
def zero : Json := .number (.integer 0)

/-- The number 1. -/
def one : Json := .number (.integer 1)

/-- Schemas are objects and booleans. -/
def schemaType : String × Json := ("type", .array [.string "object", .string "boolean"])

/-- A group of keywords. -/
def group (entries : Members) : Json := schema [schemaType, properties entries]

/-- Keywords that name and place schemas. -/
def core : Json :=
  group [
    ("$id", schema [("$ref", .string "#/$defs/text"), ("pattern", .string "^[^#]*#?$")]),
    ("$schema", reference "text"),
    ("$ref", reference "text"),
    ("$anchor", reference "anchor"),
    ("$dynamicRef", reference "text"),
    ("$dynamicAnchor", reference "anchor"),
    ("$vocabulary", mapOf (schema [ofType "boolean"])),
    ("$comment", reference "text"),
    ("$defs", mapOf anySchema)]

/-- Keywords that apply subschemas. -/
def applicator : Json :=
  group [
    ("prefixItems", reference "schemaArray"),
    ("items", anySchema),
    ("contains", anySchema),
    ("additionalProperties", anySchema),
    ("properties", mapOf anySchema),
    ("patternProperties", mapOf anySchema),
    ("dependentSchemas", mapOf anySchema),
    ("propertyNames", anySchema),
    ("if", anySchema),
    ("then", anySchema),
    ("else", anySchema),
    ("allOf", reference "schemaArray"),
    ("anyOf", reference "schemaArray"),
    ("oneOf", reference "schemaArray"),
    ("not", anySchema)]

/-- Keywords for what other keywords have not looked at. -/
def unevaluated : Json :=
  group [("unevaluatedItems", anySchema), ("unevaluatedProperties", anySchema)]

/-- Keywords that state constraints. -/
def constraint : Json :=
  group [
    ("type", schema [("anyOf", .array [
      reference "simpleType",
      schema [
        ofType "array",
        ("items", reference "simpleType"),
        ("minItems", one),
        ("uniqueItems", .bool true)]])]),
    ("enum", schema [ofType "array"]),
    ("multipleOf", schema [ofType "number", ("exclusiveMinimum", zero)]),
    ("maximum", schema [ofType "number"]),
    ("exclusiveMaximum", schema [ofType "number"]),
    ("minimum", schema [ofType "number"]),
    ("exclusiveMinimum", schema [ofType "number"]),
    ("maxLength", reference "count"),
    ("minLength", reference "count"),
    ("pattern", reference "text"),
    ("maxItems", reference "count"),
    ("minItems", reference "count"),
    ("uniqueItems", schema [ofType "boolean"]),
    ("maxContains", reference "count"),
    ("minContains", reference "count"),
    ("maxProperties", reference "count"),
    ("minProperties", reference "count"),
    ("required", reference "textArray"),
    ("dependentRequired", mapOf (reference "textArray"))]

/-- Keywords that describe. -/
def description : Json :=
  group [
    ("title", reference "text"),
    ("description", reference "text"),
    ("deprecated", schema [ofType "boolean"]),
    ("readOnly", schema [ofType "boolean"]),
    ("writeOnly", schema [ofType "boolean"]),
    ("examples", schema [ofType "array"]),
    ("format", reference "text"),
    ("contentEncoding", reference "text"),
    ("contentMediaType", reference "text"),
    ("contentSchema", anySchema)]

/-- The schema that schemas have to be valid against. -/
def document : Json :=
  schema [
    ("allOf", .array [
      reference "core", reference "applicator", reference "unevaluated", reference "constraint",
      reference "description"]),
    schemaType,
    properties [
      ("definitions", mapOf anySchema),
      ("dependencies", mapOf (schema [("anyOf", .array [anySchema, reference "textArray"])])),
      ("$recursiveAnchor", reference "anchor"),
      ("$recursiveRef", reference "text")],
    ("$defs", schema [
      ("core", core),
      ("applicator", applicator),
      ("unevaluated", unevaluated),
      ("constraint", constraint),
      ("description", description),
      ("text", schema [ofType "string"]),
      ("anchor", schema [ofType "string", ("pattern", .string "^[A-Za-z_][-A-Za-z0-9._]*$")]),
      ("schemaArray", schema [ofType "array", ("minItems", one), ("items", anySchema)]),
      ("simpleType", schema [("enum", .array (Json.typeNames.map .string))]),
      ("count", schema [ofType "integer", ("minimum", zero)]),
      ("textArray", schema [
        ofType "array",
        ("items", schema [ofType "string"]),
        ("uniqueItems", .bool true)])])]

end SchemaTypes.MetaSchema
