import SchemaTypes.Codec.Failure
import SchemaTypes.Json.Reader
import SchemaTypes.Validation.Fault

/-!
# Validation of input

Generated types check input against the schema that they carry, as a whole or one property at a
time.  The schema of a property takes the definitions of its document along, so that references to
them still lead somewhere.

## Main definitions

* `validate` and `validateProperty`: all violations as one failure.
* `propertySchema`: the schema of one property.
-/

namespace SchemaTypes

/-- Refuses a document that cannot check values. -/
def requireSchema (schema : Json) : Decoded Unit :=
  match SchemaFault.of? schema with
  | some fault => .error (.ofMessage ("embedded schema cannot be compiled: " ++ fault.message))
  | none => .ok ()

/-- Refuses a value that violates a schema. -/
def requireValid (schema value : Json) : Decoded Unit :=
  match violations schema value with
  | [] => .ok ()
  | found => .error ⟨found.map Violation.message⟩

/-- Checks a value against a schema. -/
def validate (schema value : Json) : Decoded Unit := do
  requireSchema schema
  requireValid schema value

/-- Keywords under which a document keeps schemas to refer to. -/
def definitionKeywords : List String := ["definitions", "$defs"]

/-- The schema of a property.  One that is not declared accepts everything. -/
def propertySchema (document : Json) (key : String) : Json :=
  match (document.get? "properties").bind (·.get? key) with
  | none => .bool true
  | some (.object members) =>
    .object <| definitionKeywords.foldl
      (fun (members : Members) keyword =>
        match document.get? keyword with
        | some definitions =>
          if members.contains keyword then members else members.insert keyword definitions
        | none => members)
      members
  | some other => other

/-- Checks the value of one property.  Violations are told for its key. -/
def validateProperty (document : Json) (key : String) (value : Json) : Decoded Unit := do
  let schema := propertySchema document key
  requireSchema schema
  (requireValid schema value).mapError (·.under key)

/-- Reads the schema that a type carries. -/
def readSchema (text : String) : Decoded Json :=
  match Json.parseText text with
  | .ok document => .ok document
  | .error error => .error (.ofMessage ("embedded schema is not valid JSON: " ++ error.message))

end SchemaTypes
