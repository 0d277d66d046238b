import SchemaTypes.Json.Reader
import SchemaTypes.Text.FilePath
import SchemaTypes.Yaml.Document

/-!
# Schema documents

A schema document is an object in JSON or YAML.  The extension of its file tells which.
-/

namespace SchemaTypes

/-- The notations of documents. -/
inductive DocumentFormat
  | json
  | yaml
deriving DecidableEq, Repr, Inhabited

namespace DocumentFormat

/-- YAML has the extensions `yaml` and `yml`, in lower case. -/
def ofPath (path : String) : DocumentFormat :=
  if (FilePath.extension? path).any ["yaml", "yml"].contains then .yaml else .json

/-- The notation as messages name it. -/
def label : DocumentFormat → String
  | json => "JSON"
  | yaml => "YAML"

end DocumentFormat

/-- Why a schema document cannot be used. -/
inductive DocumentFault
  | unreadable (reason : String)
  | badJson (error : JsonError)
  | badYaml
  | notAnObject
deriving DecidableEq, Repr, Inhabited

/-- The fault in words, for the document at a path. -/
def DocumentFault.message (path : String) : DocumentFault → String
  | .unreadable reason => s!"cannot read schema '{path}': {reason}"
  | .badJson error => s!"schema '{path}' is not valid JSON: {error.message}"
  | .badYaml => s!"schema '{path}' is not valid YAML"
  | .notAnObject => s!"schema '{path}' must be a JSON object at its root"

/-- Reads a schema document. -/
def readDocument (format : DocumentFormat) (bytes : List UInt8) : Except DocumentFault Json := do
  let document ←
    match format with
    | .json => (Json.parse bytes).mapError .badJson
    | .yaml =>
      match Yaml.parse? bytes with
      | some document => .ok document
      | none => .error .badYaml
  if document.isObject then .ok document else .error .notAnObject

end SchemaTypes
