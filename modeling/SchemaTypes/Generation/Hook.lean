import SchemaTypes.TypeUnit.Source

/-!
# Hooks

A hook sees an assembled unit and tells what to add to it.  Hooks run in the order in which they
are registered, and each sees what those before it have added; none of them can take anything away.

## Main definitions

* `Hooks`: the hooks for structs, enumerations, unions and files.
* `Hooks.serde`: serialisation through the JSON encoding of a type, and deserialisation through
  its validating decoder.
-/

namespace SchemaTypes

/-- What other parts of a program add to generated units, in order of registration. -/
structure Hooks where
  onStruct : List (StructUnit → Extensions) := []
  onEnum : List (EnumUnit → Extensions) := []
  onUnion : List (UnionUnit → Extensions) := []
  onFile : List (FileUnit → List Code) := []
deriving Inhabited

namespace Hooks

/-- No additions. -/
def none : Hooks := {}

/-- The hooks of both, those on the left first. -/
instance : Append Hooks where
  append a b := {
    onStruct := a.onStruct ++ b.onStruct
    onEnum := a.onEnum ++ b.onEnum
    onUnion := a.onUnion ++ b.onUnion
    onFile := a.onFile ++ b.onFile }

/-- Adds to a struct.  Every hook sees what the hooks before it have added. -/
def applyStruct (hooks : Hooks) (unit : StructUnit) : StructUnit :=
  hooks.onStruct.foldl
    (fun unit hook => { unit with extensions := unit.extensions ++ hook unit }) unit

/-- Adds to an enum, in the same way. -/
def applyEnum (hooks : Hooks) (unit : EnumUnit) : EnumUnit :=
  hooks.onEnum.foldl
    (fun unit hook => { unit with extensions := unit.extensions ++ hook unit }) unit

/-- Adds to a union, in the same way. -/
def applyUnion (hooks : Hooks) (unit : UnionUnit) : UnionUnit :=
  hooks.onUnion.foldl
    (fun unit hook => { unit with extensions := unit.extensions ++ hook unit }) unit

/-- Adds items to a file, in the same way. -/
def applyFile (hooks : Hooks) (file : FileUnit) : FileUnit :=
  hooks.onFile.foldl (fun file hook => { file with items := file.items ++ hook file }) file

/-! ## Serialisation -/

/-- An item of the serialization library, which generated code reaches through the linked package.
-/
def serdePath (segments : List String) : Code := .support ("serde" :: segments)

/-- `Result<success, failure>`. -/
def resultOf (success failure : Code) : Code := (Code.word "Result").applied [success, failure]

/-- Serialises the JSON encoding of a value. -/
def serializeCode (name : String) : Code :=
  let serialized :=
    (serdePath ["Serialize", "serialize"]).call
      [.borrow ((Code.word "self").method "to_json" []), .word "serializer"]
  .word "impl" ++ serdePath ["Serialize"] ++ .words ["for", name] ++
    .braces
      (.words ["fn", "serialize"] ++ .operator "<" ++ .word "S" ++ .operator ">" ++
        .parens (.separated
          [.borrowedSelf, .labelled (.word "serializer") (.word "S")]) ++
        .operator "->" ++ resultOf (.path ["S", "Ok"]) (.path ["S", "Error"]) ++
        .word "where" ++ .labelled (.word "S") (serdePath ["Serializer"]) ++ .comma ++
        .braces serialized)

/-- `<type as trait>::item`. -/
def qualified (type trait : Code) (item : String) : Code :=
  .operator "<" ++ type ++ .word "as" ++ trait ++ .operator ">" ++ .operator "::" ++ .word item

/-- Deserialises a JSON value and decodes it with `decode`, which reads the variable `value`. -/
def deserializeCode (name : String) (decode : Code) : Code :=
  let lifetime := Code.lifetime "de"
  let value := (qualified .jsonValue (serdePath ["Deserialize"]) "deserialize").call
    [.word "deserializer"]
  .word "impl" ++ .operator "<" ++ lifetime ++ .operator ">" ++
    (serdePath ["Deserialize"]).applied [lifetime] ++ .words ["for", name] ++
    .braces
      (.words ["fn", "deserialize"] ++ .operator "<" ++ .word "D" ++ .operator ">" ++
        .parens (.labelled (.word "deserializer") (.word "D")) ++ .operator "->" ++
        resultOf .selfType (.path ["D", "Error"]) ++ .word "where" ++
        .labelled (.word "D") ((serdePath ["Deserializer"]).applied [lifetime]) ++ .comma ++
        .braces
          (.words ["let", "value"] ++ .operator "=" ++ value.attempt ++ .semicolon ++
            decode.method "map_err"
              [qualified (.path ["D", "Error"]) (serdePath ["de", "Error"]) "custom"]))

/-- `&value`. -/
def borrowedValue : Code := .borrow (.word "value")

/-- Decodes the borrowed variable `value` with validation. -/
def validatingDecode : Code :=
  (Code.selfMember "build_from_input").call [borrowedValue, .word "true"]

/-- Serialisation and deserialisation of every type.  The entries of a map need their key to
decode and are only serialised. -/
def serde : Hooks where
  onStruct := [fun unit =>
    { items := [serializeCode unit.name, deserializeCode unit.name validatingDecode] }]
  onEnum := [fun unit =>
    { items :=
        [serializeCode unit.name,
          deserializeCode unit.name ((Code.selfMember "from_json").call [borrowedValue])] }]
  onUnion := [fun unit =>
    { items :=
        serializeCode unit.name ::
          match unit.dispatch with
          | .alternatives => [deserializeCode unit.name validatingDecode]
          | .entries => [] }]

end Hooks

end SchemaTypes
