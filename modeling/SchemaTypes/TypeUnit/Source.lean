import SchemaTypes.TypeUnit.Basic

/-!
# Source code of units

The tokens of generated types and files.

## Main definitions

* `StructUnit.code`: definition, constructor, accessors, mutators, decoding, encoding and cloning.
* `EnumUnit.code`: definition, look-up of literals and encoding.
* `UnionUnit.code`: definition, decoding by the first matching variant and encoding.
* `FileUnit.code`: module declarations, types and further items.
-/

namespace SchemaTypes

namespace Code

/-- `#[derive(traits)]`. -/
def derive (traits : List Code) : Code :=
  outerAttribute (word "derive" ++ parens (separated traits))

/-- `#[allow(lint)]`. -/
def allow (lint : String) : Code := outerAttribute (word "allow" ++ parens (word lint))

/-- The attribute of functions whose result has to be used. -/
def mustUse : Code := outerAttribute (word "must_use")

/-- `fn name(parameters) -> result { body }` after some qualifiers. -/
def function (qualifiers : List String) (name : String) (parameters result body : Code) : Code :=
  words qualifiers ++ word "fn" ++ word name ++ parens parameters ++ operator "->" ++ result ++
    braces body

/-- A function that others may use. -/
def publicFunction (name : String) (parameters result body : Code) : Code :=
  function ["pub"] name parameters result body

/-- The type that is implemented. -/
def selfType : Code := word "Self"

/-- `Self::name`. -/
def selfMember (name : String) : Code := path ["Self", name]

/-- `Self { fields }`. -/
def selfLiteral (fields : Code) : Code := selfType ++ braces fields

/-- `Self { field, ..self }`. -/
def selfUpdate (field : Code) : Code :=
  selfLiteral (field ++ comma ++ operator ".." ++ word "self")

/-- The receiver of methods that only read. -/
def borrowedSelf : Code := borrow (word "self")

/-- `input: &Value`. -/
def inputParameter : Code := labelled (word "input") (borrow jsonValue)

/-- `validate: bool`. -/
def validateParameter : Code := labelled (word "validate") (word "bool")

/-- `Result<success, ValidationError>`. -/
def fallible (success : Code) : Code := (word "Result").applied [success, validationError]

/-- `field: value`, shortened when the value is the variable of that name. -/
def fieldValue (ident : String) (value : Code) : Code :=
  if value.text == ident then word ident else labelled (word ident) value

/-- `impl name { body }`. -/
def implementation (name : String) (body : Code) : Code :=
  word "impl" ++ word name ++ braces body

end Code

namespace FieldUnit

/-- Methods that every struct has; an accessor of that name is renamed. -/
def structMethods : List String :=
  ["new", "build_from_input", "validate_input", "to_json", "clone", "schema"]

/-- Name of the accessor. -/
def accessorName (ident : String) : String :=
  let bare := Name.bare ident
  if structMethods.contains bare then bare ++ "_value" else ident

/-- Name of a method that starts with some word. -/
def methodName (start ident : String) : String := start ++ Name.bare ident

/-- The accessor, with the documentation of the field and its type. -/
def accessorCode (field : FieldUnit) : Code :=
  let separator := if field.docs.isEmpty then Code.empty else Code.docLine ""
  field.docs.code ++ separator ++ .docLine (" Type: `" ++ field.typeLabel ++ "`") ++
    .publicFunction (accessorName field.ident) .borrowedSelf field.accessorShape.code
      field.accessorBody

/-- The mutator that sets the field; it may fail when the value has to be checked. -/
def withCode (field : FieldUnit) : Code :=
  let name := methodName "with_" field.ident
  let parameters :=
    Code.separated [.word "self", .labelled (.word field.ident) field.mutatorShape.code]
  let updated := Code.selfUpdate (.fieldValue field.ident field.assign)
  match field.assertion with
  | some assertion =>
    .publicFunction name parameters (.fallible .selfType) (assertion ++ .ok updated)
  | none => .mustUse ++ .publicFunction name parameters .selfType updated

/-- The mutator that makes the key absent; required fields have none. -/
def withoutCode (field : FieldUnit) : Code :=
  match field.absent with
  | some absent =>
    .mustUse ++
      .publicFunction (methodName "without_" field.ident) (.word "self") .selfType
        (.selfUpdate (.labelled (.word field.ident) absent))
  | none => .empty

/-- The mutators of the field. -/
def mutatorCode (field : FieldUnit) : Code := field.withCode ++ field.withoutCode

/-- `field: type`. -/
def declaration (field : FieldUnit) : Code := .labelled (.word field.ident) field.fieldShape.code

/-- Decodes the field; a failure names the key. -/
def decodeCode (field : FieldUnit) : Code :=
  let decoder :=
    Code.parens
      (.operator "||" ++ .operator "->" ++ .decodingResult ++ .braces (.ok field.decode))
  let named :=
    Code.closure [.word "error"] ((Code.word "error").method "at" [.string field.key])
  .labelled (.word field.ident) (((decoder ++ .parens .empty).method "map_err" [named]).attempt)

end FieldUnit

namespace StructUnit

/-- The name of the struct. -/
def name (unit : StructUnit) : String := unit.path.name

/-- The struct with its fields. -/
def definitionCode (unit : StructUnit) : Code :=
  unit.docs.code ++ .derive ([.word "Debug", .word "PartialEq"] ++ unit.extensions.derives) ++
    .concat unit.extensions.attributes ++ .words ["pub", "struct", unit.name] ++
    .braces (.separated (unit.fields.map (·.declaration)))

/-- Takes the required fields; the others get their absent value. -/
def constructorCode (unit : StructUnit) : Code :=
  let parameters := (unit.fields.filter (·.isRequired)).map fun field =>
    Code.labelled (.word field.ident) field.mutatorShape.code
  let values := unit.fields.map fun field =>
    Code.fieldValue field.ident (field.absent.getD field.assign)
  .publicFunction "new" (.separated parameters) .selfType (.selfLiteral (.separated values))

/-- The functions that check and decode input. -/
def decodingCode (unit : StructUnit) : Code :=
  let asObject := ((Code.support ["decode", "object"]).call [.word "input"]).attempt
  let body :=
    if unit.fields.isEmpty then
      asObject ++ .semicolon ++ .ok (.selfLiteral .empty)
    else
      .words ["let", "object"] ++ .operator "=" ++ asObject ++ .semicolon ++
        .ok (.selfLiteral (.separated (unit.fields.map (·.decodeCode))))
  let validated :=
    Code.ifTrue (.word "validate")
      (((Code.selfMember "validate_input").call [.word "input"]).attempt ++ .semicolon)
  .docComment
      "Decodes `input`, validating it against [`Self::SCHEMA`] first when `validate` is set." ++
    .allow "unused_variables" ++
    .publicFunction "build_from_input" (.terminated [.inputParameter, .validateParameter])
      (.fallible .selfType) (validated ++ body) ++
    .publicFunction "validate_input" .inputParameter (.fallible (.parens .empty))
      ((Code.support ["validate"]).call [.selfMember "SCHEMA", .word "input"])

/-- The method that encodes the struct, field by field in order. -/
def encodingCode (unit : StructUnit) : Code :=
  let binding := if unit.fields.isEmpty then ["let", "output"] else ["let", "mut", "output"]
  .publicFunction "to_json" .borrowedSelf .jsonValue <|
    .words binding ++ .operator "=" ++ (Code.support ["serde_json", "Map", "new"]).call [] ++
      .semicolon ++ .concat (unit.fields.map (·.encode)) ++
      (Code.jsonVariant "Object").call [.word "output"]

/-- The implementation of `Clone`, which is written out since fields may hold values that are cloned
in their own way. -/
def cloneCode (unit : StructUnit) : Code :=
  let values := unit.fields.map fun field => Code.labelled (.word field.ident) field.clone
  .words ["impl", "Clone", "for", unit.name] ++
    .braces (.function [] "clone" .borrowedSelf .selfType (.selfLiteral (.separated values)))

/-- The schema and the functions of the struct. -/
def implementationCode (unit : StructUnit) : Code :=
  .implementation unit.name <|
    .docComment "Schema every decoded value is validated against." ++
      .words ["pub", "const", "SCHEMA"] ++ .operator ":" ++
      .borrow (.lifetime "static" ++ .word "str") ++ .operator "=" ++ .string unit.schema ++
      .semicolon ++ unit.constructorCode ++ .concat (unit.fields.map (·.accessorCode)) ++
      .concat (unit.fields.map (·.mutatorCode)) ++ unit.decodingCode ++ unit.encodingCode ++
      .concat unit.extensions.methods

/-- The struct with all its implementations. -/
def code (unit : StructUnit) : Code :=
  unit.definitionCode ++ unit.implementationCode ++ unit.cloneCode ++
    .concat unit.extensions.items

end StructUnit

namespace EnumUnit

/-- The name of the enum. -/
def name (unit : EnumUnit) : String := unit.path.name

/-- Encodes a literal. -/
def literalCode (literal : Json) : Code :=
  match literal with
  | .string text => (Code.jsonVariant "String").call [.ownedText text]
  | other =>
    match other.signed? with
    | some value => (Code.jsonVariant "from").call [.typedInteger value]
    | none => .jsonLiteral other

/-- The result of a lookup that has found a case. -/
def found (case : EnumCase) : Code := .some (.selfMember case.ident)

/-- Finds the case of the JSON value `value`. -/
def lookupCode (definition : EnumDefinition) : Code :=
  let fallback := Code.arm (.word "_") .none
  match definition.backing with
  | .string =>
    let arms := definition.cases.filterMap fun case =>
      case.literal.string?.map fun text => Code.arm (.string text) (found case)
    .matchOn (((Code.word "value").method "as_str" []).attempt) (arms ++ [fallback])
  | .integer =>
    let arms := definition.cases.filterMap fun case =>
      case.literal.signed?.map fun value => Code.arm (.integer value) (found case)
    .matchOn (((Code.word "value").method "as_i64" []).attempt) (arms ++ [fallback])
  | .mixed =>
    let sameLiteral :=
      Code.borrow ((Code.word "case").method "to_json" []) ++ .operator "==" ++ .word "value"
    (((Code.selfMember "ALL").method "into_iter" []).method "find"
      [.closure [.word "case"] sameLiteral])

/-- The constant with all cases, the lookups and the encoder. -/
def implementationCode (unit : EnumUnit) : Code :=
  let cases := unit.definition.cases
  let valueParameter := Code.labelled (.word "value") (.borrow .jsonValue)
  let message :=
    Code.word "format" ++ .operator "!" ++
      .parens (.separated
        [.string "\x7b\x7d \x7b\x7d", .word "value", .string s!"is not a valid {unit.name}"])
  let failure := (Code.support ["ValidationError", "new"]).call [message]
  .implementation unit.name <|
    .docComment "Every case, in declaration order." ++ .words ["pub", "const", "ALL"] ++
      .operator ":" ++
      .brackets (.selfType ++ .semicolon ++ .literal (toString cases.length ++ "usize")) ++
      .operator "=" ++ .brackets (.separated (cases.map fun case => .selfMember case.ident)) ++
      .semicolon ++
      .publicFunction "try_from_json" valueParameter ((Code.word "Option").applied [.selfType])
        (lookupCode unit.definition) ++
      .publicFunction "from_json" valueParameter (.fallible .selfType)
        (((Code.selfMember "try_from_json").call [.word "value"]).method "ok_or_else"
          [.operator "||" ++ failure]) ++
      .publicFunction "to_json" .borrowedSelf .jsonValue
        (.word "match" ++ .word "self" ++
          .braces (.separated (cases.map fun case =>
            .arm (.selfMember case.ident) (literalCode case.literal)))) ++
      .concat unit.extensions.methods

/-- The enum with its implementation. -/
def code (unit : EnumUnit) : Code :=
  let traits := ["Debug", "Clone", "Copy", "PartialEq", "Eq", "Hash"].map Code.word
  unit.docs.code ++ .allow "non_camel_case_types" ++ .derive (traits ++ unit.extensions.derives) ++
    .concat unit.extensions.attributes ++ .words ["pub", "enum", unit.name] ++
    .braces (.separated (unit.definition.cases.map fun case => .word case.ident)) ++
    unit.implementationCode ++ .concat unit.extensions.items

end EnumUnit

namespace UnionUnit

/-- The name of the union. -/
def name (unit : UnionUnit) : String := unit.path.name

/-- The variants in order, the one for all other input last. -/
def allVariants (unit : UnionUnit) : List VariantUnit := unit.variants ++ unit.fallback.toList

/-- `Ok(Self::Variant(decoded))`. -/
def decoded (variant : VariantUnit) : Code :=
  .ok ((Code.selfMember variant.ident).call [variant.decode])

/-- What is decoded when no condition holds. -/
def fallbackCode (unit : UnionUnit) : Code :=
  match unit.fallback with
  | some variant => decoded variant
  | none => .ok ((Code.selfMember "Unmatched").call [(Code.word "input").method "clone" []])

/-- Decodes input as a variant if the condition of the variant holds. -/
def branchCode (variant : VariantUnit) : Code :=
  .ifTrue variant.condition (.word "return" ++ decoded variant ++ .semicolon)

/-- Whether some condition holds. -/
def anyCondition : List VariantUnit → Code
  | [] => .word "false"
  | first :: rest =>
    rest.foldl (fun any variant => any ++ .operator "||" ++ variant.condition) first.condition

/-- The function that decodes input by its shape or by its key, and for shapes the test whether some
alternative accepts it. -/
def decodingCode (unit : UnionUnit) : Code :=
  let body := Code.concat (unit.variants.map branchCode) ++ unit.fallbackCode
  match unit.dispatch with
  | .alternatives =>
    .docComment "Decodes `input` as the first alternative whose shape accepts it." ++
      .allow "unused_variables" ++
      .publicFunction "build_from_input" (.terminated [.inputParameter, .validateParameter])
        (.fallible .selfType) body ++
      .docComment "Whether any alternative accepts `input`." ++
      .publicFunction "matches_input" .inputParameter (.word "bool") (anyCondition unit.variants)
  | .entries =>
    let key := Code.labelled (.word "key") (.borrow (.word "str"))
    .docComment
        "Decodes the value of map entry `key` as the first branch whose pattern matches the key." ++
      .allow "unused_variables" ++
      .publicFunction "build_from_entry"
        (.terminated [key, .inputParameter, .validateParameter]) (.fallible .selfType) body

/-- The method that encodes what a variant holds. -/
def encodingCode (unit : UnionUnit) : Code :=
  let arms := unit.allVariants.map fun variant =>
    Code.arm ((Code.selfMember variant.ident).call [.word "value"]) variant.encode
  let unmatched :=
    if unit.fallback.isNone then
      [Code.arm ((Code.selfMember "Unmatched").call [.word "value"])
        ((Code.word "value").method "clone" [])]
    else []
  .publicFunction "to_json" .borrowedSelf .jsonValue (.matchOn (.word "self") (arms ++ unmatched))

/-- The union with its implementation.  Without a variant for all other input, there is one that
keeps it. -/
def code (unit : UnionUnit) : Code :=
  let traits := ["Debug", "Clone", "PartialEq"].map Code.word
  let variants := unit.allVariants.map fun variant =>
    (Code.word variant.ident).call [variant.storage.code]
  let unmatched :=
    if unit.fallback.isNone then [(Code.word "Unmatched").call [.jsonValue]] else []
  unit.docs.code ++ .derive (traits ++ unit.extensions.derives) ++
    .concat unit.extensions.attributes ++ .words ["pub", "enum", unit.name] ++
    .braces (.terminated (variants ++ unmatched)) ++
    .implementation unit.name
      (unit.decodingCode ++ unit.encodingCode ++ .concat unit.extensions.methods) ++
    .concat unit.extensions.items

end UnionUnit

namespace TypeUnit

/-- The type as it is written to a file. -/
def code : TypeUnit → Code
  | .struct unit => unit.code
  | .enumeration unit => unit.code
  | .union unit => unit.code

end TypeUnit

namespace FileUnit

/-- The file: its submodules, then its types, then what hooks have added. -/
def code (file : FileUnit) : Code :=
  .concat (file.submodules.map fun name => .words ["pub", "mod", name] ++ .semicolon) ++
    .concat (file.types.map (·.code)) ++ .concat file.items

end FileUnit

end SchemaTypes
