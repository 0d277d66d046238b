import SchemaTypes.Name.EnumCase
import SchemaTypes.Schema.Keyword

/-!
# Enumerations

The literals of an `enum` keyword become the cases of a generated enumeration.  A literal that is
repeated counts once, and `null` gives no case: it makes the property nullable instead.
-/

namespace SchemaTypes

/-- What the literals of an enumeration are matched against. -/
inductive EnumBacking
  | string
  | integer
  /-- Strings and integers together, matched against the JSON value. -/
  | mixed
deriving DecidableEq, Repr, Inhabited

/-- A literal with the name of its case. -/
structure EnumCase where
  ident : String
  literal : Json
deriving Repr, Inhabited

/-- An enumeration: its cases in order, and what its lookup goes by. -/
structure EnumDefinition where
  backing : EnumBacking
  cases : List EnumCase
deriving Repr, Inhabited

/-- Why an `enum` keyword gives no enumeration. -/
inductive EnumFault
  | unsupportedLiteral (literal : String)
  | empty
  | disabled
deriving DecidableEq, Repr, Inhabited

/-- The fault as it is shown, without its place. -/
def EnumFault.message : EnumFault → String
  | .unsupportedLiteral literal => s!"enum literal {literal} is neither a string nor an integer"
  | .empty => "enum declares no literals"
  | .disabled => "enums are disabled for this generation run"

namespace EnumDefinition

/-- The case of a literal. -/
def caseFor? (definition : EnumDefinition) (literal : Json) : Option EnumCase :=
  definition.cases.find? fun case => case.literal == literal

/-- Each literal once, in order of first occurrence, without `null`. -/
def distinctLiterals (values : List Json) : List Json :=
  values.foldl
    (fun literals value =>
      if value.isNull || literals.any (· == value) then literals else literals ++ [value]) []

/-- Literals that can be cases: strings and signed integers of 64 bits. -/
def isSupportedLiteral (literal : Json) : Bool := literal.isString || literal.isSigned

/-- The backing that the declared type and the literals agree on; mixed when they do not. -/
def backingFor (declared : Option String) (literals : List Json) : EnumBacking :=
  let strings := literals.all Json.isString
  let integers := literals.all Json.isSigned
  match declared with
  | some "string" => if strings then .string else .mixed
  | some "integer" => if integers then .integer else .mixed
  | none => if strings then .string else if integers then .integer else .mixed
  | some _ => .mixed

/-- The enumeration that a schema with an `enum` keyword declares. -/
def ofSchema [Spelling] (schema : Json) (supported : Bool) : Except EnumFault EnumDefinition :=
  let literals := distinctLiterals (schema.enumValues?.getD [])
  if !supported then .error .disabled
  else if literals.isEmpty then .error .empty
  else
    match literals.find? fun literal => !isSupportedLiteral literal with
    | some literal => .error (.unsupportedLiteral literal.text)
    | none =>
      .ok {
        backing := backingFor schema.schemaType? literals
        cases := (Name.caseIdentifiers literals).zipWith EnumCase.mk literals }

end EnumDefinition

end SchemaTypes
