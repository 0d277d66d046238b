import SchemaTypes.Property.Shape

/-!
# Defaults

The `default` of a schema as a value of the generated code.  `Property.defaultValue?` reads a JSON
literal as a value of the property's type; there is none when the literal does not fit the type or
the type has no literals.
-/

namespace SchemaTypes

/-- A constant of the generated code. -/
inductive DefaultValue
  | bool (value : Bool)
  | integer (value : Int)
  /-- A number held as an integer. -/
  | integerNumber (value : Int)
  /-- A number held as a double. -/
  | floatNumber (value : Binary64)
  | text (value : String)
  | list (items : List DefaultValue)
  | map (entries : List (String × DefaultValue))
  | enumCase (path : TypePath) (ident : String)
  | absent
  | present (value : DefaultValue)
  /-- An untyped JSON value. -/
  | json (value : Json)
deriving Repr, Inhabited

namespace Code

/-- A JSON number: integers without a suffix, other numbers in positional notation. -/
def ofJsonNumber : JsonNumber → Code
  | .integer value => integer value
  | .float value => float value

mutual

/-- A JSON value as the tokens from which it is rebuilt. -/
def ofJson : Json → Code
  | .null => word "null"
  | .bool value => word (if value then "true" else "false")
  | .number value => ofJsonNumber value
  | .string value => string value
  | .array items => brackets (separated (ofJsonItems items))
  | .object members => braces (separated (ofJsonMembers members))

/-- The items of an array, each as source code. -/
def ofJsonItems : List Json → List Code
  | [] => []
  | item :: rest => ofJson item :: ofJsonItems rest

/-- The members of an object, each as a key with source code. -/
def ofJsonMembers : List (String × Json) → List Code
  | [] => []
  | (key, value) :: rest => labelled (string key) (ofJson value) :: ofJsonMembers rest

end

/-- The expression that rebuilds a JSON value. -/
def jsonLiteral (value : Json) : Code :=
  support ["serde_json", "json"] ++ operator "!" ++ parens (ofJson value)

/-- An owned string. -/
def ownedText (value : String) : Code := (string value).method "to_owned" []

end Code

namespace DefaultValue

mutual

/-- The constant as an expression of its type. -/
def code : DefaultValue → Code
  | .bool value => .word (if value then "true" else "false")
  | .integer value => .integer value
  | .integerNumber value => (Code.support ["Number", "Integer"]).call [.integer value]
  | .floatNumber value => (Code.support ["Number", "Float"]).call [.float value]
  | .text value => .ownedText value
  | .list items => Code.word "vec" ++ .operator "!" ++ .brackets (.separated (itemCodes items))
  | .map entries =>
    (Code.support ["Map", "from_iter"]).call [.brackets (.separated (entryCodes entries))]
  | .enumCase path ident => (Code.ofTypePath path).member ident
  | .absent => .none
  | .present value => .some value.code
  | .json value => .jsonLiteral value

/-- The items of a list, each as an expression. -/
def itemCodes : List DefaultValue → List Code
  | [] => []
  | item :: rest => item.code :: itemCodes rest

/-- The entries of a map, each as a pair. -/
def entryCodes : List (String × DefaultValue) → List Code
  | [] => []
  | (key, value) :: rest =>
    .parens (.separated [.ownedText key, value.code]) :: entryCodes rest

end

end DefaultValue

namespace ScalarKind

/-- A literal as a scalar. -/
def defaultValue? (kind : ScalarKind) (literal : Json) : Option DefaultValue :=
  match kind with
  | .bool => literal.bool?.map .bool
  | .integer => literal.signed?.map .integer
  | .number =>
    literal.number?.map fun number =>
      match number.signed? with
      | some value => .integerNumber value
      | none => .floatNumber number.toBinary64
  | .string => literal.string?.map .text
  | .dateTime => none

end ScalarKind

namespace Container

/-- Reads all items of a literal of the container's shape. -/
def defaultValue? (container : Container) (item : Json → Option DefaultValue) (literal : Json) :
    Option DefaultValue :=
  match container, literal with
  | .list, .array items => (items.mapM item).map .list
  | .map, .object members =>
    (members.mapM fun member => (item member.2).map (member.1, ·)).map .map
  | _, _ => none

end Container

namespace ReferencedType

/-- A literal as a value of a referenced type. -/
def defaultValue? (target : ReferencedType) (literal : Json) : Option DefaultValue :=
  match target with
  | .struct _ _ => none
  | .enumeration path definition =>
    (definition.caseFor? literal).map fun case => .enumCase path case.ident
  | .unknown _ => some (.json literal)

end ReferencedType

namespace Property

/-- A literal as a value of the property's type. -/
def defaultValue? : Property → Json → Option DefaultValue
  | .scalar kind, literal => kind.defaultValue? literal
  | .collection .object _ _, _ => none
  | .collection _ container item, literal => container.defaultValue? item.defaultValue? literal
  | .reference target, literal => target.defaultValue? literal
  | .enumeration target, literal =>
    (target.definition.caseFor? literal).map fun case => .enumCase target.path case.ident
  | .nullable inner, literal =>
    if literal.isNull then some .absent else (inner.defaultValue? literal).map .present
  | .mixed, literal => some (.json literal)
  | _, _ => none

end Property

end SchemaTypes
