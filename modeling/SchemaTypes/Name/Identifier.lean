import SchemaTypes.Name.Words
import SchemaTypes.Text.Split

/-!
# Identifiers of generated code

How names of a schema become identifiers: types are written in Pascal case, fields and modules in
snake case.  A field name that is a keyword becomes a raw identifier, written with `r#` in front.
-/

namespace SchemaTypes.Name

/-- Words that cannot be used as plain identifiers. -/
def forbiddenWords : List String :=
  ["as", "break", "const", "continue", "crate", "else", "enum", "extern", "false", "fn", "for",
    "if", "impl", "in", "let", "loop", "match", "mod", "move", "mut", "pub", "ref", "return",
    "static", "struct", "super", "trait", "true", "type", "unsafe", "use", "where", "while",
    "async", "await", "dyn", "try", "abstract", "become", "box", "do", "final", "macro",
    "override", "priv", "typeof", "unsized", "virtual", "yield", "gen", "self", "Self"]

/-- Names of types that generated code relies on and a schema type must not shadow. -/
def reservedTypeNames : List String :=
  ["Self", "Option", "Result", "String", "Vec", "Value", "Clone", "Default"]

/-- Puts `mark` in front of a name that starts with a digit. -/
def markLeadingDigit (mark : Char) (name : List Char) : List Char :=
  if nextIs Char.isDigit name then mark :: name else name

/-! ## Type names -/

/-- Makes a type identifier of letters and digits: never empty, never starting with a digit,
never a reserved name. -/
def finishTypeName (name : List Char) : String :=
  if name.isEmpty then "Unnamed"
  else
    let marked := String.ofList (markLeadingDigit 'T' name)
    if reservedTypeNames.contains marked then marked ++ "Type" else marked

/-- The characters that set off the words of a type name. -/
def isTypeNameSeparator (c : Char) : Bool :=
  c == '-' || c == '_' || c == '.' || c == ' ' || c == '/'

section

variable (spell : List Char → List Char)

/-- Name of the type for the property `key` of the type `parent`, with the key written in ASCII by
`spell`. -/
def typeNameForBy (parent key suffix : String) : String :=
  finishTypeName (parent.toList ++ capitalize (camelCaseBy spell key.toList) ++ suffix.toList)

/-- The letters and digits of a free-form name in Pascal case, after `spell` has written it in
ASCII.  A name without separators that mixes capital and small letters keeps its capitals. -/
def titleBy (name : String) : List Char :=
  let chars := name.toList
  let mixed :=
    !chars.any isTypeNameSeparator && chars.any Char.isUpper && chars.any Char.isLower
  let ascii := spell chars
  if mixed then capitalize (ascii.filter isAlphanumeric)
  else (capitalizeWords ascii).filter isAlphanumeric

/-- A free-form name as a type name, with the name written in ASCII by `spell`. -/
def typeNameBy (name : String) : String := finishTypeName (titleBy spell name)

end

/-- Name of the type for the property `key` of the type `parent`. -/
def typeNameFor [Spelling] (parent key suffix : String) : String :=
  typeNameForBy Spelling.ascii parent key suffix

/-- A free-form name as a type name. -/
def typeName [Spelling] (name : String) : String := typeNameBy Spelling.ascii name

/-! ## Field and module names -/

section

variable (spell snake : List Char → List Char)

/-- A key as a field name, with the key written in ASCII by `spell` and its words separated by
`snake`.  A leading minus is spelled out, a keyword becomes a raw identifier, and a key without
letters or digits gives `_`. -/
def fieldNameBy (key : String) : String :=
  let chars := key.toList
  let negative := nextIs (· == '-') chars
  let base := snake (sanitizeBy spell (if negative then chars.drop 1 else chars))
  if base.isEmpty then "_"
  else
    let name := if negative then "negative_".toList ++ base else base
    let spelled := String.ofList name
    if spelled == "self" then "self_"
    else if forbiddenWords.contains spelled then "r#" ++ spelled
    else String.ofList (markLeadingDigit '_' name)

/-- A namespace segment as a module name. -/
def moduleNameBy (segment : String) : String :=
  let name := fieldNameBy spell snake segment
  if name == "_" then "unnamed" else name

end

/-- A key as a field name. -/
def fieldName [Spelling] (key : String) : String :=
  fieldNameBy Spelling.ascii Spelling.snake key

/-- A namespace segment as a module name. -/
def moduleName [Spelling] (segment : String) : String :=
  moduleNameBy Spelling.ascii Spelling.snake segment

/-- An identifier without the mark of raw identifiers. -/
def bare (identifier : String) : String := (Text.dropStart? identifier "r#").getD identifier

end SchemaTypes.Name
