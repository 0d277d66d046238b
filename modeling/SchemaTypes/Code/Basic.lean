import SchemaTypes.Number.Notation
import SchemaTypes.Code.Token
import SchemaTypes.Code.TypePath

/-!
# Building source code

`Code` is a piece of source text as tokens.  The functions of this module put pieces together the
way the language does: calls, method calls, closures, matches and so on.  They fix where operator
characters are joined, and nothing else is known about a piece.
-/

namespace SchemaTypes

/-- A piece of source text. -/
structure Code where
  tokens : List Token
deriving Repr, Inhabited

namespace Code

instance : Append Code := ⟨fun a b => ⟨a.tokens ++ b.tokens⟩⟩

/-- No tokens. -/
def empty : Code := ⟨[]⟩

/-- Whether there are no tokens. -/
def isEmpty (code : Code) : Bool := code.tokens.isEmpty

/-- The tokens as a text, with blanks where the printer of tokens sets them. -/
def text (code : Code) : String := Token.texts code.tokens

/-- Pieces one after the other, with nothing between them. -/
def concat (pieces : List Code) : Code := ⟨pieces.flatMap Code.tokens⟩

/-! ## Single tokens -/

/-- An identifier or a keyword. -/
def word (spelling : String) : Code := ⟨[.ident spelling]⟩

/-- Keywords and identifiers separated by blanks. -/
def words (spellings : List String) : Code := ⟨spellings.map .ident⟩

/-- An operator as one token for each character.  All but the last one are joined to what follows.
-/
def operatorTokens : List Char → List Token
  | [] => []
  | [c] => [.punct c .alone]
  | c :: rest => .punct c .joint :: operatorTokens rest

/-- An operator; its characters are joined. -/
def operator (spelling : String) : Code := ⟨operatorTokens spelling.toList⟩

/-- A literal as it is spelled. -/
def literal (spelling : String) : Code := ⟨[.literal spelling]⟩

/-- A string literal. -/
def string (text : String) : Code := ⟨[.string text]⟩

/-- A lifetime by its name. -/
def lifetime (name : String) : Code := ⟨[.punct '\'' .joint, .ident name]⟩

/-! ## Brackets and separators -/

/-- A piece in round brackets. -/
def parens (body : Code) : Code := ⟨[.group .parenthesis body.tokens]⟩

/-- A piece in square brackets. -/
def brackets (body : Code) : Code := ⟨[.group .bracket body.tokens]⟩

/-- A piece in braces. -/
def braces (body : Code) : Code := ⟨[.group .brace body.tokens]⟩

/-- A comma. -/
def comma : Code := operator ","

/-- A semicolon. -/
def semicolon : Code := operator ";"

/-- Pieces with commas between them. -/
def separated : List Code → Code
  | [] => empty
  | [piece] => piece
  | piece :: rest => piece ++ comma ++ separated rest

/-- Pieces with a comma after each. -/
def terminated (pieces : List Code) : Code := concat (pieces.map (· ++ comma))

/-! ## Paths and types -/

/-- Segments with double colons between them. -/
def path : List String → Code
  | [] => empty
  | [segment] => word segment
  | segment :: rest => word segment ++ operator "::" ++ path rest

/-- A path that starts at an external package. -/
def externalPath (segments : List String) : Code := operator "::" ++ path segments

/-- The path of a type. -/
def ofTypePath (type : TypePath) : Code := path (type.modules ++ [type.name])

/-- An associated item of a type. -/
def member (type : Code) (name : String) : Code := type ++ operator "::" ++ word name

/-- A type with arguments. -/
def applied (type : Code) (arguments : List Code) : Code :=
  type ++ operator "<" ++ separated arguments ++ operator ">"

/-- A borrowed place or type. -/
def borrow (place : Code) : Code := operator "&" ++ place

/-! ## Expressions -/

/-- `function(arguments)`. -/
def call (function : Code) (arguments : List Code) : Code :=
  function ++ parens (separated arguments)

/-- `receiver.field`. -/
def field (receiver : Code) (name : String) : Code := receiver ++ operator "." ++ word name

/-- `receiver.name(arguments)`. -/
def method (receiver : Code) (name : String) (arguments : List Code) : Code :=
  (receiver.field name).call arguments

/-- `result?`. -/
def attempt (result : Code) : Code := result ++ operator "?"

/-- `Some(value)`. -/
def some (value : Code) : Code := (word "Some").call [value]

/-- `None`. -/
def none : Code := word "None"

/-- `Ok(value)`. -/
def ok (value : Code) : Code := (word "Ok").call [value]

/-- `|parameters| body`. -/
def closure (parameters : List Code) (body : Code) : Code :=
  operator "|" ++ separated parameters ++ operator "|" ++ body

/-- `pattern => body`. -/
def arm (pattern body : Code) : Code := pattern ++ operator "=>" ++ body

/-- `match scrutinee { arms }` with a comma after each arm. -/
def matchOn (scrutinee : Code) (arms : List Code) : Code :=
  word "match" ++ scrutinee ++ braces (terminated arms)

/-- `if condition { body }`. -/
def ifTrue (condition body : Code) : Code := word "if" ++ condition ++ braces body

/-- `name: value`. -/
def labelled (name value : Code) : Code := name ++ operator ":" ++ value

/-! ## Attributes -/

/-- `#[content]`. -/
def outerAttribute (content : Code) : Code := operator "#" ++ brackets content

/-- A documentation line. -/
def docLine (line : String) : Code := outerAttribute (word "doc" ++ operator "=" ++ string line)

/-- A documentation line of generated code itself, spelled as a raw string. -/
def docComment (line : String) : Code :=
  outerAttribute (word "doc" ++ operator "=" ++ literal ("r\" " ++ line ++ "\""))

/-! ## Numbers -/

/-- An integer without a type suffix; a minus stands apart. -/
def integer (value : Int) : Code :=
  if value < 0 then operator "-" ++ literal (toString value.natAbs)
  else literal (toString value.natAbs)

/-- An integer with the suffix of a signed integer of 64 bits, the least one by its name. -/
def typedInteger (value : Int) : Code :=
  if value == -0x8000000000000000 then path ["i64", "MIN"]
  else if value < 0 then operator "-" ++ literal (toString value.natAbs ++ "i64")
  else literal (toString value.natAbs ++ "i64")

/-- A floating-point number in positional notation. -/
def float (value : Binary64) : Code :=
  let magnitude := literal value.abs.pointedText
  if value.negative then operator "-" ++ magnitude else magnitude

end Code

end SchemaTypes
