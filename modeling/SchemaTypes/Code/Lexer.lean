import SchemaTypes.Code.Token
import SchemaTypes.Text.Split

/-!
# Reading tokens

`Token.read?` cuts source text into token trees.  There are none when brackets or quotes do not
match, or when a character starts no token.

Every rule for a class of tokens takes the characters from the start of the token on and gives
those after its end.
-/

namespace SchemaTypes

namespace Lexer

/-- The characters after a token, if the rule for its class applies. -/
abbrev Rule := List Char → Option (List Char)

/-- Drops what `start` spells. -/
def dropStart? (start : String) (chars : List Char) : Option (List Char) :=
  if start.toList.isPrefixOf chars then some (chars.drop start.length) else none

/-- Whether the characters begin with a text. -/
def startsWith (start : String) (chars : List Char) : Bool := start.toList.isPrefixOf chars

/-- The first alternative that applies. -/
def firstOf (rules : List Rule) (chars : List Char) : Option (List Char) :=
  rules.findSome? fun rule => rule chars

/-! ## Blanks and comments -/

/-- White space between tokens; the two marks of writing direction count as well. -/
def isBlank (c : Char) : Bool := Text.isWhiteSpace c || c == '\u200e' || c == '\u200f'

/-- The text after a block comment; `depth` comments are open. -/
def skipBlockComment : (fuel depth : Nat) → Rule
  | 0, _, _ => none
  | _, 0, chars => some chars
  | fuel + 1, depth + 1, chars =>
    match chars with
    | [] => none
    | '*' :: '/' :: rest => skipBlockComment fuel depth rest
    | '/' :: '*' :: rest => skipBlockComment fuel (depth + 2) rest
    | _ :: rest => skipBlockComment fuel (depth + 1) rest

/-- A comment that documents what follows. -/
def isDocComment (chars : List Char) : Bool :=
  startsWith "//!" chars || startsWith "/*!" chars ||
    (startsWith "///" chars && !startsWith "////" chars) ||
    (startsWith "/**" chars && !startsWith "/***" chars && !startsWith "/**/" chars)

/-- The text after one blank or one comment that documents nothing. -/
def skipBlank : Rule
  | [] => none
  | c :: rest =>
    if isBlank c then some rest
    else if isDocComment (c :: rest) then none
    else if startsWith "//" (c :: rest) then some (rest.dropWhile (· != '\n'))
    else if startsWith "/*" (c :: rest) then skipBlockComment (rest.length + 1) 1 (rest.drop 1)
    else none

/-! ## Identifiers -/

/-- An identifier without the mark of raw ones. -/
def plainIdentifier : Rule
  | [] => none
  | c :: rest =>
    if Token.isIdentifierStart c then some (rest.dropWhile Token.isIdentifierContinue) else none

/-- What was read between two positions. -/
def between (chars rest : List Char) : String :=
  String.ofList (chars.take (chars.length - rest.length))

/-- Takes an identifier or a keyword.  Some words have no raw form. -/
def anyIdentifier (chars : List Char) : Option (List Char) :=
  match dropStart? "r#" chars with
  | some raw =>
    (plainIdentifier raw).filter fun rest => !Token.neverRaw.contains (between raw rest)
  | none => plainIdentifier chars

/-- Beginnings of literals that look like identifiers. -/
def literalStarts : List String :=
  ["r\"", "r#\"", "r##", "b\"", "b'", "br\"", "br#", "c\"", "cr\"", "cr#"]

/-- Takes an identifier that does not begin a literal with a prefix. -/
def identifier (chars : List Char) : Option (List Char) :=
  if literalStarts.any (startsWith · chars) then none else anyIdentifier chars

/-! ## Text literals -/

/-- A hexadecimal digit of either case. -/
def isHexDigit (c : Char) : Bool :=
  c.isDigit || ('a' ≤ c && c ≤ 'f') || ('A' ≤ c && c ≤ 'F')

/-- The text after an escape, from behind its backslash.  With `unicode` the escape may name a
code point; without, it is a byte. -/
def escape (unicode : Bool) : Rule
  | 'x' :: a :: b :: rest =>
    if isHexDigit a && isHexDigit b && (!unicode || ('0' ≤ a && a ≤ '7')) then some rest else none
  | 'u' :: '\x7b' :: rest =>
    let digits := rest.takeWhile fun c => isHexDigit c || c == '_'
    let count := (digits.filter isHexDigit).length
    match rest.drop digits.length with
    | '\x7d' :: rest => if unicode && 0 < count && count ≤ 6 then some rest else none
    | _ => none
  | c :: rest => if "nrt\\'\"0".toList.contains c then some rest else none
  | [] => none

/-- The text after a string, from behind its opening quote. -/
def quoted (unicode : Bool) : (fuel : Nat) → Rule
  | 0, _ => none
  | fuel + 1, chars =>
    match chars with
    | [] => none
    | '"' :: rest => some rest
    | '\r' :: '\n' :: rest => quoted unicode fuel rest
    | '\r' :: _ => none
    | '\\' :: '\n' :: rest => quoted unicode fuel (rest.dropWhile isBlank)
    | '\\' :: rest => (escape unicode rest).bind (quoted unicode fuel)
    | c :: rest => if unicode || c.toNat < 0x80 then quoted unicode fuel rest else none

/-- The text after a raw string that ends in a quote and `count` signs. -/
def rawUntil (count : Nat) : Rule
  | [] => none
  | c :: rest =>
    if c == '"' && (rest.take count).length == count && (rest.take count).all (· == '#') then
      some (rest.drop count)
    else rawUntil count rest

/-- A raw string from behind its `r`. -/
def rawString (chars : List Char) : Option (List Char) :=
  let signs := chars.takeWhile (· == '#')
  match chars.drop signs.length with
  | '"' :: rest => rawUntil signs.length rest
  | _ => none

/-- A suffix of a literal, if there is one. -/
def withSuffix (rest : List Char) : List Char := (plainIdentifier rest).getD rest

/-- Takes the rest of a quoted text, from behind its opening quote. -/
def quotedFrom (unicode : Bool) (chars : List Char) : Option (List Char) :=
  quoted unicode (chars.length + 1) chars

/-- A text in quotes, with the prefix of bytes or of texts for C, and raw or not. -/
def textLiteral : Rule :=
  firstOf [
    fun chars => (dropStart? "\"" chars).bind (quotedFrom true),
    fun chars => (dropStart? "r" chars).bind rawString,
    fun chars => (dropStart? "b\"" chars).bind (quotedFrom false),
    fun chars => (dropStart? "br" chars).bind rawString,
    fun chars => (dropStart? "c\"" chars).bind (quotedFrom true),
    fun chars => (dropStart? "cr" chars).bind rawString]

/-- The text after a quoted character, from behind its opening quote. -/
def characterBody (unicode : Bool) (chars : List Char) : Option (List Char) :=
  let body :=
    match chars with
    | '\\' :: rest => escape unicode rest
    | [] => none
    | _ :: rest => some rest
  match body with
  | some ('\'' :: rest) => some rest
  | _ => none

/-- A character or a byte in single quotes. -/
def characterLiteral : Rule :=
  firstOf [
    fun chars => (dropStart? "b'" chars).bind (characterBody false),
    fun chars => (dropStart? "'" chars).bind (characterBody true)]

/-! ## Number literals -/

/-- A word must not go on after a number. -/
def wordBreak (chars : List Char) : Option (List Char) :=
  match chars with
  | c :: _ => if Token.isIdentifierContinue c then none else some chars
  | [] => some chars

/-- A decimal digit, or the underscore that may stand between digits. -/
def isDecimal (c : Char) : Bool := c.isDigit || c == '_'

/-- The digits of an exponent behind its letter; a sign may come first. -/
def exponentDigits (chars : List Char) : Option (List Char) :=
  let signless :=
    match chars with
    | '+' :: rest => rest
    | '-' :: rest => rest
    | _ => chars
  let digits := signless.takeWhile isDecimal
  if digits.any Char.isDigit then some (signless.drop digits.length) else none

/-- Takes the mark of an exponent. -/
def exponent? (chars : List Char) : Option (List Char) :=
  match chars with
  | 'e' :: rest => some rest
  | 'E' :: rest => some rest
  | _ => none

/-- The digits of a number with a point or an exponent. -/
def floatDigits (chars : List Char) : Option (List Char) :=
  if !chars.head?.any Char.isDigit then none
  else
    match chars.dropWhile isDecimal with
    | '.' :: rest =>
      if rest.head?.any (fun c => c == '.' || Token.isIdentifierStart c) then none
      else
        let fraction := rest.dropWhile isDecimal
        some (((exponent? fraction).bind exponentDigits).getD fraction)
    | rest => (exponent? rest).bind exponentDigits

/-- The value of a digit in bases up to sixteen. -/
def digitValue? (c : Char) : Option Nat :=
  if c.isDigit then some (c.toNat - 48)
  else if 'a' ≤ c && c ≤ 'f' then some (c.toNat - 87)
  else if 'A' ≤ c && c ≤ 'F' then some (c.toNat - 55)
  else none

/-- The base of an integer and its characters behind the mark of the base. -/
def integerBase (chars : List Char) : Nat × List Char :=
  match chars with
  | '0' :: 'x' :: rest => (16, rest)
  | '0' :: 'o' :: rest => (8, rest)
  | '0' :: 'b' :: rest => (2, rest)
  | _ => (10, chars)

/-- Takes the digits of an integer in its base.  At least one of them is no underscore, and no digit
beyond the base follows. -/
def integerDigits (chars : List Char) : Option (List Char) :=
  let (base, chars) := integerBase chars
  let inBase := fun c =>
    match digitValue? c with
    | some value => value < base
    | none => c == '_'
  let digits := chars.takeWhile inBase
  let rest := chars.drop digits.length
  let begins := digits.head?.any fun c => base != 10 || c != '_'
  if !begins || !digits.any (· != '_') || rest.head?.any Char.isDigit then none else some rest

/-- A number, floating-point numbers first since they begin like integers. -/
def numberLiteral : Rule :=
  firstOf [
    fun chars => (floatDigits chars).bind fun rest => wordBreak (withSuffix rest),
    fun chars => (integerDigits chars).bind fun rest => wordBreak (withSuffix rest)]

/-- A literal of any kind with its suffix. -/
def literal : Rule :=
  firstOf [
    fun chars => (textLiteral chars).map withSuffix,
    fun chars => (characterLiteral chars).map withSuffix,
    numberLiteral]

/-! ## Punctuation -/

/-- The characters that operators are made of. -/
def punctuation : List Char := "~!@#$%^&*-=+|;:,<.>/?'".toList

/-- The next character, if it is one of an operator and does not open a comment. -/
def punctuationChar? (chars : List Char) : Option Char :=
  if startsWith "//" chars || startsWith "/*" chars then none
  else chars.head?.filter punctuation.contains

/-- A punctuation character.  The mark of a lifetime is one, when no closing quote follows. -/
def punctuationMark? (chars : List Char) : Option Token := do
  let c ← punctuationChar? chars
  let rest := chars.drop 1
  if c == '\'' then
    let after ← anyIdentifier rest
    if after.head? == some '\'' || (after.head? == some '#' && !startsWith "r#" rest) then none
    else some (.punct c .joint)
  else some (.punct c (if (punctuationChar? rest).isSome then .joint else .alone))

/-! ## Token trees -/

/-- The bracket that a character opens. -/
def opening? : Char → Option Delimiter
  | '(' => some .parenthesis
  | '[' => some .bracket
  | '\x7b' => some .brace
  | _ => none

/-- The bracket that a character closes. -/
def closing? : Char → Option Delimiter
  | ')' => some .parenthesis
  | ']' => some .bracket
  | '\x7d' => some .brace
  | _ => none

/-- The token for a comment that documents what follows, as an attribute. -/
def docAttribute (inner : Bool) (text : String) : List Token :=
  .punct '#' .alone :: (if inner then [.punct '!' .alone] else []) ++
    [.group .bracket [.ident "doc", .punct '=' .alone, .string text]]

/-- A documentation comment and the text after it. -/
def docComment? (chars : List Char) : Option (List Token × List Char) :=
  if !isDocComment chars then none
  else
    let inner := chars[2]? == some '!'
    let body := chars.drop 3
    if chars[1]? == some '/' then
      let line := body.takeWhile (· != '\n')
      some (docAttribute inner (String.ofList line), body.drop line.length)
    else do
      let rest ← skipBlockComment (body.length + 1) 1 body
      let text := body.take (body.length - rest.length - 2)
      some (docAttribute inner (String.ofList text), rest)

/-- One token that is no bracket, and the text after it. -/
def leaf? (chars : List Char) : Option (Token × List Char) :=
  match literal chars with
  | some rest => some (.literal (between chars rest), rest)
  | none =>
    match punctuationMark? chars with
    | some mark => some (mark, chars.drop 1)
    | none => (identifier chars).map fun rest => (.ident (between chars rest), rest)

/-- Reads all tokens.  `tokens` holds those of the innermost open bracket, last one first, and
`outer` those of the brackets around it. -/
def readAll : (fuel : Nat) → (outer : List (Delimiter × List Token)) → (tokens : List Token) →
    List Char → Option (List Token)
  | 0, _, _, _ => none
  | _ + 1, [], tokens, [] => some tokens.reverse
  | _ + 1, _ :: _, _, [] => none
  | fuel + 1, outer, tokens, c :: rest =>
    match skipBlank (c :: rest) with
    | some rest => readAll fuel outer tokens rest
    | none =>
      match docComment? (c :: rest) with
      | some (comment, rest) => readAll fuel outer (comment.reverse ++ tokens) rest
      | none =>
        match opening? c, closing? c, outer with
        | some delimiter, _, _ => readAll fuel ((delimiter, tokens) :: outer) [] rest
        | _, some closed, (opened, before) :: outer =>
          if opened == closed then readAll fuel outer (.group opened tokens.reverse :: before) rest
          else none
        | _, some _, [] => none
        | none, none, _ =>
          match leaf? (c :: rest) with
          | some (token, rest) => readAll fuel outer (token :: tokens) rest
          | none => none

end Lexer

/-- The tokens of a source text. -/
def Token.read? (text : String) : Option (List Token) :=
  let chars := text.toList
  Lexer.readAll (chars.length + 1) [] [] chars

end SchemaTypes
