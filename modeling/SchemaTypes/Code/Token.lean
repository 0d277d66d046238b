import SchemaTypes.Text.Printable

/-!
# Tokens of source text

Generated code is built as a list of token trees and turned into text at the very end.

## Main definitions

* `Token`: an identifier, a punctuation character, a literal, or a group in brackets.
* `Token.texts`: the token text, in which tokens are separated by one blank except after a
  punctuation character that is joined to the next one.
* `Token.identifiers`: the identifiers in a list of tokens.
-/

namespace SchemaTypes

/-- Whether a punctuation character forms one operator with the next character. -/
inductive Spacing
  | alone
  | joint
deriving DecidableEq, Repr, Inhabited

/-- The brackets that a group of tokens stands in. -/
inductive Delimiter
  | parenthesis
  | bracket
  | brace
deriving DecidableEq, Repr, Inhabited

/-- A token of source code; what stands in brackets is one token. -/
inductive Token
  /-- An identifier as it is spelled, a raw one with its `r#`. -/
  | ident (spelling : String)
  | punct (char : Char) (spacing : Spacing)
  /-- A literal as it is spelled. -/
  | literal (spelling : String)
  | group (delimiter : Delimiter) (body : List Token)
deriving Repr, Inhabited

namespace Token

/-! ## Token text -/

/-- Whether the next token belongs to the same operator. -/
def isJoint : Token → Bool
  | .punct _ .joint => true
  | _ => false

mutual

/-- The text of one token.  Braces have blanks inside, other brackets have none. -/
def text : Token → String
  | .ident spelling => spelling
  | .punct char _ => String.ofList [char]
  | .literal spelling => spelling
  | .group .parenthesis body => "(" ++ texts body ++ ")"
  | .group .bracket body => "[" ++ texts body ++ "]"
  | .group .brace [] => "\x7b \x7d"
  | .group .brace (first :: rest) => "\x7b " ++ texts (first :: rest) ++ " \x7d"

/-- The text of a list of tokens. -/
def texts : List Token → String
  | [] => ""
  | [token] => text token
  | token :: next :: rest =>
    text token ++ (if token.isJoint then "" else " ") ++ texts (next :: rest)

end

/-! ## Identifiers -/

mutual

/-- The identifiers of a token, those of a group in their order. -/
def identifiersIn : Token → List String
  | .ident spelling => [spelling]
  | .group _ body => identifiers body
  | _ => []

/-- All identifiers, from left to right. -/
def identifiers : List Token → List String
  | [] => []
  | token :: rest => identifiersIn token ++ identifiers rest

end

/-- Whether a character may begin an identifier. -/
def isIdentifierStart (c : Char) : Bool :=
  c == '_' || c.isAlpha || (c.toNat ≥ 0x80 && Text.inRanges Text.identifierStartRanges c.toNat)

/-- Whether a character may stand behind the first one of an identifier. -/
def isIdentifierContinue (c : Char) : Bool :=
  c == '_' || c.isAlphanum ||
    (c.toNat ≥ 0x80 && Text.inRanges Text.identifierContinueRanges c.toNat)

/-- An identifier without the mark of raw identifiers: a start character and further ones. -/
def isPlainIdentifier (chars : List Char) : Bool :=
  match chars with
  | [] => false
  | first :: rest => isIdentifierStart first && rest.all isIdentifierContinue

/-- Words that have no raw form. -/
def neverRaw : List String := ["_", "super", "self", "Self", "crate"]

/-- Whether a spelling is an identifier.  A keyword is one; a raw identifier must not be one of the
words without a raw form. -/
def isIdentifier (spelling : String) : Bool :=
  match spelling.toList with
  | 'r' :: '#' :: rest => isPlainIdentifier rest && !neverRaw.contains (String.ofList rest)
  | chars => isPlainIdentifier chars

/-- The first spelling in identifier position that is no identifier. -/
def badIdentifier? (tokens : List Token) : Option String :=
  (identifiers tokens).find? fun spelling => !isIdentifier spelling

end Token

/-! ## Literals -/

namespace Token

/-- A number in hexadecimal digits, as escapes show it. -/
def hexDigits (code : Nat) : List Char := Nat.toDigits 16 code

/-- The escaped form of a character of a string literal; `next` is the character after it. -/
def escapeChar (c : Char) (next : Option Char) : List Char :=
  match c with
  | '\x00' =>
    match next with
    | some d => if '0' ≤ d && d ≤ '7' then ['\\', 'x', '0', '0'] else ['\\', '0']
    | none => ['\\', '0']
  | '\t' => ['\\', 't']
  | '\r' => ['\\', 'r']
  | '\n' => ['\\', 'n']
  | '"' => ['\\', '"']
  | '\\' => ['\\', '\\']
  | c => if Text.isShown c then [c] else '\\' :: 'u' :: '\x7b' :: hexDigits c.toNat ++ ['\x7d']

/-- Escapes characters for a string literal; each escape may depend on the character after it. -/
def escapeChars : List Char → List Char
  | [] => []
  | c :: rest => escapeChar c rest.head? ++ escapeChars rest

/-- A string literal. -/
def string (text : String) : Token :=
  .literal (String.ofList ('"' :: escapeChars text.toList ++ ['"']))

end Token

end SchemaTypes
