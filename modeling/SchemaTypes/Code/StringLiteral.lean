import SchemaTypes.Code.Lexer

/-!
# Values of string literals

The text that a string literal spells, raw or with escapes.
-/

namespace SchemaTypes

namespace Lexer

/-- The number that hexadecimal digits stand for. -/
def hexValue (digits : List Char) : Nat :=
  digits.foldl (fun value c => value * 16 + (digitValue? c).getD 0) 0

/-- The characters between the quotes of a string with escapes. -/
def unescape : (fuel : Nat) → List Char → List Char
  | 0, _ => []
  | fuel + 1, chars =>
    match chars with
    | '\\' :: '\n' :: rest => unescape fuel (rest.dropWhile isBlank)
    | '\\' :: 'x' :: a :: b :: rest => Char.ofNat (hexValue [a, b]) :: unescape fuel rest
    | '\\' :: 'u' :: '\x7b' :: rest =>
      let digits := rest.takeWhile (· != '\x7d')
      Char.ofNat (hexValue (digits.filter isHexDigit)) ::
        unescape fuel (rest.drop (digits.length + 1))
    | '\\' :: 'n' :: rest => '\n' :: unescape fuel rest
    | '\\' :: 'r' :: rest => '\r' :: unescape fuel rest
    | '\\' :: 't' :: rest => '\t' :: unescape fuel rest
    | '\\' :: '0' :: rest => '\x00' :: unescape fuel rest
    | '\\' :: c :: rest => c :: unescape fuel rest
    | '\r' :: '\n' :: rest => '\n' :: unescape fuel rest
    | c :: rest => c :: unescape fuel rest
    | [] => []

/-- The text of a string literal from its opening quote on, up to its last quote. -/
def quotedText (chars : List Char) : List Char :=
  ((chars.drop 1).reverse.dropWhile (· != '"')).drop 1 |>.reverse

end Lexer

/-- The text that a string literal spells. -/
def Token.stringValue? : Token → Option String
  | .literal spelling =>
    match spelling.toList with
    | '"' :: rest =>
      let body := Lexer.quotedText ('"' :: rest)
      some (String.ofList (Lexer.unescape (body.length + 1) body))
    | 'r' :: rest =>
      match rest.dropWhile (· == '#') with
      | '"' :: body => some (String.ofList (Lexer.quotedText ('"' :: body)))
      | _ => none
    | _ => none
  | _ => none

end SchemaTypes
