import SchemaTypes.Text.CaseFolding
import SchemaTypes.Text.CharacterRanges
import SchemaTypes.Text.Split

/-!
# Sets of characters

A set is known by its members.  The named sets are those of regular expressions: digits, blanks
and word characters, each for all of Unicode and for a schema, and the classes that are written
between `[:` and `:]`.
-/

namespace SchemaTypes

/-- A set of characters. -/
abbrev CharacterSet := Char → Bool

namespace CharacterSet

/-- No character. -/
def none : CharacterSet := fun _ => false

/-- One character. -/
def single (c : Char) : CharacterSet := (· == c)

/-- Both ends belong to it. -/
def range (first last : Char) : CharacterSet := fun c => first ≤ c && c ≤ last

/-- All characters but those of a set. -/
def complement (set : CharacterSet) : CharacterSet := fun c => !set c

/-- The characters of either set. -/
def union (a b : CharacterSet) : CharacterSet := fun c => a c || b c

/-- The characters of both sets. -/
def inter (a b : CharacterSet) : CharacterSet := fun c => a c && b c

/-- The characters of the first set that are not in the second one. -/
def without (a b : CharacterSet) : CharacterSet := fun c => a c && !b c

/-- Members of one of the two sets. -/
def either (a b : CharacterSet) : CharacterSet := fun c => a c != b c

/-- Characters of which a case variant belongs to the set. -/
def ignoringCase (set : CharacterSet) : CharacterSet := fun c => (Text.caseVariants c).any set

/-- The characters of a text. -/
def ofChars (text : String) : CharacterSet := text.toList.contains

/-! ## Digits, blanks and word characters -/

/-- Decimal digits in ASCII. -/
def asciiDigit : CharacterSet := range '0' '9'

/-- Characters of words in ASCII. -/
def asciiWord : CharacterSet := fun c => c.isAlphanum || c == '_'

/-- White space in ASCII. -/
def asciiBlank : CharacterSet := ofChars " \t\n\r\x0b\x0c"

/-- Decimal digits of all scripts. -/
def digit : CharacterSet := fun c =>
  asciiDigit c || Text.inRanges Text.decimalDigitRanges c.toNat

/-- Letters, marks, digits, connectors and joiners of all scripts. -/
def word : CharacterSet := fun c => asciiWord c || Text.inRanges Text.wordRanges c.toNat

/-- White space of any script. -/
def blank : CharacterSet := Text.isWhiteSpace

/-- Blanks as patterns of schemas know them. -/
def schemaBlank : CharacterSet := ofChars " \t\n\r\x0b\x0c\u00a0\ufeff\u2003\u2029"

/-! ## Letters -/

/-- Starts of identifiers that are letterlike numbers and signs. -/
def letterlikeRanges : List (Nat × Nat) :=
  [
    (0x16EE, 0x16F0), (0x1885, 0x1886), (0x2118, 0x2118), (0x212E, 0x212E), (0x2160, 0x2182),
    (0x2185, 0x2188), (0x3007, 0x3007), (0x3021, 0x3029), (0x3038, 0x303A), (0xA6E6, 0xA6EF),
    (0x10140, 0x10174), (0x10341, 0x10341), (0x1034A, 0x1034A), (0x103D1, 0x103D5),
    (0x12400, 0x1246E)
  ]

/-- Letters with which no identifier starts. -/
def unusualLetterRanges : List (Nat × Nat) :=
  [
    (0x037A, 0x037A), (0x0E33, 0x0E33), (0x0EB3, 0x0EB3), (0x2E2F, 0x2E2F), (0xFC5E, 0xFC63),
    (0xFDFA, 0xFDFB), (0xFE70, 0xFE70), (0xFE72, 0xFE72), (0xFE74, 0xFE74), (0xFE76, 0xFE76),
    (0xFE78, 0xFE78), (0xFE7A, 0xFE7A), (0xFE7C, 0xFE7C), (0xFE7E, 0xFE7E), (0xFF9E, 0xFF9F)
  ]

/-- Letters of any script, numbers that identifiers may begin with aside. -/
def letter : CharacterSet := fun c =>
  c.isAlpha || Text.inRanges unusualLetterRanges c.toNat ||
    (Text.inRanges Text.identifierStartRanges c.toNat &&
      !Text.inRanges letterlikeRanges c.toNat)

/-- Letters with a lower-case form. -/
def upperLetter : CharacterSet := fun c =>
  letter c && Text.foldCase c == c && (Text.caseVariants c).length > 1

/-- Letters with an upper-case form. -/
def lowerLetter : CharacterSet := fun c => letter c && Text.upperCase c != [c]

/-- Sets that are named by a property of their members. -/
def property? (name : String) : Option CharacterSet :=
  if name == "Any" then some fun _ => true
  else if name == "ASCII" then some (range '\x00' '\x7f')
  else if ["L", "Letter"].contains name then some letter
  else if ["Lu", "Uppercase_Letter"].contains name then some upperLetter
  else if ["Ll", "Lowercase_Letter"].contains name then some lowerLetter
  else if ["Nd", "Decimal_Number"].contains name then some digit
  else if ["White_Space", "wspace"].contains name then some blank
  else Option.none

/-! ## Classes with names -/

/-- The characters of a class that is named in double brackets. -/
def named? (name : String) : Option CharacterSet :=
  match name with
  | "alnum" => some Char.isAlphanum
  | "alpha" => some Char.isAlpha
  | "ascii" => some (range '\x00' '\x7f')
  | "blank" => some (ofChars " \t")
  | "cntrl" => some fun c => c.toNat < 0x20 || c.toNat == 0x7F
  | "digit" => some asciiDigit
  | "graph" => some (range '!' '~')
  | "lower" => some (range 'a' 'z')
  | "print" => some (range ' ' '~')
  | "punct" => some ((range '!' '~').without Char.isAlphanum)
  | "space" => some asciiBlank
  | "upper" => some (range 'A' 'Z')
  | "word" => some asciiWord
  | "xdigit" => some fun c => c.isDigit || range 'a' 'f' c || range 'A' 'F' c
  | _ => Option.none

end CharacterSet

end SchemaTypes
