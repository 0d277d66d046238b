/-!
# Cutting text

Pieces between separators, lines, and blanks at the ends of a text.
-/

namespace SchemaTypes.Text

/-- The pieces between occurrences of a separator; there is always at least one. -/
def pieces (separator : Char) : List Char → List (List Char)
  | [] => [[]]
  | c :: rest =>
    if c == separator then [] :: pieces separator rest
    else
      match pieces separator rest with
      | [] => [[c]]
      | piece :: more => (c :: piece) :: more

/-- The pieces of a text between occurrences of a separator. -/
def split (separator : Char) (text : String) : List String :=
  (pieces separator text.toList).map String.ofList

/-- The pieces between occurrences of the two characters `first second`. -/
def piecesAtPair (first second : Char) : List Char → List (List Char)
  | [] => [[]]
  | [c] => [[c]]
  | c :: d :: rest =>
    if c == first && d == second then [] :: piecesAtPair first second rest
    else
      match piecesAtPair first second (d :: rest) with
      | [] => [[c]]
      | piece :: more => (c :: piece) :: more

/-- The text before and after the first occurrence of a separator. -/
def splitOnce? (separator : Char) (text : String) : Option (String × String) :=
  let chars := text.toList
  let before := chars.takeWhile (· != separator)
  match chars.drop before.length with
  | [] => none
  | _ :: after => some (String.ofList before, String.ofList after)

/-- White space in the sense of Unicode. -/
def isWhiteSpace (c : Char) : Bool :=
  let code := c.toNat
  (9 ≤ code && code ≤ 13) || code == 0x20 || code == 0x85 || code == 0xA0 || code == 0x1680 ||
    (0x2000 ≤ code && code ≤ 0x200A) || code == 0x2028 || code == 0x2029 || code == 0x202F ||
    code == 0x205F || code == 0x3000

/-- Drops what satisfies `p` from the end. -/
def dropEndWhile (p : Char → Bool) (chars : List Char) : List Char :=
  (chars.reverse.dropWhile p).reverse

/-- The text without white space at its end. -/
def trimEnd (text : String) : String := String.ofList (dropEndWhile isWhiteSpace text.toList)

/-- The text without white space at either end. -/
def trim (text : String) : String :=
  String.ofList (dropEndWhile isWhiteSpace (text.toList.dropWhile isWhiteSpace))

/-- The lines of a text.  A line break at the very end starts no further line. -/
def lines (text : String) : List String :=
  let parts := split '\n' text
  if parts.getLast? == some "" then parts.dropLast else parts

/-- Whether a text starts with `start`. -/
def startsWith (text start : String) : Bool := start.toList.isPrefixOf text.toList

/-- What follows `start` at the beginning of a text. -/
def dropStart? (text start : String) : Option String :=
  if startsWith text start then some (String.ofList (text.toList.drop start.length)) else none

/-- Whether a text ends with `final`. -/
def endsWith (text final : String) : Bool := final.toList.isSuffixOf text.toList

/-- Replaces every occurrence of the two characters `first second`, from left to right. -/
def replacePair (first second : Char) (substitute : List Char) : List Char → List Char
  | [] => []
  | [c] => [c]
  | c :: d :: rest =>
    if c == first && d == second then substitute ++ replacePair first second substitute rest
    else c :: replacePair first second substitute (d :: rest)

end SchemaTypes.Text
