/-!
# Places in a YAML text

The characters still to be read, with the line and the column of the first of them.  YAML knows
five line breaks; a carriage return and a line feed after it are one.

## Main definitions

* `Cursor.skip`, `Cursor.skipBreak`: past one character of a line, and past a line break.
* `Cursor.breakText`: what a line break leaves in a scalar.
-/

namespace SchemaTypes.Yaml

/-- Characters that a YAML text may hold. -/
def isAllowed (c : Char) : Bool :=
  let code := c.toNat
  code == 0x9 || code == 0xA || code == 0xD || (0x20 ≤ code && code ≤ 0x7E) || code == 0x85 ||
    (0xA0 ≤ code && code ≤ 0xFFFD && code != 0xFEFF) || 0x10000 ≤ code

/-- A blank or a tab. -/
def isBlank (c : Char) : Bool := c == ' ' || c == '\t'

/-- A line break, those of Unicode included. -/
def isBreak (c : Char) : Bool :=
  c == '\n' || c == '\r' || c == '\u0085' || c == '\u2028' || c == '\u2029'

/-- Letters of names: of anchors, directives and handles of tags. -/
def isNameChar (c : Char) : Bool := c.isAlphanum || c == '_' || c == '-'

/-- A place in the text, with what is still to be read. -/
structure Cursor where
  rest : List Char
  index : Nat
  line : Nat
  column : Nat
deriving Repr, Inhabited

namespace Cursor

/-- The beginning of a text. -/
def start (chars : List Char) : Cursor := ⟨chars, 0, 0, 0⟩

/-- The character that comes next, or some characters later. -/
def peek? (cursor : Cursor) (ahead : Nat) : Option Char := cursor.rest[ahead]?

/-- Whether some character comes next. -/
def isAt (cursor : Cursor) (c : Char) : Bool := cursor.rest.head? == some c

/-- Whether nothing comes next. -/
def isAtEnd (cursor : Cursor) : Bool := cursor.rest.isEmpty

/-- Whether a blank comes next. -/
def isAtBlank (cursor : Cursor) : Bool := cursor.rest.head?.any isBlank

/-- Whether a line break comes next. -/
def isAtBreak (cursor : Cursor) : Bool := cursor.rest.head?.any isBreak

/-- Whether a blank, a line break or the end stands some characters ahead. -/
def gapAt (cursor : Cursor) (ahead : Nat) : Bool :=
  (cursor.peek? ahead).all fun c => isBlank c || isBreak c

/-- Whether a blank or a line break comes next. -/
def isAtGap (cursor : Cursor) : Bool := cursor.rest.head?.any fun c => isBlank c || isBreak c

/-- Past a number of characters of one line. -/
def skip (cursor : Cursor) (count : Nat) : Cursor :=
  ⟨cursor.rest.drop count, cursor.index + count, cursor.line, cursor.column + count⟩

/-- Past a line break, when there is one. -/
def skipBreak (cursor : Cursor) : Cursor :=
  match cursor.rest with
  | '\r' :: '\n' :: rest => ⟨rest, cursor.index + 2, cursor.line + 1, 0⟩
  | c :: rest => if isBreak c then ⟨rest, cursor.index + 1, cursor.line + 1, 0⟩ else cursor
  | [] => cursor

/-- A line break as scalars hold it: separators of lines and paragraphs stay, all others become a
line feed. -/
def breakText (cursor : Cursor) : List Char :=
  match cursor.rest with
  | '\u2028' :: _ => ['\u2028']
  | '\u2029' :: _ => ['\u2029']
  | c :: _ => if isBreak c then ['\n'] else []
  | [] => []

/-- Past all characters of the line that pass a test. -/
def skipWhile (cursor : Cursor) (test : Char → Bool) : Cursor :=
  cursor.skip (cursor.rest.takeWhile test).length

/-- Goes past blanks, in this line only. -/
def skipBlanks (cursor : Cursor) : Cursor := cursor.skipWhile isBlank

/-- Past a comment, when one comes next. -/
def skipComment (cursor : Cursor) : Cursor :=
  if cursor.isAt '#' then cursor.skipWhile (!isBreak ·) else cursor

/-- Whether three equal characters and a gap stand at the beginning of a line. -/
def isAtMark (cursor : Cursor) (c : Char) : Bool :=
  cursor.column == 0 && cursor.rest.take 3 == [c, c, c] && cursor.gapAt 3

/-- Whether the mark that starts or ends a document comes next. -/
def isAtDocumentMark (cursor : Cursor) : Bool := cursor.isAtMark '-' || cursor.isAtMark '.'

end Cursor

end SchemaTypes.Yaml
