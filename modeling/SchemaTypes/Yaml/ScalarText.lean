import SchemaTypes.Yaml.Cursor

/-!
# Text of scalars

The four ways in which a scalar is written: plain, in single or double quotes, and as a block that
keeps or folds its lines.  A line break inside a scalar folds to a space, and further breaks after
it are kept.

Every reader starts at the first character of a scalar and gives its text and the place after it.
-/

namespace SchemaTypes.Yaml

/-! ## Gaps between words -/

/-- Blanks and line breaks between two words of a scalar.  Blanks count only within one line. -/
structure Gap where
  blanks : List Char
  /-- Whether a line ends in the gap. -/
  broken : Bool
  firstBreak : List Char
  breaks : List Char
deriving Repr, Inhabited

namespace Gap

/-- Nothing between two pieces of text. -/
def none : Gap := ⟨[], false, [], []⟩

/-- The gap after a line break that a backslash takes back. -/
def escapedBreak : Gap := ⟨[], true, [], []⟩

/-- What the gap leaves in the text. -/
def text (gap : Gap) : List Char :=
  if !gap.broken then gap.blanks
  else if gap.firstBreak == ['\n'] then (if gap.breaks.isEmpty then [' '] else gap.breaks)
  else gap.firstBreak ++ gap.breaks

/-- Reads on in a gap.  After a line break there is no tab before the column `tabsFrom`. -/
def read (tabsFrom : Int) : (fuel : Nat) → Gap → Cursor → Option (Gap × Cursor)
  | 0, gap, cursor => some (gap, cursor)
  | fuel + 1, gap, cursor =>
    match cursor.rest with
    | [] => some (gap, cursor)
    | c :: _ =>
      if isBlank c then
        if !gap.broken then
          read tabsFrom fuel { gap with blanks := gap.blanks ++ [c] } (cursor.skip 1)
        else if c == '\t' && (cursor.column : Int) < tabsFrom then Option.none
        else read tabsFrom fuel gap (cursor.skip 1)
      else if isBreak c then
        let added := cursor.breakText
        let gap :=
          if gap.broken then { gap with breaks := gap.breaks ++ added }
          else { gap with blanks := [], broken := true, firstBreak := added }
        read tabsFrom fuel gap cursor.skipBreak
      else some (gap, cursor)

end Gap

/-! ## Scalars in quotes -/

/-- The number that a hexadecimal digit stands for. -/
def hexDigit? (c : Char) : Option Nat :=
  if c.isDigit then some (c.toNat - 48)
  else if 'a' ≤ c && c ≤ 'f' then some (c.toNat - 87)
  else if 'A' ≤ c && c ≤ 'F' then some (c.toNat - 55)
  else none

/-- The character with the code that hexadecimal digits give. -/
def ofHex? (digits : List Char) : Option Char := do
  let values ← digits.mapM hexDigit?
  let code := values.foldl (fun code value => code * 16 + value) 0
  if code.isValidChar then some (Char.ofNat code) else none

/-- The character that stands for a letter after a backslash. -/
def escaped? (c : Char) : Option Char :=
  match c with
  | '0' => some '\x00'
  | 'a' => some '\x07'
  | 'b' => some '\x08'
  | 't' => some '\t'
  | '\t' => some '\t'
  | 'n' => some '\n'
  | 'v' => some '\x0b'
  | 'f' => some '\x0c'
  | 'r' => some '\r'
  | 'e' => some '\x1b'
  | ' ' => some ' '
  | '"' => some '"'
  | '/' => some '/'
  | '\\' => some '\\'
  | 'N' => some '\u0085'
  | '_' => some '\u00a0'
  | 'L' => some '\u2028'
  | 'P' => some '\u2029'
  | _ => none

/-- Number of hexadecimal digits after a letter behind a backslash. -/
def codeLength? (c : Char) : Option Nat :=
  match c with
  | 'x' => some 2
  | 'u' => some 4
  | 'U' => some 8
  | _ => none

/-- What a character after a backslash gives, and the number of characters that it takes. -/
def readEscape? (rest : List Char) : Option (Char × Nat) := do
  let c ← rest.head?
  match codeLength? c with
  | some length =>
    let digits := rest.tail.take length
    if digits.length == length then return (← ofHex? digits, length + 1) else none
  | none => return (← escaped? c, 1)

/-- Reads a word of a quoted scalar up to a gap or the closing quote.  Also gives the gap that an
escaped line break starts. -/
def readQuotedWord (double : Bool) : (fuel : Nat) → (word : List Char) → Cursor →
    Option (List Char × Gap × Cursor)
  | 0, _, _ => none
  | fuel + 1, word, cursor =>
    match cursor.rest with
    | [] => some (word, .none, cursor)
    | c :: rest =>
      if isBlank c || isBreak c then some (word, .none, cursor)
      else if !double && c == '\'' then
        if rest.head? == some '\'' then readQuotedWord double fuel ('\'' :: word) (cursor.skip 2)
        else some (word, .none, cursor)
      else if double && c == '"' then some (word, .none, cursor)
      else if double && c == '\\' then
        if rest.head?.any isBreak then some (word, .escapedBreak, (cursor.skip 1).skipBreak)
        else
          match readEscape? rest with
          | some (meant, length) =>
            readQuotedWord double fuel (meant :: word) (cursor.skip (length + 1))
          | none => none
      else readQuotedWord double fuel (c :: word) (cursor.skip 1)

/-- Reads a quoted scalar after its opening quote; `text` is what is read, last character first. -/
def readQuotedFrom (double : Bool) : (fuel : Nat) → (text : List Char) → Cursor →
    Option (String × Cursor)
  | 0, _, _ => none
  | fuel + 1, text, cursor =>
    if cursor.isAtDocumentMark || cursor.isAtEnd then none
    else
      match readQuotedWord double (cursor.rest.length + 1) text cursor with
      | none => none
      | some (text, gap, cursor) =>
        if cursor.isAt (if double then '"' else '\'') then
          some (String.ofList text.reverse, cursor.skip 1)
        else
          match gap.read 0 (cursor.rest.length + 1) cursor with
          | none => none
          | some (gap, cursor) => readQuotedFrom double fuel (gap.text.reverse ++ text) cursor

/-- The text of a scalar in quotes. -/
def readQuoted (double : Bool) (cursor : Cursor) : Option (String × Cursor) :=
  readQuotedFrom double (cursor.rest.length + 1) [] (cursor.skip 1)

/-! ## Plain scalars -/

/-- The signs that brackets are written with. -/
def isFlowSign (c : Char) : Bool := c == ',' || c == '[' || c == ']' || c == '\x7b' || c == '\x7d'

/-- Reads a word of a plain scalar.  Within brackets a colon must not stand before their signs. -/
def readPlainWord (inFlow : Bool) : (fuel : Nat) → (word : List Char) → Cursor →
    Option (List Char × Cursor)
  | 0, _, _ => none
  | fuel + 1, word, cursor =>
    match cursor.rest with
    | [] => some (word, cursor)
    | c :: rest =>
      if isBlank c || isBreak c then some (word, cursor)
      else if inFlow && c == ':' && rest.head?.any fun d => isFlowSign d || d == '?' then none
      else if (c == ':' && cursor.gapAt 1) || (inFlow && isFlowSign c) then some (word, cursor)
      else readPlainWord inFlow fuel (c :: word) (cursor.skip 1)

/-- Reads on in a plain scalar whose lines are indented to the column `indent` at least.  Also
tells whether it ends with a line break. -/
def readPlainFrom (inFlow : Bool) (indent : Int) : (fuel : Nat) → (text : List Char) → Gap →
    Cursor → Option (String × Bool × Cursor)
  | 0, _, _, _ => none
  | fuel + 1, text, gap, cursor =>
    let finish := fun (text : List Char) (gap : Gap) (cursor : Cursor) =>
      some (String.ofList text.reverse, gap.broken, cursor)
    if cursor.isAtDocumentMark || cursor.isAt '#' then finish text gap cursor
    else
      match readPlainWord inFlow (cursor.rest.length + 1) [] cursor with
      | none => none
      | some (word, cursor) =>
        let (text, gap) :=
          if word.isEmpty then (text, gap) else (word ++ gap.text.reverse ++ text, .none)
        if !cursor.isAtGap then finish text gap cursor
        else
          match gap.read indent (cursor.rest.length + 1) cursor with
          | none => none
          | some (gap, cursor) =>
            if !inFlow && (cursor.column : Int) < indent then finish text gap cursor
            else readPlainFrom inFlow indent fuel text gap cursor

/-- The text of a plain scalar, and whether a line break comes behind it. -/
def readPlain (inFlow : Bool) (indent : Int) (cursor : Cursor) : Option (String × Bool × Cursor) :=
  readPlainFrom inFlow indent (cursor.rest.length + 1) [] .none cursor

/-! ## Blocks -/

/-- What becomes of the line breaks at the end of a block. -/
inductive Chomping
  | strip
  | clip
  | keep
deriving DecidableEq, Repr, Inhabited

/-- What a sign says about the line breaks at the end of a block. -/
def chomping? (c : Char) : Option Chomping :=
  match c with
  | '+' => some .keep
  | '-' => some .strip
  | _ => none

/-- Reads the signs after that of a block: how it ends and how far it is indented, in any order. -/
def readBlockHeader (cursor : Cursor) : Option (Chomping × Nat × Cursor) :=
  match cursor.rest with
  | [] => some (.clip, 0, cursor)
  | c :: rest =>
    match chomping? c with
    | some chomping =>
      match rest with
      | d :: _ =>
        if d == '0' then none
        else if d.isDigit then some (chomping, d.toNat - 48, cursor.skip 2)
        else some (chomping, 0, cursor.skip 1)
      | [] => some (chomping, 0, cursor.skip 1)
    | none =>
      if c == '0' then none
      else if c.isDigit then
        match rest.head?.bind chomping? with
        | some chomping => some (chomping, c.toNat - 48, cursor.skip 2)
        | none => some (.clip, c.toNat - 48, cursor.skip 1)
      else some (.clip, 0, cursor)

/-- Past the spaces of an indentation, which is open when no column is given. -/
def skipIndent (indent : Option Nat) (cursor : Cursor) : Cursor :=
  let spaces := (cursor.rest.takeWhile (· == ' ')).length
  cursor.skip (match indent with
    | some column => min spaces (column - cursor.column)
    | none => spaces)

/-- Reads empty lines and the indentation after them.  Gives their breaks, and the greatest column
reached. -/
def readBlockBreaks (indent : Option Nat) : (fuel : Nat) → (breaks : List Char) → (greatest : Nat) →
    Cursor → Option (List Char × Nat × Cursor)
  | 0, _, _, _ => none
  | fuel + 1, breaks, greatest, cursor =>
    let cursor := skipIndent indent cursor
    let greatest := max greatest cursor.column
    if indent.all (cursor.column < ·) && cursor.isAt '\t' then none
    else if cursor.isAtBreak then
      readBlockBreaks indent fuel (breaks ++ cursor.breakText) greatest cursor.skipBreak
    else some (breaks, greatest, cursor)

/-- A block as far as it is read. -/
structure Block where
  /-- Last character first. -/
  text : List Char
  /-- The break after the last line. -/
  lineBreak : List Char
  /-- Breaks of empty lines after it. -/
  breaks : List Char
  /-- Whether the last line starts with a blank. -/
  startsBlank : Bool
deriving Repr, Inhabited

/-- The text with the next line, which a break or a space divides from the last one. -/
def Block.joined (block : Block) (literal blankNext : Bool) : List Char :=
  let folds := !literal && block.lineBreak == ['\n'] && !block.startsBlank && !blankNext
  let between :=
    if folds then (if block.breaks.isEmpty then [' '] else []) else block.lineBreak
  block.breaks.reverse ++ between.reverse ++ block.text

/-- Reads the lines of a block that are indented to a column. -/
def readBlockLines (literal : Bool) (indent : Nat) : (fuel : Nat) → Block → Cursor →
    Option (Block × Cursor)
  | 0, _, _ => none
  | fuel + 1, block, cursor =>
    if cursor.column != indent || cursor.isAtEnd then some (block, cursor)
    else
      let blankNext := cursor.isAtBlank
      let line := cursor.rest.takeWhile (!isBreak ·)
      let text := line.reverse ++ block.joined literal blankNext
      let cursor := cursor.skip line.length
      let lineBreak := cursor.breakText
      match readBlockBreaks (some indent) (cursor.rest.length + 1) [] 0 cursor.skipBreak with
      | none => none
      | some (breaks, _, cursor) =>
        readBlockLines literal indent fuel ⟨text, lineBreak, breaks, blankNext⟩ cursor

/-- The text of a block with what its end leaves of line breaks. -/
def Block.chomped (block : Block) (chomping : Chomping) : String :=
  let chars := block.text.reverse
  String.ofList <|
    match chomping with
    | .strip => chars
    | .clip => chars ++ block.lineBreak
    | .keep => chars ++ block.lineBreak ++ block.breaks

/-- Reads a block.  It is indented further than `parent`, the column of what it belongs to. -/
def readBlock (literal : Bool) (parent : Int) (cursor : Cursor) : Option (String × Cursor) := do
  let (chomping, step, cursor) ← readBlockHeader (cursor.skip 1)
  let cursor := cursor.skipBlanks.skipComment
  if !(cursor.isAtEnd || cursor.isAtBreak) then none
  let cursor := cursor.skipBreak
  let given := if step == 0 then none else some (max parent 0 + step).toNat
  let (breaks, greatest, cursor) ← readBlockBreaks given (cursor.rest.length + 1) [] 0 cursor
  let indent := given.getD (max greatest (max (parent + 1) 1).toNat)
  let (block, cursor) ←
    readBlockLines literal indent (cursor.rest.length + 1) ⟨[], [], breaks, false⟩ cursor
  return (block.chomped chomping, cursor)

end SchemaTypes.Yaml
