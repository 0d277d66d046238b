import SchemaTypes.Yaml.ScalarText

/-!
# Tokens of a YAML text

The signs and scalars of a text in order.  Indentation becomes signs of its own: blocks of entries
and of keys start and end with a token.  A key is marked by a token before it, which is only known
to belong there when the colon after the key comes; until then the place is kept as a
`SimpleKey`.

## Main definitions

* `Token` and `Scanner`, the state in which a text is read.
* `tokens?`: all tokens of a text; none when it cannot be divided.
-/

namespace SchemaTypes.Yaml

/-- A token of a stream of documents. -/
inductive Token
  | versionDirective (major minor : Nat)
  /-- Tags with a handle start with an expansion. -/
  | tagDirective (handle expansion : String)
  | documentStart
  | documentEnd
  | streamEnd
  | blockSequenceStart
  | blockMappingStart
  | blockEnd
  | flowSequenceStart
  | flowSequenceEnd
  | flowMappingStart
  | flowMappingEnd
  | blockEntry
  | flowEntry
  | key
  | value
  | anchor (name : String)
  | «alias» (name : String)
  | tag (handle suffix : String)
  | scalar (text : String) (plain : Bool)
deriving DecidableEq, Repr, Inhabited

/-- A place where a key may start without a sign. -/
structure SimpleKey where
  /-- Whether there can be nothing but a key. -/
  required : Bool
  /-- Number of tokens before it. -/
  place : Nat
  index : Nat
  line : Nat
  column : Nat
deriving Repr, Inhabited

/-- How far a text has been split into tokens. -/
structure Scanner where
  cursor : Cursor
  /-- Tokens found, last one first. -/
  tokens : List Token
  /-- Number of open brackets. -/
  flows : Nat
  /-- Column of the current block, and those of the blocks around it; outside of all blocks it
  is -1. -/
  indent : Int
  indents : List Int
  keyAllowed : Bool
  /-- The place of a key for each open bracket, and one for the text around them. -/
  keys : List (Option SimpleKey)
deriving Repr, Inhabited

namespace Scanner

/-- A step of the scanner, which fails on a text that is no stream. -/
abbrev Scan := StateT Scanner Option

/-- The scanner in front of a text. -/
def start (chars : List Char) : Scanner := ⟨.start chars, [], 0, -1, [], true, [none]⟩

/-- Puts a token behind all others. -/
def emit (token : Token) : Scan Unit :=
  modify fun scanner => { scanner with tokens := token :: scanner.tokens }

/-- Puts a token behind the first `place` tokens. -/
def emitAt (place : Nat) (token : Token) : Scan Unit :=
  modify fun scanner =>
    { scanner with
      tokens := scanner.tokens.insertIdx (scanner.tokens.length - place) token }

/-- Goes on at another place. -/
def setCursor (cursor : Cursor) : Scan Unit := modify ({ · with cursor })

/-- Tells whether a key may come next. -/
def allowKey (keyAllowed : Bool) : Scan Unit := modify ({ · with keyAllowed })

/-! ## Blocks -/

/-- Ends all blocks that are indented further than a column. -/
def closeBlocks (column : Int) : (fuel : Nat) → Scan Unit
  | 0 => return
  | fuel + 1 => do
    let scanner ← get
    if scanner.flows == 0 && column < scanner.indent then
      set { scanner with
        indent := scanner.indents.headD (-1)
        indents := scanner.indents.tail
        tokens := .blockEnd :: scanner.tokens }
      closeBlocks column fuel

/-- Ends all blocks that are indented further than a column, of which there are no more than are
open. -/
def closeBlocksAt (column : Int) : Scan Unit := do
  closeBlocks column ((← get).indents.length + 1)

/-- Starts a block with its token behind the first `place` tokens, when a column lies beyond that
of the current block. -/
def openBlock (column : Nat) (place : Nat) (token : Token) : Scan Unit := do
  let scanner ← get
  if scanner.flows == 0 && scanner.indent < column then
    set { scanner with indent := column, indents := scanner.indent :: scanner.indents }
    emitAt place token

/-- Starts a block here. -/
def openBlockHere (token : Token) : Scan Unit := do
  let scanner ← get
  openBlock scanner.cursor.column scanner.tokens.length token

/-! ## Keys -/

/-- Greatest length of a key without a sign. -/
def longestKey : Nat := 1024

/-- Gives up keys that are too long or go beyond their line. -/
def dropStaleKeys : Scan Unit := do
  let scanner ← get
  let cursor := scanner.cursor
  let isStale := fun (key : SimpleKey) =>
    key.line < cursor.line || key.index + longestKey < cursor.index
  if scanner.keys.any fun key => key.any fun key => isStale key && key.required then failure
  set { scanner with keys := scanner.keys.map (Option.filter fun key => !isStale key) }

/-- Gives up the key at this level. -/
def dropKey : Scan Unit := do
  let scanner ← get
  match scanner.keys with
  | some key :: rest => if key.required then failure else set { scanner with keys := none :: rest }
  | _ => return

/-- Notes that a key may start here. -/
def saveKey : Scan Unit := do
  if (← get).keyAllowed then
    dropKey
    let scanner ← get
    let cursor := scanner.cursor
    let key : SimpleKey := {
      required := scanner.flows == 0 && scanner.indent == cursor.column
      place := scanner.tokens.length
      index := cursor.index
      line := cursor.line
      column := cursor.column }
    set { scanner with keys := some key :: scanner.keys.tail }

/-! ## Blanks -/

/-- Past blanks, comments and line breaks.  A tab is no blank where a key may start in a block; a
line break allows one there. -/
def skipGaps : (fuel : Nat) → Scan Unit
  | 0 => return
  | fuel + 1 => do
    let scanner ← get
    let tabs := scanner.flows != 0 || !scanner.keyAllowed
    let cursor := (scanner.cursor.skipWhile fun c => c == ' ' || (tabs && c == '\t')).skipComment
    setCursor cursor
    if cursor.isAtBreak then
      setCursor cursor.skipBreak
      if scanner.flows == 0 then allowKey true
      skipGaps fuel

/-! ## Directives -/

/-- A number of at most nine digits, and what follows it. -/
def readNumber? (cursor : Cursor) : Option (Nat × Cursor) :=
  let digits := cursor.rest.takeWhile Char.isDigit
  if digits.isEmpty || 9 < digits.length then none
  else some ((String.ofList digits).toNat?.getD 0, cursor.skip digits.length)

/-- The handle of a tag: names between exclamation marks, or a single mark.  In a directive the
second mark is needed. -/
def readHandle? (inDirective : Bool) (cursor : Cursor) : Option (String × Cursor) :=
  if !cursor.isAt '!' then none
  else
    let name := cursor.rest.tail.takeWhile isNameChar
    let behind := cursor.skip (name.length + 1)
    if behind.isAt '!' then some (String.ofList ('!' :: name ++ ['!']), behind.skip 1)
    else if inDirective && !name.isEmpty then none
    else some (String.ofList ('!' :: name), behind)

/-- Signs of a URI.  Signs of collections belong to it only where nothing else can be meant. -/
def isUriChar (verbatim : Bool) (c : Char) : Bool :=
  isNameChar c || ";/?:@&=+$.!~*'()%".toList.contains c || (verbatim && ",[]".toList.contains c)

/-- Characters in which a percent sign and two hexadecimal digits stand for a byte. -/
def uriBytes? : List Char → Option (List UInt8)
  | [] => some []
  | '%' :: a :: b :: rest => do
    let high ← hexDigit? a
    let low ← hexDigit? b
    return UInt8.ofNat (high * 16 + low) :: (← uriBytes? rest)
  | '%' :: _ => none
  | c :: rest => return String.utf8EncodeChar c ++ (← uriBytes? rest)

/-- A URI, and what follows it. -/
def readUri? (verbatim : Bool) (cursor : Cursor) : Option (String × Cursor) := do
  let chars := cursor.rest.takeWhile (isUriChar verbatim)
  let text ← String.fromUTF8? ⟨(← uriBytes? chars).toArray⟩
  return (text, cursor.skip chars.length)

/-- The token of a directive after its percent sign. -/
def readDirective? (cursor : Cursor) : Option (Token × Cursor) := do
  let name := cursor.rest.takeWhile isNameChar
  let cursor := cursor.skip name.length
  if !cursor.gapAt 0 then none
  let cursor := cursor.skipBlanks
  match String.ofList name with
  | "YAML" =>
    let (major, cursor) ← readNumber? cursor
    if !cursor.isAt '.' then none
    let (minor, cursor) ← readNumber? (cursor.skip 1)
    return (.versionDirective major minor, cursor)
  | "TAG" =>
    let (handle, cursor) ← readHandle? true cursor
    if !cursor.isAtBlank then none
    let (expansion, cursor) ← readUri? true cursor.skipBlanks
    if expansion.isEmpty || !cursor.gapAt 0 then none
    return (.tagDirective handle expansion, cursor)
  | _ => none

/-- Past the rest of a line that holds at most a comment. -/
def finishLine? (cursor : Cursor) : Option Cursor :=
  let cursor := cursor.skipBlanks.skipComment
  if cursor.isAtEnd || cursor.isAtBreak then some cursor.skipBreak else none

/-! ## Names and tags -/

/-- The name behind the sign of an anchor or an alias. -/
def readName? (cursor : Cursor) : Option (String × Cursor) :=
  let name := cursor.rest.tail.takeWhile isNameChar
  let behind := cursor.skip (name.length + 1)
  let ends := behind.gapAt 0 || behind.rest.head?.any "?:,]\x7d%@`".toList.contains
  if name.isEmpty || !ends then none else some (String.ofList name, behind)

/-- A tag: a URI between angle brackets, or a handle and a URI.  A lone exclamation mark is a tag
without a handle. -/
def readTag? (inFlow : Bool) (cursor : Cursor) : Option (Token × Cursor) := do
  let (token, cursor) ←
    if cursor.peek? 1 == some '<' then do
      let (suffix, cursor) ← readUri? true (cursor.skip 2)
      if suffix.isEmpty || !cursor.isAt '>' then none
      some (Token.tag "" suffix, cursor.skip 1)
    else do
      let (handle, behind) ← readHandle? false cursor
      let (suffix, cursor) ← readUri? false behind
      if 1 < handle.length && handle.toList.getLast? == some '!' then
        if suffix.isEmpty then none else some (Token.tag handle suffix, cursor)
      else
        let suffix := String.ofList (handle.toList.drop 1) ++ suffix
        some (if suffix.isEmpty then Token.tag "" "!" else Token.tag "!" suffix, cursor)
  if cursor.gapAt 0 || (inFlow && cursor.isAt ',') then some (token, cursor) else none

/-! ## Single tokens -/

/-- A step that may fail without changing the scanner. -/
def lift {α : Type} (result : Option α) : Scan α := fun scanner =>
  result.map fun value => (value, scanner)

/-- A sign of `length` characters. -/
def sign (length : Nat) (token : Token) : Scan Unit := do
  setCursor ((← get).cursor.skip length)
  emit token

/-- What stands at the level of the document, outside of all blocks. -/
def leaveBlocks : Scan Unit := do
  closeBlocksAt (-1)
  dropKey
  allowKey false

/-- Opens a bracket, in which keys have a place of their own. -/
def openFlow (token : Token) : Scan Unit := do
  saveKey
  modify fun scanner => { scanner with flows := scanner.flows + 1, keys := none :: scanner.keys }
  allowKey true
  sign 1 token

/-- Closes a bracket. -/
def closeFlow (token : Token) : Scan Unit := do
  dropKey
  modify fun scanner =>
    if scanner.flows == 0 then scanner
    else { scanner with flows := scanner.flows - 1, keys := scanner.keys.tail }
  allowKey false
  sign 1 token

/-- In a block an entry has to stand where a key may stand. -/
def blockEntry : Scan Unit := do
  let scanner ← get
  if scanner.flows == 0 then
    if !scanner.keyAllowed then failure
    openBlockHere .blockSequenceStart
  dropKey
  allowKey true
  sign 1 .blockEntry

/-- A key that is marked by a question mark. -/
def markedKey : Scan Unit := do
  let scanner ← get
  if scanner.flows == 0 then
    if !scanner.keyAllowed then failure
    openBlockHere .blockMappingStart
  dropKey
  allowKey (scanner.flows == 0)
  sign 1 .key

/-- The colon after a key.  It puts the mark before a key that has none. -/
def value : Scan Unit := do
  let scanner ← get
  match scanner.keys with
  | some key :: rest =>
    set { scanner with keys := none :: rest }
    emitAt key.place .key
    openBlock key.column key.place .blockMappingStart
    allowKey false
  | _ =>
    if scanner.flows == 0 then
      if !scanner.keyAllowed then failure
      openBlockHere .blockMappingStart
    allowKey (scanner.flows == 0)
  sign 1 .value

/-- A token that may start a key. -/
def keyStart (read : Scanner → Option (Token × Cursor)) : Scan Unit := do
  saveKey
  allowKey false
  let (token, cursor) ← lift (read (← get))
  setCursor cursor
  emit token

/-- An anchor or a reference to one. -/
def named (token : String → Token) : Scan Unit :=
  keyStart fun scanner => (readName? scanner.cursor).map fun (name, cursor) => (token name, cursor)

/-- A scalar in quotes. -/
def quoted (double : Bool) : Scan Unit :=
  keyStart fun scanner =>
    (readQuoted double scanner.cursor).map fun (text, cursor) => (.scalar text false, cursor)

/-- A scalar as a block of lines. -/
def block (literal : Bool) : Scan Unit := do
  dropKey
  allowKey true
  let scanner ← get
  let (text, cursor) ← lift (readBlock literal scanner.indent scanner.cursor)
  setCursor cursor
  emit (.scalar text false)

/-- A plain scalar that ends with a line break allows a key after it. -/
def plain : Scan Unit := do
  saveKey
  allowKey false
  let scanner ← get
  let (text, broken, cursor) ←
    lift (readPlain (scanner.flows != 0) (scanner.indent + 1) scanner.cursor)
  setCursor cursor
  emit (.scalar text true)
  if broken then allowKey true

/-! ## The next token -/

/-- Signs with which no plain scalar starts. -/
def isIndicator (c : Char) : Bool := "-?:,[]\x7b\x7d#&*!|>'\"%@`".toList.contains c

/-- Reads the next token and the tokens that its place brings with it.  Tells whether there is
more. -/
def next : Scan Bool := do
  skipGaps ((← get).cursor.rest.length + 1)
  dropStaleKeys
  closeBlocksAt (← get).cursor.column
  let scanner ← get
  let cursor := scanner.cursor
  let inFlow := scanner.flows != 0
  match cursor.rest with
  | [] =>
    leaveBlocks
    emit .streamEnd
    return false
  | c :: rest =>
    let gapNext := cursor.gapAt 1
    if cursor.column == 0 && c == '%' then
      leaveBlocks
      let (token, cursor) ← lift (readDirective? (cursor.skip 1))
      setCursor (← lift (finishLine? cursor))
      emit token
    else if cursor.isAtMark '-' then
      leaveBlocks
      sign 3 .documentStart
    else if cursor.isAtMark '.' then
      leaveBlocks
      sign 3 .documentEnd
    else if c == '[' then openFlow .flowSequenceStart
    else if c == '\x7b' then openFlow .flowMappingStart
    else if c == ']' then closeFlow .flowSequenceEnd
    else if c == '\x7d' then closeFlow .flowMappingEnd
    else if c == ',' then
      dropKey
      allowKey true
      sign 1 .flowEntry
    else if c == '-' && gapNext then blockEntry
    else if c == '?' && (inFlow || gapNext) then markedKey
    else if c == ':' && (inFlow || gapNext) then value
    else if c == '*' then named .alias
    else if c == '&' then named .anchor
    else if c == '!' then keyStart fun scanner => readTag? inFlow scanner.cursor
    else if c == '|' && !inFlow then block true
    else if c == '>' && !inFlow then block false
    else if c == '\'' then quoted false
    else if c == '"' then quoted true
    else if !(isIndicator c || isBlank c) || (c == '-' && !rest.head?.any isBlank) ||
        (!inFlow && (c == '?' || c == ':') && !gapNext) then plain
    else failure
    return true

/-- Reads tokens up to the end of the text. -/
def scan : (fuel : Nat) → Scan Unit
  | 0 => failure
  | fuel + 1 => do
    if ← next then scan fuel

end Scanner

/-- The tokens of a text. -/
def tokens? (chars : List Char) : Option (List Token) :=
  if chars.all isAllowed then
    ((Scanner.scan (chars.length + 2)).run (.start chars)).map (·.2.tokens.reverse)
  else none

end SchemaTypes.Yaml
