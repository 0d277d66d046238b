import SchemaTypes.Json.Value

/-!
# Reading JSON

`Json.parse` reads a document from its bytes.  A failure names its cause and the place where it
was noticed, as a line and a count of bytes into that line.  A fault is noticed either at the last
byte read or at the byte that comes next, and both are fixed rules below: `here` and `ahead`.

Arrays and objects nest at most 127 deep.  A number without fraction and exponent that fits 64
bits is an integer; `-0` and all other numbers are doubles.
-/

namespace SchemaTypes

/-- Why a text is not JSON. -/
inductive JsonFault
  | endInList
  | endInObject
  | endInString
  | endInValue
  | colonExpected
  | listCommaExpected
  | objectCommaExpected
  | wordExpected
  | valueExpected
  | invalidEscape
  | invalidNumber
  | numberOutOfRange
  | invalidUnicode
  | controlCharacter
  | keyNotString
  | loneSurrogate
  | trailingComma
  | trailingCharacters
  | unfinishedSurrogatePair
  | tooDeep
deriving DecidableEq, Repr, Inhabited

/-- The fault as it is shown, without its place. -/
def JsonFault.message : JsonFault → String
  | .endInList => "EOF while parsing a list"
  | .endInObject => "EOF while parsing an object"
  | .endInString => "EOF while parsing a string"
  | .endInValue => "EOF while parsing a value"
  | .colonExpected => "expected `:`"
  | .listCommaExpected => "expected `,` or `]`"
  | .objectCommaExpected => "expected `,` or `\x7d`"
  | .wordExpected => "expected ident"
  | .valueExpected => "expected value"
  | .invalidEscape => "invalid escape"
  | .invalidNumber => "invalid number"
  | .numberOutOfRange => "number out of range"
  | .invalidUnicode => "invalid unicode code point"
  | .controlCharacter => "control character (\\u0000-\\u001F) found while parsing a string"
  | .keyNotString => "key must be a string"
  | .loneSurrogate => "lone leading surrogate in hex escape"
  | .trailingComma => "trailing comma"
  | .trailingCharacters => "trailing characters"
  | .unfinishedSurrogatePair => "unexpected end of hex escape"
  | .tooDeep => "recursion limit exceeded"

/-- A fault and where it was noticed. -/
structure JsonError where
  fault : JsonFault
  line : Nat
  column : Nat
deriving DecidableEq, Repr, Inhabited

/-- The error as it is shown, with line and column. -/
def JsonError.message (error : JsonError) : String :=
  s!"{error.fault.message} at line {error.line} column {error.column}"

namespace Json.Reader

/-- The bytes still to be read, the current line and the number of its bytes already read. -/
structure Cursor where
  rest : List UInt8
  line : Nat
  column : Nat
deriving Repr, Inhabited

namespace Cursor

/-- The beginning of a text: line 1, before the first column. -/
def start (bytes : List UInt8) : Cursor := ⟨bytes, 1, 0⟩

/-- Past one more byte, which has been taken off the rest. -/
def past (cursor : Cursor) (byte : UInt8) (rest : List UInt8) : Cursor :=
  if byte == 10 then ⟨rest, cursor.line + 1, 0⟩ else ⟨rest, cursor.line, cursor.column + 1⟩

/-- Goes past one byte, if there is one. -/
def advance (cursor : Cursor) : Cursor :=
  match cursor.rest with
  | [] => cursor
  | byte :: rest => cursor.past byte rest

/-- Moves on by a number of bytes, none of which is a line break. -/
def skip (cursor : Cursor) (count : Nat) : Cursor :=
  ⟨cursor.rest.drop count, cursor.line, cursor.column + count⟩

/-- The fault noticed at the last byte read. -/
def here (cursor : Cursor) (fault : JsonFault) : JsonError := ⟨fault, cursor.line, cursor.column⟩

/-- The fault noticed at the next byte, or at the end when there is none. -/
def ahead (cursor : Cursor) (fault : JsonFault) : JsonError := cursor.advance.here fault

end Cursor

/-- A blank, a line feed, a tab or a carriage return. -/
def isBlank (byte : UInt8) : Bool := byte == 32 || byte == 10 || byte == 9 || byte == 13

/-- Goes past white space.  A line feed begins a line. -/
def skipBlanksFrom : (rest : List UInt8) → (line column : Nat) → Cursor
  | [], line, column => ⟨[], line, column⟩
  | byte :: rest, line, column =>
    if byte == 10 then skipBlanksFrom rest (line + 1) 0
    else if isBlank byte then skipBlanksFrom rest line (column + 1)
    else ⟨byte :: rest, line, column⟩

/-- Goes past white space. -/
def skipBlanks (cursor : Cursor) : Cursor :=
  skipBlanksFrom cursor.rest cursor.line cursor.column

/-! ## Numbers -/

/-- A decimal digit in ASCII. -/
def isDigit (byte : UInt8) : Bool := 48 ≤ byte && byte ≤ 57

/-- The number that a digit stands for. -/
def digitValue (byte : UInt8) : Nat := byte.toNat - 48

/-- Digits joined to a significand for as long as it stays below `2 ^ 64`, and the number of
digits left over. -/
def joinDigits : (significand : Nat) → List UInt8 → Nat × Nat
  | significand, [] => (significand, 0)
  | significand, digit :: rest =>
    let joined := significand * 10 + digitValue digit
    if joined ≥ 0x10000000000000000 then (significand, rest.length + 1) else joinDigits joined rest

/-- The digits that come next. -/
def leadingDigits (cursor : Cursor) : List UInt8 := cursor.rest.takeWhile isDigit

/-- A number in decimal notation as the nearest double, if there is a finite one. -/
def finishFloat (cursor : Cursor) (negative : Bool) (significand : Nat) (exponent : Int) :
    Except JsonError (JsonNumber × Cursor) :=
  match Binary64.ofDecimal? negative significand exponent with
  | some value => .ok (.float value, cursor)
  | none => .error (cursor.here .numberOutOfRange)

/-- Number of digits up to the one with which the exponent passes the 32-bit range. -/
def exponentOverflow? : (value count : Nat) → List UInt8 → Option Nat
  | _, _, [] => none
  | value, count, digit :: rest =>
    let joined := value * 10 + digitValue digit
    if joined ≥ 0x80000000 then some (count + 1) else exponentOverflow? joined (count + 1) rest

/-- Reads an exponent; the cursor stands at the letter.  An exponent beyond 32 bits is out of
range upward and gives zero downward. -/
def readExponent (cursor : Cursor) (negative : Bool) (significand : Nat) (exponent : Int) :
    Except JsonError (JsonNumber × Cursor) :=
  let cursor := cursor.advance
  let (upward, cursor) :=
    match cursor.rest with
    | 43 :: _ => (true, cursor.advance)
    | 45 :: _ => (false, cursor.advance)
    | _ => (true, cursor)
  match cursor.rest with
  | [] => .error (cursor.here .endInValue)
  | byte :: _ =>
    if !isDigit byte then .error (cursor.advance.here .invalidNumber)
    else
      let digits := leadingDigits cursor
      let finish := cursor.skip digits.length
      match exponentOverflow? 0 0 digits with
      | some count =>
        if significand != 0 && upward then .error ((cursor.skip count).here .numberOutOfRange)
        else finishFloat finish negative 0 0
      | none =>
        let size : Int := digits.foldl (fun value digit => value * 10 + digitValue digit) 0
        finishFloat finish negative significand
          (if upward then exponent + size else exponent - size)

/-- The letter `e` of either case. -/
def isExponentMark (byte : UInt8) : Bool := byte == 101 || byte == 69

/-- Reads a fraction; the cursor stands at the point.  Digits that do not fit are dropped. -/
def readFraction (cursor : Cursor) (negative : Bool) (significand : Nat) (exponent : Int) :
    Except JsonError (JsonNumber × Cursor) :=
  let cursor := cursor.advance
  let digits := leadingDigits cursor
  if digits.isEmpty then
    .error (cursor.ahead (if cursor.rest.isEmpty then .endInValue else .invalidNumber))
  else
    let (significand, dropped) := joinDigits significand digits
    let exponent := exponent - ((digits.length - dropped : Nat) : Int)
    let cursor := cursor.skip digits.length
    match cursor.rest with
    | byte :: _ =>
      if isExponentMark byte then readExponent cursor negative significand exponent
      else finishFloat cursor negative significand exponent
    | [] => finishFloat cursor negative significand exponent

/-- The integer `± significand`, as a double when it does not fit or is `-0`. -/
def finishInteger (cursor : Cursor) (negative : Bool) (significand : Nat) :
    Except JsonError (JsonNumber × Cursor) :=
  if !negative then .ok (.integer significand, cursor)
  else if 0 < significand && significand ≤ 0x8000000000000000 then
    .ok (.integer (-(significand : Int)), cursor)
  else finishFloat cursor true significand 0

/-- Reads a number after its sign. -/
def readNumber (cursor : Cursor) (negative : Bool) : Except JsonError (JsonNumber × Cursor) :=
  match cursor.rest with
  | [] => .error (cursor.here .endInValue)
  | byte :: _ =>
    if !isDigit byte then .error (cursor.advance.here .invalidNumber)
    else
      let digits := leadingDigits cursor
      if byte == 48 && digits.length > 1 then .error (cursor.advance.ahead .invalidNumber)
      else
        let (significand, dropped) := joinDigits 0 digits
        let cursor := cursor.skip digits.length
        match cursor.rest with
        | 46 :: _ => readFraction cursor negative significand dropped
        | byte :: _ =>
          if isExponentMark byte then readExponent cursor negative significand dropped
          else if dropped > 0 then finishFloat cursor negative significand dropped
          else finishInteger cursor negative significand
        | [] =>
          if dropped > 0 then finishFloat cursor negative significand dropped
          else finishInteger cursor negative significand

/-! ## Strings -/

/-- The number that a hexadecimal digit stands for. -/
def hexValue? (byte : UInt8) : Option Nat :=
  if isDigit byte then some (digitValue byte)
  else if 97 ≤ byte && byte ≤ 102 then some (byte.toNat - 87)
  else if 65 ≤ byte && byte ≤ 70 then some (byte.toNat - 55)
  else none

/-- Reads four hexadecimal digits. -/
def readHex (cursor : Cursor) : Except JsonError (Nat × Cursor) :=
  match cursor.rest with
  | a :: b :: c :: d :: _ =>
    let cursor := cursor.advance.advance.advance.advance
    match hexValue? a, hexValue? b, hexValue? c, hexValue? d with
    | some a, some b, some c, some d => .ok (((a * 16 + b) * 16 + c) * 16 + d, cursor)
    | _, _, _, _ => .error (cursor.here .invalidEscape)
  | rest =>
    let finish := rest.foldl (fun cursor _ => cursor.advance) cursor
    .error (finish.here .endInString)

/-- Reads the byte `expected`, the next one of a surrogate pair. -/
def expectInPair (cursor : Cursor) (expected : UInt8) : Except JsonError Cursor :=
  match cursor.rest with
  | [] => .error (cursor.here .endInString)
  | byte :: _ =>
    if byte == expected then .ok cursor.advance
    else .error (cursor.advance.here .unfinishedSurrogatePair)

/-- Reads the digits of a `\u` escape, and the second half of a surrogate pair. -/
def readUnicodeEscape (cursor : Cursor) : Except JsonError (Char × Cursor) := do
  let (unit, cursor) ← readHex cursor
  if 0xDC00 ≤ unit && unit ≤ 0xDFFF then
    .error (cursor.here .loneSurrogate)
  else if unit < 0xD800 || 0xDBFF < unit then
    .ok (Char.ofNat unit, cursor)
  else
    let cursor ← expectInPair cursor 92
    let cursor ← expectInPair cursor 117
    let (second, cursor) ← readHex cursor
    if second < 0xDC00 || 0xDFFF < second then
      .error (cursor.here .loneSurrogate)
    else
      .ok (Char.ofNat ((unit - 0xD800) * 0x400 + (second - 0xDC00) + 0x10000), cursor)

/-- Reads an escape after its backslash. -/
def readEscape (cursor : Cursor) : Except JsonError (Char × Cursor) :=
  match cursor.rest with
  | [] => .error (cursor.here .endInString)
  | byte :: _ =>
    let cursor := cursor.advance
    match byte with
    | 34 => .ok ('"', cursor)
    | 92 => .ok ('\\', cursor)
    | 47 => .ok ('/', cursor)
    | 98 => .ok ('\x08', cursor)
    | 102 => .ok ('\x0c', cursor)
    | 110 => .ok ('\n', cursor)
    | 114 => .ok ('\r', cursor)
    | 116 => .ok ('\t', cursor)
    | 117 => readUnicodeEscape cursor
    | _ => .error (cursor.here .invalidEscape)

/-- Reads a string after its opening quote.  `collected` holds its bytes, last one first. -/
def readString : (fuel : Nat) → Cursor → (collected : List UInt8) →
    Except JsonError (String × Cursor)
  | 0, cursor, _ => .error (cursor.here .endInString)
  | fuel + 1, cursor, collected =>
    match cursor.rest with
    | [] => .error (cursor.here .endInString)
    | byte :: _ =>
      if byte == 34 then
        match String.fromUTF8? ⟨collected.reverse.toArray⟩ with
        | some text => .ok (text, cursor.advance)
        | none => .error (cursor.here .invalidUnicode)
      else if byte == 92 then
        match readEscape cursor.advance with
        | .ok (c, cursor) => readString fuel cursor ((String.utf8EncodeChar c).reverse ++ collected)
        | .error error => .error error
      else if byte < 32 then .error (cursor.advance.here .controlCharacter)
      else readString fuel cursor.advance (byte :: collected)

/-! ## Values -/

/-- Reads the rest of a word whose first letter is read. -/
def readWord (value : Json) : List UInt8 → Cursor → Except JsonError (Json × Cursor)
  | [], cursor => .ok (value, cursor)
  | expected :: word, cursor =>
    match cursor.rest with
    | [] => .error (cursor.here .endInValue)
    | byte :: _ =>
      if byte == expected then readWord value word cursor.advance
      else .error (cursor.advance.here .wordExpected)

/-- Steps over a comma to the next element, or over the closing bracket when there is none, and
tells which. -/
def nextElement (cursor : Cursor) (first : Bool) (close : UInt8) (unfinished missing : JsonFault) :
    Except JsonError (Bool × Cursor) :=
  let cursor := skipBlanks cursor
  match cursor.rest with
  | [] => .error (cursor.ahead unfinished)
  | byte :: _ =>
    if byte == close then .ok (false, cursor.advance)
    else if byte == 44 && !first then
      let cursor := skipBlanks cursor.advance
      match cursor.rest with
      | [] => .error (cursor.ahead .endInValue)
      | byte :: _ =>
        if byte == close then .error (cursor.ahead .trailingComma) else .ok (true, cursor)
    else if first then .ok (true, cursor)
    else .error (cursor.ahead missing)

/-- Reads the colon after a key. -/
def readColon (cursor : Cursor) : Except JsonError Cursor :=
  let cursor := skipBlanks cursor
  match cursor.rest with
  | [] => .error (cursor.ahead .endInObject)
  | byte :: _ => if byte == 58 then .ok cursor.advance else .error (cursor.ahead .colonExpected)

mutual

/-- Reads a value.  `depth` is one more than the number of brackets that may still be opened. -/
def readValue (fuel depth : Nat) (cursor : Cursor) : Except JsonError (Json × Cursor) :=
  match fuel with
  | 0 => .error (cursor.here .endInValue)
  | fuel + 1 =>
    let cursor := skipBlanks cursor
    match cursor.rest with
    | [] => .error (cursor.ahead .endInValue)
    | byte :: _ =>
      if byte == 110 then readWord .null [117, 108, 108] cursor.advance
      else if byte == 116 then readWord (.bool true) [114, 117, 101] cursor.advance
      else if byte == 102 then readWord (.bool false) [97, 108, 115, 101] cursor.advance
      else if byte == 45 then do
        let (value, cursor) ← readNumber cursor.advance true
        .ok (.number value, cursor)
      else if isDigit byte then do
        let (value, cursor) ← readNumber cursor false
        .ok (.number value, cursor)
      else if byte == 34 then do
        let (value, cursor) ← readString cursor.rest.length cursor.advance []
        .ok (.string value, cursor)
      else if byte == 91 then
        if depth ≤ 1 then .error (cursor.ahead .tooDeep)
        else readItems fuel (depth - 1) cursor.advance true []
      else if byte == 123 then
        if depth ≤ 1 then .error (cursor.ahead .tooDeep)
        else readMembers fuel (depth - 1) cursor.advance true []
      else .error (cursor.ahead .valueExpected)

/-- Reads the items of an array; `items` are those read, last one first. -/
def readItems (fuel depth : Nat) (cursor : Cursor) (first : Bool) (items : List Json) :
    Except JsonError (Json × Cursor) :=
  match fuel with
  | 0 => .error (cursor.here .endInList)
  | fuel + 1 => do
    match ← nextElement cursor first 93 .endInList .listCommaExpected with
    | (false, cursor) => .ok (.array items.reverse, cursor)
    | (true, cursor) =>
      let (item, cursor) ← readValue fuel depth cursor
      readItems fuel depth cursor false (item :: items)

/-- Reads the members of an object; `members` are those read, last one first and keys possibly
repeated. -/
def readMembers (fuel depth : Nat) (cursor : Cursor) (first : Bool)
    (members : List (String × Json)) : Except JsonError (Json × Cursor) :=
  match fuel with
  | 0 => .error (cursor.here .endInObject)
  | fuel + 1 => do
    match ← nextElement cursor first 125 .endInObject .objectCommaExpected with
    | (false, cursor) => .ok (.object (Members.ofList members.reverse), cursor)
    | (true, cursor) =>
      match cursor.rest with
      | 34 :: _ =>
        let (key, cursor) ← readString cursor.rest.length cursor.advance []
        let cursor ← readColon cursor
        let (value, cursor) ← readValue fuel depth cursor
        readMembers fuel depth cursor false ((key, value) :: members)
      | _ => .error (cursor.ahead .keyNotString)

end

end Json.Reader

/-- Reads a document that fills the bytes up to surrounding blanks. -/
def Json.parse (bytes : List UInt8) : Except JsonError Json := do
  let (value, cursor) ← Json.Reader.readValue (2 * bytes.length + 2) 128 (.start bytes)
  let cursor := Json.Reader.skipBlanks cursor
  if cursor.rest.isEmpty then .ok value else .error (cursor.ahead .trailingCharacters)

/-- Reads a document from text. -/
def Json.parseText (text : String) : Except JsonError Json :=
  Json.parse text.toUTF8.toList

end SchemaTypes
