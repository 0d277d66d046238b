import SchemaTypes.Pattern.Match

/-!
# Reading patterns

A pattern is read from the notation of regular expressions.  `PatternDialect` says which characters
the classes `\d`, `\w` and `\s` hold and whether a pattern may look around and recall what a group
matched.

Flags such as `(?i)` hold until the group ends in which they are set, also beyond a bar.  A
repetition sign needs something before it, and a brace that does not open a count is refused.

## Main definitions

* `Pattern.parse?`: a pattern for keys of objects, with classes for all scripts.
* `Pattern.parseInSchema?`: a pattern that a schema gives, whose classes hold ASCII characters
  unless it looks around.
-/

namespace SchemaTypes

/-- What the notation of a pattern allows and means. -/
structure PatternDialect where
  digit : CharacterSet
  word : CharacterSet
  blank : CharacterSet
  /-- Whether patterns may look around and recall groups. -/
  looksAround : Bool

namespace PatternDialect

/-- Patterns without a way to look around, in which classes are those of Unicode. -/
def plain : PatternDialect := ⟨.digit, .word, .blank, false⟩

/-- Patterns whose classes hold characters of ASCII, apart from white space. -/
def ascii : PatternDialect := ⟨.asciiDigit, .asciiWord, .schemaBlank, false⟩

/-- Patterns that may look around. -/
def lookingAround : PatternDialect := { plain with looksAround := true }

end PatternDialect

namespace Pattern.Reader

/-! ## State of reading -/

/-- What the letters in front of a pattern or of a group switch on. -/
structure Flags where
  ignoreCase : Bool := false
  /-- `^` and `$` also stand for the ends of lines. -/
  multipleLines : Bool := false
  /-- The dot also stands for a line break. -/
  dotMatchesBreak : Bool := false
  /-- Blanks and comments in the pattern do not count. -/
  spaced : Bool := false
  /-- A carriage return breaks lines, too. -/
  carriageReturns : Bool := false
  /-- Classes hold ASCII characters only. -/
  ascii : Bool := false
deriving Repr, Inhabited

/-- Where a reader is in a pattern. -/
structure Cursor where
  rest : List Char
  flags : Flags
  /-- The number of groups that are opened. -/
  groups : Nat
  /-- Names of groups. -/
  names : List String

/-- A step of reading a pattern, which fails on what is no pattern. -/
abbrev Read := StateT Cursor Option

/-- The character that comes next. -/
def peek? : Read (Option Char) := return (← get).rest.head?

/-- Takes the character that comes next. -/
def next : Read Char := do
  let cursor ← get
  match cursor.rest with
  | [] => failure
  | c :: rest =>
    set { cursor with rest }
    return c

/-- Steps over a text when it comes next, and tells whether it does. -/
def skipText (text : String) : Read Bool := do
  let cursor ← get
  if text.toList.isPrefixOf cursor.rest then
    set { cursor with rest := cursor.rest.drop text.length }
    return true
  else return false

/-- Takes a text that has to be there. -/
def expect (text : String) : Read Unit := do
  if ← skipText text then return else failure

/-- The longest run of characters that pass a test. -/
def takeRun (test : Char → Bool) : Read String := do
  let cursor ← get
  set { cursor with rest := cursor.rest.dropWhile test }
  return String.ofList (cursor.rest.takeWhile test)

/-- The rest after blanks and comments. -/
def dropSpace : Nat → List Char → List Char
  | 0, chars => chars
  | fuel + 1, chars =>
    match chars with
    | '#' :: rest => dropSpace fuel (rest.dropWhile (· != '\n'))
    | c :: rest => if Text.isWhiteSpace c then dropSpace fuel rest else chars
    | [] => []

/-- Steps over blanks and comments where they do not count. -/
def skipSpace : Read Unit :=
  modify fun cursor =>
    if cursor.flags.spaced then { cursor with rest := dropSpace cursor.rest.length cursor.rest }
    else cursor

/-! ## Escapes -/

/-- What an escape stands for. -/
inductive Element
  | char (c : Char)
  | set (set : CharacterSet)
  | pattern (pattern : Pattern)

/-- Whether there is a character of a word on one side of a place. -/
def isWordAt (c : Option Char) : Bool := c.any CharacterSet.word

/-- Where a word begins or ends. -/
def wordEdge : Pattern := .between fun before after => isWordAt before != isWordAt after

/-- Where no word begins or ends. -/
def notWordEdge : Pattern := .between fun before after => isWordAt before == isWordAt after

/-- Where a word begins. -/
def wordStart : Pattern := .between fun before after => !isWordAt before && isWordAt after

/-- Where a word ends. -/
def wordEnd : Pattern := .between fun before after => isWordAt before && !isWordAt after

/-- The edge that stands in braces after the sign of an edge. -/
def namedEdge? (name : String) : Option Pattern :=
  match name with
  | "start" => some wordStart
  | "end" => some wordEnd
  | "start-half" => some (.between fun before _ => !isWordAt before)
  | "end-half" => some (.between fun _ after => !isWordAt after)
  | _ => none

/-- The characters of the names of edges. -/
def isEdgeNameChar (c : Char) : Bool := c.isAlpha || c == '-'

/-- A hexadecimal digit of either case. -/
def isHexDigit (c : Char) : Bool := c.isDigit || ('a' ≤ c && c ≤ 'f') || ('A' ≤ c && c ≤ 'F')

/-- The number that hexadecimal digits stand for. -/
def hexValue (digits : String) : Nat :=
  digits.toList.foldl
    (fun value c =>
      value * 16 +
        (if c.isDigit then c.toNat - 48 else if 'a' ≤ c then c.toNat - 87 else c.toNat - 55))
    0

/-- The character with a code point. -/
def ofCode (code : Nat) : Read Char :=
  if code.isValidChar then return Char.ofNat code else failure

/-- A code point: `count` digits, or any number of them in braces. -/
def readCode (count : Nat) : Read Char := do
  if ← skipText "\x7b" then
    let digits ← takeRun isHexDigit
    expect "\x7d"
    if digits.isEmpty then failure else ofCode (hexValue digits)
  else
    let cursor ← get
    let digits := cursor.rest.take count
    if digits.length == count && digits.all isHexDigit then
      set { cursor with rest := cursor.rest.drop count }
      ofCode (hexValue (String.ofList digits))
    else failure

/-- The set of a property: a letter, or a name in braces. -/
def readProperty : Read CharacterSet := do
  let name ←
    if ← skipText "\x7b" then
      let name ← takeRun (· != '\x7d')
      expect "\x7d"
      pure name
    else pure (String.singleton (← next))
  match name.toList with
  | '^' :: rest =>
    return (← (CharacterSet.property? (String.ofList rest)).elim failure pure).complement
  | _ => (CharacterSet.property? name).elim failure pure

/-- ASCII characters other than letters and digits stand for themselves after a backslash. -/
def isEscapable (c : Char) : Bool := c.toNat < 0x80 && !c.isAlphanum && c != '<' && c != '>'

/-- A class of the dialect, or of ASCII when a flag says so. -/
def classOf (wide ascii : CharacterSet) : Read CharacterSet :=
  return if (← get).flags.ascii then ascii else wide

/-- The edge of a word, perhaps one that is named in braces. -/
def readEdge : Read Pattern := do
  let cursor ← get
  match cursor.rest with
  | '\x7b' :: rest =>
    let name := rest.takeWhile isEdgeNameChar
    if name.isEmpty then return wordEdge
    match rest.drop name.length, namedEdge? (String.ofList name) with
    | '\x7d' :: rest, some edge =>
      set { cursor with rest }
      return edge
    | _, _ => failure
  | _ => return wordEdge

/-- Reads a reference to a group after its backslash and first digit. -/
def readRecall (dialect : PatternDialect) (first : Char) : Read Pattern := do
  let digits ← takeRun Char.isDigit
  let number := (String.singleton first ++ digits).toNat?.getD 0
  if dialect.looksAround && 0 < number then return .recall number else failure

/-- Reads an escape after its backslash. -/
def readEscape (dialect : PatternDialect) : Read Element := do
  match ← next with
  | 'd' => return .set (← classOf dialect.digit .asciiDigit)
  | 'D' => return .set (← classOf dialect.digit .asciiDigit).complement
  | 'w' => return .set (← classOf dialect.word .asciiWord)
  | 'W' => return .set (← classOf dialect.word .asciiWord).complement
  | 's' => return .set (← classOf dialect.blank .asciiBlank)
  | 'S' => return .set (← classOf dialect.blank .asciiBlank).complement
  | 'p' => return .set (← readProperty)
  | 'P' => return .set (← readProperty).complement
  | 'a' => return .char '\x07'
  | 'f' => return .char '\x0c'
  | 't' => return .char '\t'
  | 'n' => return .char '\n'
  | 'r' => return .char '\r'
  | 'v' => return .char '\x0b'
  | 'x' => return .char (← readCode 2)
  | 'u' => return .char (← readCode 4)
  | 'U' => return .char (← readCode 8)
  | 'A' => return .pattern (.between fun before _ => before.isNone)
  | 'z' => return .pattern (.between fun _ after => after.isNone)
  | 'b' => return .pattern (← readEdge)
  | 'B' => return .pattern notWordEdge
  | '<' => return .pattern wordStart
  | '>' => return .pattern wordEnd
  | c =>
    if c.isDigit then return .pattern (← readRecall dialect c)
    else if isEscapable c then return .char c
    else failure

/-! ## Classes -/

/-- A set of characters, with those of the other case when case does not count. -/
def foldedWhenAsked (set : CharacterSet) : Read CharacterSet :=
  return if (← get).flags.ignoreCase then set.ignoringCase else set

/-- One character or one escape of a class. -/
def readClassElement (dialect : PatternDialect) : Read Element := do
  match ← next with
  | '\\' => readEscape dialect
  | c => return .char c

/-- The character that an element of a class stands for, as an end of a range has to. -/
def Element.character : Element → Read Char
  | .char c => return c
  | _ => failure

/-- A character, a range or an escape of a class. -/
def readClassItem (dialect : PatternDialect) : Read CharacterSet := do
  let first ← readClassElement dialect
  skipSpace
  let rest := (← get).rest
  let ranges :=
    match rest with
    | '-' :: ']' :: _ => false
    | '-' :: '-' :: _ => false
    | '-' :: _ => true
    | _ => false
  if ranges then
    expect "-"
    skipSpace
    let last ← readClassElement dialect
    let first ← first.character
    let last ← last.character
    if first ≤ last then foldedWhenAsked (.range first last) else failure
  else
    match first with
    | .char c => foldedWhenAsked (.single c)
    | .set set => return set
    | .pattern _ => failure

/-- The class with a name that stands between `[:` and `:]`, when it comes next. -/
def readNamedClass? : Read (Option CharacterSet) := do
  let cursor ← get
  match cursor.rest with
  | '[' :: ':' :: rest =>
    let inverted := rest.head? == some '^'
    let rest := if inverted then rest.drop 1 else rest
    let name := rest.takeWhile (· != ':')
    match rest.drop name.length, CharacterSet.named? (String.ofList name) with
    | ':' :: ']' :: rest, some found =>
      set { cursor with rest }
      let found ← foldedWhenAsked found
      return some (if inverted then found.complement else found)
    | _, _ => return none
  | _ => return none

/-- The items of a class up to its bracket.  `pending` is the operation that waits for its right
side, and `items` the union of what that side has so far. -/
def readClassItems (dialect : PatternDialect) (nested : Read CharacterSet) :
    (fuel : Nat) → (pending : CharacterSet → CharacterSet) → (items : CharacterSet) →
    Read CharacterSet
  | 0, _, _ => failure
  | fuel + 1, pending, items => do
    skipSpace
    match (← get).rest with
    | [] => failure
    | ']' :: _ =>
      expect "]"
      return pending items
    | '&' :: '&' :: _ =>
      expect "&&"
      readClassItems dialect nested fuel (pending items).inter .none
    | '-' :: '-' :: _ =>
      expect "--"
      readClassItems dialect nested fuel (pending items).without .none
    | '~' :: '~' :: _ =>
      expect "~~"
      readClassItems dialect nested fuel (pending items).either .none
    | '[' :: _ =>
      let item ←
        match ← readNamedClass? with
        | some found => pure found
        | none =>
          expect "["
          nested
      readClassItems dialect nested fuel pending (items.union item)
    | _ =>
      let item ← readClassItem dialect
      readClassItems dialect nested fuel pending (items.union item)

/-- A class after its opening bracket.  Hyphens and a closing bracket at its beginning stand for
themselves. -/
def readClass (dialect : PatternDialect) : (fuel : Nat) → Read CharacterSet
  | 0 => failure
  | fuel + 1 => do
    skipSpace
    let inverted ← skipText "^"
    skipSpace
    let hyphens ← takeRun (· == '-')
    let bracket ← if hyphens.isEmpty then skipText "]" else pure false
    let first ←
      if bracket then foldedWhenAsked (.single ']')
      else pure (if hyphens.isEmpty then .none else .single '-')
    let found ← readClassItems dialect (readClass dialect fuel) (fuel + 1) id first
    return if inverted then found.complement else found

/-! ## Flags and groups -/

/-- Switches on or off what a letter stands for.  One of the letters has no effect here. -/
def withFlag (flags : Flags) (letter : Char) (value : Bool) : Option Flags :=
  match letter with
  | 'i' => some { flags with ignoreCase := value }
  | 'm' => some { flags with multipleLines := value }
  | 's' => some { flags with dotMatchesBreak := value }
  | 'x' => some { flags with spaced := value }
  | 'R' => some { flags with carriageReturns := value }
  | 'u' => some { flags with ascii := !value }
  | 'U' => some flags
  | _ => none

/-- Flags from their letters.  Each occurs once, and those after a hyphen, which is not the last
sign, are taken back. -/
def flagsOf? (flags : Flags) (letters : List Char) : Option Flags :=
  if !letters.Nodup || letters.getLast? == some '-' then none
  else
    let (given, taken) := (letters.takeWhile (· != '-'), (letters.dropWhile (· != '-')).drop 1)
    do
      let flags ← given.foldlM (fun flags letter => withFlag flags letter true) flags
      taken.foldlM (fun flags letter => withFlag flags letter false) flags

/-- Reads in a group, after which flags are what they were. -/
def inGroup (inner : Read Pattern) : Read Pattern := do
  let flags := (← get).flags
  let pattern ← inner
  expect ")"
  modify fun cursor => { cursor with flags }
  return pattern

/-- A group that is counted.  It keeps what it matched where that can be recalled. -/
def countedGroup (dialect : PatternDialect) (name : Option String) (inner : Read Pattern) :
    Read Pattern := do
  let cursor ← get
  let number := cursor.groups + 1
  if name.any cursor.names.contains then failure
  set { cursor with groups := number, names := name.toList ++ cursor.names }
  let pattern ← inGroup inner
  return if dialect.looksAround then .group number pattern else pattern

/-- The characters that the name of a group may begin with. -/
def isNameStart (c : Char) : Bool := c == '_' || CharacterSet.letter c

/-- The characters of the names of groups. -/
def isNameChar (c : Char) : Bool :=
  isNameStart c || CharacterSet.digit c || c == '.' || c == '[' || c == ']'

/-- The name of a group and the sign after it. -/
def readGroupName : Read String := do
  let name ← takeRun isNameChar
  expect ">"
  if name.toList.head?.any isNameStart then return name else failure

/-- Reads what follows an opening parenthesis: a group, or flags, which match nothing and cannot
be repeated. -/
def readGroup (dialect : PatternDialect) (inner : Read Pattern) : Read (Option Pattern) := do
  skipSpace
  if ← skipText "?=" then looking (.ahead false)
  else if ← skipText "?!" then looking (.ahead true)
  else if ← skipText "?<=" then looking (.behind false)
  else if ← skipText "?<!" then looking (.behind true)
  else if (← skipText "?P<") || (← skipText "?<") then
    return some (← countedGroup dialect (some (← readGroupName)) inner)
  else if ← skipText "?" then
    let letters ← takeRun fun c => c != ':' && c != ')'
    let cursor ← get
    let flags ← (flagsOf? cursor.flags letters.toList).elim failure pure
    match ← next with
    | ')' =>
      if letters.isEmpty then failure
      modify ({ · with flags })
      return none
    | _ =>
      let pattern ← inGroup do
        modify ({ · with flags })
        inner
      return some pattern
  else return some (← countedGroup dialect none inner)
where
  looking (around : Pattern → Pattern) : Read (Option Pattern) := do
    if dialect.looksAround then return some (around (← inGroup inner)) else failure

/-! ## Repetitions -/

/-- A count between blanks; nothing when there is no digit. -/
def readCount? : Read (Option Nat) := do
  let _ ← takeRun Text.isWhiteSpace
  let digits ← takeRun Char.isDigit
  let _ ← takeRun Text.isWhiteSpace
  match digits.toNat? with
  | none => return none
  | some count => if count < 0x100000000 then return some count else failure

/-- Least and greatest number of repetitions, after the opening brace. -/
def readBounds : Read (Nat × Option Nat) := do
  let least ← (← readCount?).elim failure pure
  let most ←
    if ← skipText "," then
      skipSpace
      if (← peek?) == some '\x7d' then pure none
      else pure (some (← (← readCount?).elim failure pure))
    else pure (some least)
  expect "\x7d"
  if most.all (least ≤ ·) then return (least, most) else failure

/-- Repeats the last item, which has to be a pattern. -/
def repeatLast (least : Nat) (most : Option Nat) (items : List (Option Pattern)) :
    Read (List (Option Pattern)) := do
  let _ ← skipText "?"
  match items with
  | some item :: rest => return some (.repeated least most item) :: rest
  | _ => failure

/-! ## Patterns -/

/-- The characters other than line breaks, or all of them. -/
def dot (flags : Flags) : CharacterSet := fun c =>
  flags.dotMatchesBreak || (c != '\n' && !(flags.carriageReturns && c == '\r'))

/-- The beginning of the text, or of a line when the flags ask for it. -/
def lineStart (flags : Flags) : Pattern :=
  .between fun before _ => before.isNone || (flags.multipleLines && before == some '\n')

/-- The end of the text, or of a line when the flags ask for it. -/
def lineEnd (flags : Flags) : Pattern :=
  .between fun _ after => after.isNone || (flags.multipleLines && after == some '\n')

/-- Items, last one first, in a row. -/
def inRow (items : List (Option Pattern)) : Pattern :=
  (items.filterMap id).foldl (fun row item => .sequence item row) .empty

/-- Reads the items of a row up to a bar, the end of its group or the end of the pattern. -/
def readRow (dialect : PatternDialect) (inner : Read Pattern) :
    (fuel : Nat) → (items : List (Option Pattern)) → Read Pattern
  | 0, _ => failure
  | fuel + 1, items => do
    skipSpace
    let flags := (← get).flags
    let add := fun item => readRow dialect inner fuel (some item :: items)
    match ← peek? with
    | none => return inRow items
    | some '|' => return inRow items
    | some ')' => return inRow items
    | some '(' =>
      expect "("
      let item ← readGroup dialect inner
      readRow dialect inner fuel (item :: items)
    | some '[' =>
      expect "["
      let length := (← get).rest.length
      add (.one (← readClass dialect (length + 1)))
    | some '\\' =>
      expect "\\"
      match ← readEscape dialect with
      | .char c => add (.one (← foldedWhenAsked (.single c)))
      | .set set => add (.one set)
      | .pattern pattern => add pattern
    | some '*' =>
      expect "*"
      readRow dialect inner fuel (← repeatLast 0 none items)
    | some '+' =>
      expect "+"
      readRow dialect inner fuel (← repeatLast 1 none items)
    | some '?' =>
      expect "?"
      readRow dialect inner fuel (← repeatLast 0 (some 1) items)
    | some '\x7b' =>
      expect "\x7b"
      let (least, most) ← readBounds
      skipSpace
      readRow dialect inner fuel (← repeatLast least most items)
    | some '.' =>
      expect "."
      add (.one (dot flags))
    | some '^' =>
      expect "^"
      add (lineStart flags)
    | some '$' =>
      expect "$"
      add (lineEnd flags)
    | some c =>
      let _ ← next
      add (.one (← foldedWhenAsked (.single c)))

/-- Reads rows that bars divide. -/
def readChoices (dialect : PatternDialect) : (fuel : Nat) → Read Pattern
  | 0 => failure
  | fuel + 1 => do
    let inner := readChoices dialect fuel
    let row ← readRow dialect inner ((← get).rest.length + 1) []
    if ← skipText "|" then return .either row (← inner) else return row

/-- Reads a pattern that fills the text. -/
def read? (dialect : PatternDialect) (text : String) : Option Pattern :=
  let chars := text.toList
  match (readChoices dialect (chars.length + 1)).run ⟨chars, {}, 0, []⟩ with
  | some (pattern, cursor) => if cursor.rest.isEmpty then some pattern else none
  | none => none

end Pattern.Reader

/-- Reads a pattern for keys of objects. -/
def Pattern.parse? (text : String) : Option Pattern := Pattern.Reader.read? .plain text

/-- Reads a pattern that a schema gives. -/
def Pattern.parseInSchema? (text : String) : Option Pattern :=
  (Pattern.Reader.read? .ascii text).or (Pattern.Reader.read? .lookingAround text)

end SchemaTypes
