import SchemaTypes.Code.Basic
import SchemaTypes.Code.Layout.Expression

/-!
# Readers of tokens

A reader takes tokens off the front of a list, or refuses.  Besides what is left it keeps the
tokens it has taken in their canonical form, in which operators are joined and brackets of types
are not.

## Main definitions

* `Reader` and the readers of single tokens.
* `Grammar`: the readers that the rules of a language call each other through.
-/

namespace SchemaTypes

namespace Grammar

/-- Where a reader is in the tokens of its brackets. -/
structure Cursor where
  rest : List Token
  /-- Canonical tokens taken so far, last one first. -/
  taken : List Token := []
deriving Repr, Inhabited

/-- Takes tokens off the front, or refuses. -/
abbrev Reader := StateT Cursor Option

namespace Reader

/-- Gives up: the code is not of the form that is read. -/
def refuse {α : Type} : Reader α := failure

/-- The tokens that are still to be read. -/
def rest : Reader (List Token) := do return (← get).rest

/-- Whether all tokens are read. -/
def atEnd : Reader Bool := do return (← rest).isEmpty

/-- Goes on behind some tokens, which are kept in the form given. -/
def advance (canonical : List Token) (rest : List Token) : Reader Unit :=
  modify fun cursor => ⟨rest, canonical.reverse ++ cursor.taken⟩

/-- What a reader would give, without taking anything; nothing when it refuses. -/
def lookahead {α : Type} (reader : Reader α) : Reader (Option α) := fun cursor =>
  some ((reader cursor).map (·.1), cursor)

/-! ## Single tokens -/

/-- The tokens behind an operator. -/
def afterOperator? : List Char → List Token → Option (List Token)
  | [], tokens => some tokens
  | [c], .punct d _ :: rest => if c == d then some rest else none
  | c :: more, .punct d .joint :: rest => if c == d then afterOperator? more rest else none
  | _, _ => none

/-- Whether an operator comes next. -/
def nextIs (operator : String) : Reader Bool := do
  return (afterOperator? operator.toList (← rest)).isSome

/-- Takes an operator if it comes next, and tells so. -/
def take? (operator : String) : Reader Bool := do
  match afterOperator? operator.toList (← rest) with
  | some rest => do
    advance (Code.operator operator).tokens rest
    return true
  | none => return false

/-- Gives up unless a condition holds. -/
def expect (condition : Reader Bool) : Reader Unit := do
  if !(← condition) then refuse

/-- Takes an operator that has to be there. -/
def operator (spelling : String) : Reader Unit := expect (take? spelling)

/-- Whether a token is this word. -/
def isWord (spelling : String) : Token → Bool
  | .ident name => name == spelling
  | _ => false

/-- Whether a word comes next. -/
def nextIsWord (spelling : String) : Reader Bool := do
  return (← rest).head?.any (isWord spelling)

/-- The token behind the next one is the given word. -/
def secondIsWord (spelling : String) : Reader Bool := do
  return ((← rest)[1]?).any (isWord spelling)

/-- Takes a word if it comes next, and tells whether it did. -/
def takeWord? (spelling : String) : Reader Bool := do
  match ← rest with
  | .ident name :: rest =>
    if name == spelling then do
      advance [.ident name] rest
      return true
    else return false
  | _ => return false

/-- Takes a word that has to be there. -/
def word (spelling : String) : Reader Unit := expect (takeWord? spelling)

/-- Any word, keywords included. -/
def anyWord : Reader String := do
  match ← rest with
  | .ident name :: rest => do
    advance [.ident name] rest
    return name
  | _ => refuse

/-- Words that are no identifiers. -/
def keywords : List String :=
  ["_", "abstract", "as", "async", "await", "become", "box", "break", "const", "continue",
    "crate", "do", "dyn", "else", "enum", "extern", "false", "final", "fn", "for", "if", "impl",
    "in", "let", "loop", "macro", "match", "mod", "move", "mut", "override", "priv", "pub", "ref",
    "return", "Self", "self", "static", "struct", "super", "trait", "true", "try", "type",
    "typeof", "unsafe", "unsized", "use", "virtual", "where", "while", "yield"]

/-- Whether a token is an identifier and no keyword. -/
def isIdentifierToken : Token → Bool
  | .ident name => !keywords.contains name
  | _ => false

/-- Whether an identifier comes next. -/
def nextIsIdentifier : Reader Bool := do return (← rest).head?.any isIdentifierToken

/-- Takes an identifier that has to be there. -/
def identifier : Reader String := do
  expect nextIsIdentifier
  anyWord

/-- A lifetime or label, with its mark. -/
def lifetime : Reader String := do
  match ← rest with
  | .punct '\'' .joint :: .ident name :: rest => do
    advance [.punct '\'' .joint, .ident name] rest
    return "'" ++ name
  | _ => refuse

/-- Whether a lifetime comes next. -/
def nextIsLifetime : Reader Bool := do return (← lookahead lifetime).isSome

/-- Takes a literal as it is spelled. -/
def literal : Reader String := do
  match ← rest with
  | .literal spelling :: rest => do
    advance [.literal spelling] rest
    return spelling
  | _ => refuse

/-- Whether a literal comes next. -/
def nextIsLiteral : Reader Bool := do return (← lookahead literal).isSome

/-! ## Brackets -/

/-- Whether a token is a group in some brackets. -/
def isGroup (delimiter : Delimiter) : Token → Bool
  | .group actual _ => actual == delimiter
  | _ => false

/-- Whether a group in some brackets comes next. -/
def nextIsGroup (delimiter : Delimiter) : Reader Bool := do
  return (← rest).head?.any (isGroup delimiter)

/-- Reads all that is in brackets. -/
def inside {α : Type} (delimiter : Delimiter) (reader : Reader α) : Reader α := do
  match ← rest with
  | .group actual body :: rest =>
    if actual != delimiter then refuse
    else
      match reader ⟨body, []⟩ with
      | some (value, ⟨[], taken⟩) => do
        advance [.group delimiter taken.reverse] rest
        return value
      | _ => refuse
  | _ => refuse

/-- The tokens in the next brackets, as they are. -/
def tokensInside : Reader (Delimiter × List Token) := do
  match ← rest with
  | .group delimiter body :: rest => do
    advance [.group delimiter body] rest
    return (delimiter, body)
  | _ => refuse

/-! ## Repetition -/

/-- Repeats a reader while a condition holds, at most `count` times. -/
def repeated {α : Type} (condition : Reader Bool) (reader : Reader α) :
    (count : Nat) → Reader (List α)
  | 0 => return []
  | count + 1 => do
    if ← condition then
      let first ← reader
      return first :: (← repeated condition reader count)
    else return []

/-- Repeats a reader while a condition holds. -/
def while? {α : Type} (condition : Reader Bool) (reader : Reader α) : Reader (List α) := do
  repeated condition reader ((← rest).length + 1)

/-- Repeats a reader to the end. -/
def toEnd {α : Type} (reader : Reader α) : Reader (List α) :=
  while? (do return !(← atEnd)) reader

/-- Elements with an operator after each, which the last one may lack. -/
def separatedFrom {α : Type} (separator : String) (closed : Reader Bool) (reader : Reader α) :
    (count : Nat) → Reader (List α × Bool)
  | 0 => return ([], true)
  | count + 1 => do
    if ← closed then return ([], true)
    let first ← reader
    if ← take? separator then
      let (others, trailing) ← separatedFrom separator closed reader count
      return (first :: others, trailing)
    else return ([first], false)

/-- Elements with commas between them up to a closing condition, and whether a comma follows the
last one. -/
def commaList {α : Type} (closed : Reader Bool) (reader : Reader α) : Reader (List α × Bool) := do
  separatedFrom "," closed reader ((← rest).length + 1)

/-- Elements with commas between them in brackets. -/
def elements {α : Type} (delimiter : Delimiter) (reader : Reader α) : Reader (List α × Bool) :=
  inside delimiter (commaList atEnd reader)

/-- One or more elements with an operator between them. -/
def joinedBy {α : Type} (separator : String) (reader : Reader α) : Reader (List α) := do
  let first ← reader
  let others ← while? (nextIs separator) do
    operator separator
    reader
  return first :: others

/-- A reader behind an operator, if the operator comes next. -/
def behind? {α : Type} (introducer : String) (reader : Reader α) : Reader (Option α) := do
  if ← take? introducer then return some (← reader) else return none

end Reader

/-- A pattern, and whether it is one that refuses little: a literal or the wild card. -/
structure PatternLayout where
  layout : Layout
  isPlain : Bool := false
deriving Repr, Inhabited

end Grammar

open Grammar in
/-- The readers that rules call each other through. -/
structure Grammar where
  /-- A type; the argument tells whether it may be a sum of bounds. -/
  type : (sums : Bool) → Reader Layout
  /-- A pattern without alternatives. -/
  pattern : Reader PatternLayout
  /-- An expression; the argument tells whether a brace may follow the name of a struct. -/
  expression : (structs : Bool) → Reader ExpressionLayout
  /-- An expression at the beginning of a statement, where a block ends it. -/
  statement : Reader ExpressionLayout
  block : Reader BlockLayout
  item : Reader Layout

namespace Grammar

/-- Refuses everything. -/
def none : Grammar where
  type _ := Reader.refuse
  pattern := Reader.refuse
  expression _ := Reader.refuse
  statement := Reader.refuse
  block := Reader.refuse
  item := Reader.refuse

end Grammar

end SchemaTypes
