import SchemaTypes.Code.Grammar.Attribute

/-!
# Patterns
-/

namespace SchemaTypes

namespace Grammar

open Reader Layout

/-- Words for truth values. -/
def nextIsTruthValue : Reader Bool := do return (← nextIsWord "true") || (← nextIsWord "false")

/-- A literal, or a truth value. -/
def anyLiteral : Reader String := do
  if ← nextIsTruthValue then anyWord else literal

/-- Cases of a pattern with bars between them. -/
def alternativesLayout (cases : List PatternLayout) : Layout :=
  match cases with
  | [single] => single.layout
  | cases =>
    box (cases.any fun case => !case.isPlain) 0
      (joined (space ++ Layout.word "| ") (cases.map (·.layout)))

section

variable (grammar : Grammar)

/-- A pattern with alternatives. -/
def alternatives : Reader Layout := do
  let _ ← if ← nextIs "||" then pure false else take? "|"
  let first ← grammar.pattern
  let others ← while? (do return (← nextIs "|") && !(← nextIs "||") && !(← nextIs "|=")) do
    operator "|"
    grammar.pattern
  return alternativesLayout (first :: others)

/-- A literal with its sign. -/
def signedLiteral : Reader Layout := do
  let sign ← take? "-"
  return Layout.word ((if sign then "-" else "") ++ (← anyLiteral))

/-- A bound of a range pattern. -/
def rangeBound : Reader Layout := do
  if (← nextIs "-") || (← nextIsLiteral) || (← nextIsTruthValue) then signedLiteral
  else return (← anyPath grammar .expression).layout

/-- The operator of a range pattern. -/
def rangeOperator : Reader String := do
  if ← take? "..=" then return "..="
  else if ← take? "..." then return "..."
  else do
    operator ".."
    return ".."

/-- Whether no bound follows the operator of a range. -/
def endsRange : Reader Bool := do
  return (← atEnd) || (← nextIs ",") || (← nextIs ";") || (← nextIs ":") || (← nextIs "|") ||
    (← nextIs "=") || (← nextIsWord "if")

/-- What follows the first bound of a range, if it is one. -/
def rangeTail (first : Layout) (isPlain : Bool) : Reader PatternLayout := do
  if ← nextIs ".." then
    let spelled ← rangeOperator
    let last ← if ← endsRange then pure [] else rangeBound grammar
    return { layout := first ++ Layout.word spelled ++ last }
  return { layout := first, isPlain }

/-- A field of a struct pattern; none for the mark of further fields. -/
def fieldPattern : Reader (Option Layout) := do
  let attributes ← outerAttributes grammar
  if ← take? ".." then return Option.none
  let explicit ← lookahead (do
    let _ ← identifier <|> literal
    expect (do return (← nextIs ":") && !(← nextIs "::")))
  if explicit.isSome then
    let member ← identifier <|> literal
    operator ":"
    return some (attributes ++ Layout.word (member ++ ": ") ++ (← alternatives grammar))
  let byReference ← takeWord? "ref"
  let mutable ← optionalMut
  let name ← identifier
  return some
    (attributes ++ (if byReference then Layout.word "ref " else []) ++ mutable ++ Layout.word name)

/-- Fields in braces behind a path, perhaps with `..` for the other ones. -/
def structPattern (path : Layout) : Reader PatternLayout := do
  let (fields, _) ← elements .brace (fieldPattern grammar)
  let named := fields.filterMap id
  let hasRest := fields.any (·.isNone)
  let body :=
    if hasRest then
      (named.flatMap fun field => field ++ trailingCommaOrSpace false) ++ Layout.word ".." ++ space
    else withEach trailingCommaOrSpace named
  let written :=
    consistentBox indentStep
      (outdentLast (path ++ Layout.word " \x7b" ++ spaceIfNonempty ++ body)) ++
      Layout.word "\x7d"
  return { layout := written }

/-- A pattern that starts with a path. -/
def pathPattern : Reader PatternLayout := do
  let path ← anyPath grammar .expression
  if path.isPlain && (← nextIsMacroMark) then
    operator "!"
    let (delimiter, tokens) ← tokensInside
    return { layout := invocation path.layout Option.none delimiter tokens false }
  if ← nextIsGroup .brace then structPattern grammar path.layout
  else if ← nextIsGroup .parenthesis then
    let (items, _) ← elements .parenthesis (alternatives grammar)
    return { layout := path.layout ++ elementList "(" ")" items }
  else rangeTail grammar path.layout false

/-- A variable, perhaps with a pattern that its value has to match. -/
def variablePattern : Reader PatternLayout := do
  let byReference ← takeWord? "ref"
  let mutable ← optionalMut
  let name ← if ← nextIsWord "self" then anyWord else identifier
  let inner ← behind? "@" grammar.pattern
  let tail :=
    match inner with
    | some pattern => Layout.word " @ " ++ pattern.layout
    | Option.none => []
  let mark := if byReference then Layout.word "ref " else []
  return { layout := mark ++ mutable ++ Layout.word name ++ tail }

/-- A pattern in round brackets, or a tuple of patterns. -/
def parenthesizedPattern : Reader PatternLayout := do
  let (items, trailing) ← elements .parenthesis (alternatives grammar)
  match items, trailing with
  | [item], false => return { layout := Layout.word "(" ++ item ++ Layout.word ")" }
  | items, _ => return { layout := tuple items }

/-- Whether a name stands alone, and so is a variable. -/
def standsAlone (tokens : List Token) : Bool :=
  match tokens with
  | .punct ':' .joint :: .punct ':' _ :: _ => false
  | .punct '!' .joint :: .punct '=' _ :: _ => true
  | .punct '!' _ :: _ => false
  | .group .brace _ :: _ => false
  | .group .parenthesis _ :: _ => false
  | .punct '.' .joint :: .punct '.' _ :: _ => false
  | _ => true

/-- Whether a path comes next, rather than a name that a value is bound to. -/
def startsWithPath : Reader Bool := do
  if (← nextIs "::") || (← nextIs "<") || (← nextIsWord "Self") || (← nextIsWord "super") ||
      (← nextIsWord "crate") then return true
  let tokens ← rest
  return ((← nextIsIdentifier) || (← nextIsWord "self")) && !standsAlone (tokens.drop 1)

/-- A pattern without alternatives. -/
def patternRule : Reader PatternLayout := do
  if ← startsWithPath then pathPattern grammar
  else if ← takeWord? "_" then return { layout := Layout.word "_", isPlain := true }
  else if (← nextIs "-") || (← nextIsLiteral) || (← nextIsTruthValue) then do
    rangeTail grammar (← signedLiteral) true
  else if ← nextIs "&" then do
    operator "&"
    let mutable ← optionalMut
    return { layout := Layout.word "&" ++ mutable ++ (← grammar.pattern).layout }
  else if ← nextIsGroup .parenthesis then parenthesizedPattern grammar
  else if ← nextIsGroup .bracket then do
    let (items, _) ← elements .bracket (alternatives grammar)
    return { layout := Layout.word "[" ++ withEach trailingComma items ++ Layout.word "]" }
  else if ← nextIs ".." then do
    let spelled ← rangeOperator
    let last ← if ← endsRange then pure [] else rangeBound grammar
    return { layout := Layout.word spelled ++ last }
  else variablePattern grammar

end

end Grammar

end SchemaTypes
