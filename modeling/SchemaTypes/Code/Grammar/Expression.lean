import SchemaTypes.Code.Grammar.Pattern

/-!
# Expressions and statements

Binary operators bind by precedence; comparisons and ranges do not chain.  A statement that starts
with a block, a match, a loop or a condition ends with it, unless a member follows.
-/

namespace SchemaTypes

namespace Grammar

open Reader Layout

/-- How closely an operator binds. -/
abbrev Precedence := Nat

/-- Precedence of what goes on with no expression. -/
def Precedence.lowest : Precedence := 0

/-- Precedence of `=`, which compound assignments share. -/
def Precedence.assignment : Precedence := 1

/-- Precedence of `..` and `..=`. -/
def Precedence.range : Precedence := 2

/-- Precedence of comparisons, which do not chain. -/
def Precedence.comparison : Precedence := 5

/-- Precedence of `as`, the closest one. -/
def Precedence.cast : Precedence := 12

/-- Binary operators, longer ones before their beginnings. -/
def binaryOperators : List (String × Precedence) :=
  [("+=", 1), ("-=", 1), ("*=", 1), ("/=", 1), ("%=", 1), ("^=", 1), ("&=", 1), ("|=", 1),
    ("<<=", 1), (">>=", 1), ("&&", 4), ("||", 3), ("<<", 9), (">>", 9), ("==", 5), ("<=", 5),
    ("!=", 5), (">=", 5), ("+", 10), ("-", 10), ("*", 11), ("/", 11), ("%", 11), ("^", 7),
    ("&", 8), ("|", 6), ("<", 5), (">", 5)]

/-- The binary operator that comes next. -/
def nextOperator? : Reader (Option (String × Precedence)) := do
  let tokens ← rest
  return binaryOperators.find? fun entry => (afterOperator? entry.1.toList tokens).isSome

/-- Whether an assignment comes next. -/
def nextIsAssignment : Reader Bool := do
  return (← nextIs "=") && !(← nextIs "=>")

/-- Precedence of what comes next, if it goes on with an expression. -/
def nextPrecedence : Reader Precedence := do
  match ← nextOperator? with
  | some (_, precedence) => return precedence
  | Option.none =>
    if ← nextIsAssignment then return Precedence.assignment
    else if ← nextIs ".." then return Precedence.range
    else if ← nextIsWord "as" then return Precedence.cast
    else return Precedence.lowest

/-- An operand, and what it must not be followed by. -/
structure Operand where
  expression : ExpressionLayout
  isRange : Bool := false
  isComparison : Bool := false

/-- Attributes in front of an expression. -/
def attributed (attributes : Layout) (expression : ExpressionLayout) : ExpressionLayout :=
  if attributes.isEmpty then expression
  else
    { expression with
      written := fun lineStart => attributes ++ expression.written lineStart
      chained := fun _ => consistentBox (-indentStep) (attributes ++ expression.layout)
      armBody := ExpressionLayout.armBodyOf (attributes ++ expression.written true)
        expression.traits
      traits := { expression.traits with
        isShortName := false, isBlockLike := false, isSmallLiteral := false, isOpenBody := false } }

section

variable (grammar : Grammar)

/-! ## Parts of expressions -/

/-- The arguments of a call. -/
def callArguments : Reader (List ExpressionLayout) := do
  return (← elements .parenthesis (grammar.expression true)).1

/-- The name of a field: a word, or the position in a tuple. -/
def memberName : Reader String := do
  if ← nextIsLiteral then
    let spelling ← literal
    if spelling.toList.all Char.isDigit then return spelling else refuse
  else identifier

/-- A field of a struct literal, or the struct behind `..` that the other fields come from. -/
def structField : Reader (Layout × Option ExpressionLayout) := do
  if ← take? ".." then return ([], some (← grammar.expression true))
  let attributes ← outerAttributes grammar
  let member ← memberName
  if ← take? ":" then
    return (attributes ++ ExpressionLayout.fieldValue member (← grammar.expression true),
      Option.none)
  return (attributes ++ Layout.word member, Option.none)

/-- A struct literal behind its path.  The struct that other fields come from is named once at most,
last and without a comma. -/
def structLiteral (path : Layout) : Reader ExpressionLayout := do
  let (fields, trailing) ← elements .brace (structField grammar)
  let rest := fields.getLast?.bind (·.2)
  let named := (fields.filter (·.2.isNone)).map (·.1)
  let bases := fields.length - named.length
  if bases > 1 || (bases == 1 && (rest.isNone || trailing)) then refuse
  return ExpressionLayout.struct path named rest

/-- An expression that starts with a path. -/
def pathExpression (structs : Bool) : Reader ExpressionLayout := do
  let path ← anyPath grammar .expression
  if path.isPlain && (← nextIsMacroMark) then
    operator "!"
    let (delimiter, tokens) ← tokensInside
    return .simple (invocation path.layout Option.none delimiter tokens false)
  if structs && (← nextIsGroup .brace) then structLiteral grammar path.layout
  else return .ofPath path.layout path.name

/-- An expression in round brackets, or a tuple. -/
def parenthesizedExpression : Reader ExpressionLayout := do
  let (items, trailing) ← elements .parenthesis (grammar.expression true)
  match items, trailing with
  | [item], false =>
    return .simple (Layout.word "(" ++ item.layout ++ Layout.word ")")
      { wrapsAsCondition := item.traits.wrapsAsCondition }
  | items, _ => return .tupleOf items

/-- An array by its items, or by one item and a length. -/
def bracketExpression : Reader ExpressionLayout :=
  inside .bracket do
    if ← atEnd then return .array []
    let first ← grammar.expression true
    if ← take? ";" then
      let length ← grammar.expression true
      return .simple
        (Layout.word "[" ++ first.layout ++ Layout.word "; " ++ length.layout ++ Layout.word "]")
    let others ←
      if ← take? "," then do pure (← commaList atEnd (grammar.expression true)).1 else pure []
    return .array (first :: others)

/-- Whether a literal begins like a number. -/
def isNumber (spelling : String) : Bool := spelling.toList.head?.any Char.isDigit

/-- A number without a point, an exponent or the suffix of such numbers, a character or a byte. -/
def isSmallLiteral (spelling : String) : Bool :=
  let chars := spelling.toList
  if !isNumber spelling then chars.head? == some '\'' || chars.take 2 == ['b', '\'']
  else if (Lexer.integerBase chars).1 != 10 then true
  else
    !(chars.contains '.' || chars.contains 'e' || chars.contains 'E' ||
      spelling.endsWith "f32" || spelling.endsWith "f64")

/-- A literal, or one of the words `true` and `false`. -/
def literalExpression : Reader ExpressionLayout := do
  if ← nextIsTruthValue then return .simple (Layout.word (← anyWord)) { isSmallLiteral := true }
  let spelling ← literal
  return .simple (Layout.word spelling) { isSmallLiteral := isSmallLiteral spelling }

/-! ## Closures -/

/-- A parameter of a closure; its type may be left out. -/
def closureParameter : Reader Layout := do
  let attributes ← outerAttributes grammar
  let pattern ← grammar.pattern
  match ← behind? ":" (grammar.type true) with
  | some type => return attributes ++ pattern.layout ++ Layout.word ": " ++ type
  | Option.none => return attributes ++ pattern.layout

/-- The words that may stand in front of a closure. -/
def closureWords : List String := ["const", "static", "async", "move"]

/-- Whether a closure comes next. -/
def startsClosure : Reader Bool := do
  let tokens := (← rest).dropWhile fun token => closureWords.any (isWord · token)
  return (afterOperator? ['|'] tokens).isSome

/-- A closure.  Behind a return type its body is a block. -/
def closureExpression (structs : Bool) : Reader ExpressionLayout := do
  let words ← while? (do return (← rest).head?.any fun t => closureWords.any (isWord · t)) anyWord
  operator "|"
  let (parameters, _) ← commaList (nextIs "|") (closureParameter grammar)
  operator "|"
  let output ← behind? "->" (grammar.type false)
  let body ←
    if output.isSome then do pure (ExpressionLayout.block Option.none (← grammar.block))
    else grammar.expression structs
  return .closure (String.join (words.map (· ++ " "))) parameters output body

/-! ## Control flow -/

/-- Branches of a condition, from the word `if` on. -/
def conditionRule :
    (fuel : Nat) → Reader (ExpressionLayout × BlockLayout × ExpressionLayout.Otherwise)
  | 0 => refuse
  | fuel + 1 => do
    Reader.word "if"
    let cond ← grammar.expression false
    let body ← grammar.block
    if ← takeWord? "else" then
      if ← nextIsWord "if" then
        let (cond', body', otherwise) ← conditionRule fuel
        return (cond, body,
          .branch (ExpressionLayout.branches cond' body' otherwise true) otherwise.dropsSemicolon)
      else return (cond, body, .block (← grammar.block))
    return (cond, body, .none)

/-- A condition with all its branches. -/
def ifExpression : Reader ExpressionLayout := do
  let (cond, body, otherwise) ← conditionRule grammar ((← rest).length + 1)
  return .ifElse cond body otherwise

/-- An arm of a match. -/
def armRule : Reader Layout := do
  let attributes ← outerAttributes grammar
  let pattern ← alternatives grammar
  let guard ←
    if ← takeWord? "if" then do pure (some (← grammar.expression true)) else pure Option.none
  operator "=>"
  let body ← grammar.statement
  if ← take? "," then pure ()
  else if body.traits.isStatement || (← atEnd) then pure ()
  else refuse
  return ExpressionLayout.arm attributes pattern guard body

/-- A match with its arms. -/
def matchExpression : Reader ExpressionLayout := do
  Reader.word "match"
  let scrutinee ← grammar.expression false
  inside .brace do
    let attributes ← innerAttributes grammar
    return .matchOn scrutinee attributes (← toEnd (armRule grammar))

/-- A label in front of a loop or block. -/
def optionalLabel : Reader (Option String) := do
  if ← nextIsLifetime then
    let name ← lifetime
    operator ":"
    return some name
  return Option.none

/-- A loop or a block, perhaps with a label. -/
def labelledExpression : Reader ExpressionLayout := do
  let label ← optionalLabel
  if ← takeWord? "while" then
    let cond ← grammar.expression false
    return .whileLoop label cond (← grammar.block)
  else if ← takeWord? "loop" then return .loop label (← grammar.block)
  else if ← takeWord? "for" then
    let pattern ← alternatives grammar
    Reader.word "in"
    let items ← grammar.expression false
    return .forLoop label pattern items (← grammar.block)
  else return .block label (← grammar.block)

/-- Whether a jump carries no value. -/
def endsJump (structs : Bool) : Reader Bool := do
  return (← atEnd) || (← nextIs ",") || (← nextIs ";") || (!structs && (← nextIsGroup .brace))

/-- The value that a jump carries, if there is one. -/
def jumpValue (structs : Bool) : Reader (Option ExpressionLayout) := do
  if ← endsJump structs then return Option.none
  else return some (← grammar.expression structs)

/-! ## Operands -/

/-- An expression that ends with its own last token. -/
def atom (structs : Bool) : Reader ExpressionLayout := do
  if (← nextIsLiteral) || (← nextIsTruthValue) then literalExpression
  else if ← startsClosure then closureExpression grammar structs
  else if ← nextIsGroup .parenthesis then parenthesizedExpression grammar
  else if ← nextIsGroup .bracket then bracketExpression grammar
  else if (← nextIsGroup .brace) || (← nextIsLifetime) then labelledExpression grammar
  else if ← nextIsWord "if" then ifExpression grammar
  else if ← nextIsWord "match" then matchExpression grammar
  else if (← nextIsWord "while") || (← nextIsWord "loop") || (← nextIsWord "for") then
    labelledExpression grammar
  else if ← takeWord? "unsafe" then return .wordBlock "unsafe " (← grammar.block)
  else if ← takeWord? "const" then return .wordBlock "const " (← grammar.block)
  else if ← takeWord? "async" then
    let moves ← takeWord? "move"
    let block := ExpressionLayout.wordBlock (if moves then "async move " else "async ")
      (← grammar.block)
    return { block with traits := { block.traits with isStatement := false } }
  else if ← takeWord? "break" then
    let label ← if ← nextIsLifetime then do pure (some (← lifetime)) else pure Option.none
    return .jump "break" label (← jumpValue grammar structs)
  else if ← takeWord? "continue" then
    let label ← if ← nextIsLifetime then do pure (some (← lifetime)) else pure Option.none
    return .jump "continue" label Option.none
  else if ← takeWord? "return" then return .jump "return" Option.none (← jumpValue grammar structs)
  else if ← takeWord? "let" then
    let pattern ← alternatives grammar
    operator "="
    return .letIn pattern (← grammar.expression false)
  else if ← takeWord? "_" then return .simple (Layout.word "_")
  else pathExpression grammar structs

/-- A member of a tuple inside a tuple, which is spelled like a number with a point. -/
def splitMember (base : ExpressionLayout) : Reader ExpressionLayout := do
  match ← rest with
  | .literal spelling :: rest =>
    match Text.split '.' spelling with
    | [first, second] =>
      if first.toList.all Char.isDigit && second.toList.all Char.isDigit &&
          !first.isEmpty && !second.isEmpty then do
        advance [.literal first, .punct '.' .alone, .literal second] rest
        return .field (.field base first) second
      else refuse
    | _ => refuse
  | _ => refuse

/-- What follows the point of a member. -/
def memberRule (base : ExpressionLayout) : Reader ExpressionLayout := do
  if ← takeWord? "await" then
    let await := ExpressionLayout.field base "await"
    return { await with traits := { await.traits with isPlace := false } }
  else if ← nextIsLiteral then
    match ← lookahead memberName with
    | some _ => return .field base (← memberName)
    | Option.none => splitMember base
  else
    let method ← identifier
    let turbofish ←
      if ← take? "::" then
        operator "<"
        let fuel ← pathFuel
        let (arguments, _) ← commaList (nextIs ">") (argument grammar fuel)
        operator ">"
        pure (some (angleArguments true arguments))
      else pure Option.none
    if turbofish.isSome || (← nextIsGroup .parenthesis) then
      return .methodCall base method (turbofish.getD []) (← callArguments grammar)
    else return .field base method

/-- Whether a member comes next. -/
def nextIsMember : Reader Bool := do return (← nextIs ".") && !(← nextIs "..")

/-- The calls, members and indices behind an expression. -/
def trailers : (fuel : Nat) → (base : ExpressionLayout) → Reader ExpressionLayout
  | 0, _ => refuse
  | fuel + 1, base => do
    if ← nextIsGroup .parenthesis then trailers fuel (.call base (← callArguments grammar))
    else if ← nextIsMember then do
      operator "."
      trailers fuel (← memberRule grammar base)
    else if ← nextIsGroup .bracket then
      trailers fuel (.index base (← inside .bracket (grammar.expression true)))
    else if ← take? "?" then trailers fuel (.attempt base)
    else return base

/-- An expression with all calls, members and indices behind it. -/
def withTrailers (base : ExpressionLayout) : Reader ExpressionLayout := do
  trailers grammar ((← rest).length + 1) base

/-- Operators in front of an operand. -/
def unary (structs : Bool) : (fuel : Nat) → Reader ExpressionLayout
  | 0 => refuse
  | fuel + 1 => do
    let attributes ← outerAttributes grammar
    if ← take? "&" then
      if (← nextIsWord "raw") && ((← secondIsWord "const") || (← secondIsWord "mut")) then
        let _ ← anyWord
        let kind ← anyWord
        return attributed attributes (.prefixed ("&raw " ++ kind ++ " ") (← unary structs fuel))
      let mutable ← takeWord? "mut"
      return attributed attributes
        (.prefixed (if mutable then "&mut " else "&") (← unary structs fuel))
    else if ← take? "*" then return attributed attributes (.prefixed "*" (← unary structs fuel))
    else if ← take? "!" then return attributed attributes (.prefixed "!" (← unary structs fuel))
    else if ← take? "-" then return attributed attributes (.prefixed "-" (← unary structs fuel))
    else return attributed attributes (← withTrailers grammar (← atom grammar structs))

/-- Whether no bound follows the operator of a range. -/
def endsRangeExpression (structs : Bool) : Reader Bool := do
  return (← atEnd) || (← nextIs ",") || (← nextIs ";") || (← nextIsMember) || (← nextIs "?") ||
    (← nextIs "=>") || (!structs && (← nextIsGroup .brace)) || (← nextIs "=") ||
    (← nextIsWord "as")

mutual

/-- Goes on with operators that bind at least as closely as `base`. -/
def binaryFrom (fuel : Nat) (structs : Bool) (base : Precedence) (left : Operand) :
    Reader Operand := do
  match fuel with
  | 0 => refuse
  | fuel + 1 =>
    if left.isRange then return left
    match ← nextOperator? with
    | some (spelling, precedence) => do
      if precedence < base then return left
      if precedence == Precedence.comparison && left.isComparison then refuse
      operator spelling
      let right ← binaryRight fuel structs precedence
      binaryFrom fuel structs base {
        expression := .binary spelling (precedence == Precedence.assignment) left.expression
          right.expression
        isComparison := precedence == Precedence.comparison }
    | Option.none => do
      if Precedence.assignment ≥ base && (← nextIsAssignment) then
        operator "="
        let right ← binaryRight fuel structs Precedence.assignment
        binaryFrom fuel structs base { expression := .assign left.expression right.expression }
      else if Precedence.range ≥ base && (← nextIs "..") then
        let (spelling, last) ← rangeEnd fuel structs
        binaryFrom fuel structs base
          { expression := .range (some left.expression) spelling last, isRange := true }
      else if Precedence.cast ≥ base && (← takeWord? "as") then
        let type ← grammar.type false
        binaryFrom fuel structs base { expression := .cast left.expression type }
      else return left

/-- The operand behind an operator, with what binds more closely. -/
def binaryRight (fuel : Nat) (structs : Bool) (precedence : Precedence) : Reader Operand := do
  match fuel with
  | 0 => refuse
  | fuel + 1 =>
    let first ← operand fuel structs
    closerThan fuel structs precedence first

/-- Goes on while what comes next binds more closely than `precedence`. -/
def closerThan (fuel : Nat) (structs : Bool) (precedence : Precedence) (left : Operand) :
    Reader Operand := do
  match fuel with
  | 0 => refuse
  | fuel + 1 =>
    let next ← nextPrecedence
    if left.isRange then return left
    if next > precedence || (next == precedence && precedence == Precedence.assignment) then
      closerThan fuel structs precedence (← binaryFrom fuel structs next left)
    else return left

/-- An operand; a range may start with its operator. -/
def operand (fuel : Nat) (structs : Bool) : Reader Operand := do
  match fuel with
  | 0 => refuse
  | fuel + 1 =>
    if ← nextIs ".." then
      let (spelling, last) ← rangeEnd fuel structs
      return { expression := .range Option.none spelling last, isRange := true }
    return { expression := ← unary grammar structs ((← rest).length + 1) }

/-- The operator of a range and the bound behind it. -/
def rangeEnd (fuel : Nat) (structs : Bool) : Reader (String × Option ExpressionLayout) := do
  match fuel with
  | 0 => refuse
  | fuel + 1 =>
    if ← take? "..=" then
      return ("..=", some (← binaryRight fuel structs Precedence.range).expression)
    operator ".."
    if ← endsRangeExpression structs then return ("..", Option.none)
    return ("..", some (← binaryRight fuel structs Precedence.range).expression)

end

/-- Bound on the number of operators, of which each is counted a few times. -/
def operatorFuel : Reader Nat := do return 4 * ((← rest).length + 1)

/-- Goes on with operators behind an expression. -/
def withOperators (structs : Bool) (first : Operand) : Reader ExpressionLayout := do
  return (← binaryFrom grammar (← operatorFuel) structs Precedence.lowest first).expression

/-- An expression. -/
def expressionRule (structs : Bool) : Reader ExpressionLayout := do
  withOperators grammar structs (← operand grammar (← operatorFuel) structs)

/-! ## Statements -/

/-- Words that an expression starts with that is a statement of its own. -/
def statementWords : List String := ["if", "match", "while", "loop", "for"]

/-- An expression that ends at the beginning of a statement, if one comes next. -/
def startsBlockStatement : Reader Bool := do
  if (← rest).head?.any fun token => statementWords.any (isWord · token) then return true
  if (← nextIsGroup .brace) || (← nextIsLifetime) then return true
  let isBraced := ((← rest)[1]?).any (isGroup .brace)
  return isBraced && ((← nextIsWord "unsafe") || (← nextIsWord "const"))

/-- An expression at the beginning of a statement. -/
def statementRule : Reader ExpressionLayout := do
  let attributes ← outerAttributes grammar
  if ← startsBlockStatement then
    let block ← atom grammar true
    if (← nextIsMember) || (← nextIs "?") then
      let base ← withTrailers grammar block
      withOperators grammar true { expression := attributed attributes base }
    else return attributed attributes block
  else if attributes.isEmpty then expressionRule grammar true
  else
    let first ← unary grammar true ((← rest).length + 1)
    withOperators grammar true { expression := attributed attributes first }

/-- A statement of a block. -/
structure StatementLayout where
  layout : Layout
  /-- The expression, when it has no semicolon. -/
  expression : Option ExpressionLayout := Option.none
  /-- Nothing may follow without a semicolon. -/
  mustBeLast : Bool := false

/-- A declaration of variables, with `else` for a pattern that may not match. -/
def letRule (attributes : Layout) : Reader StatementLayout := do
  Reader.word "let"
  let pattern ← alternatives grammar
  let type ← behind? ":" (grammar.type true)
  let typed :=
    match type with
    | some type => pattern ++ Layout.word ": " ++ type
    | Option.none => pattern
  let value ← behind? "=" (grammar.expression true)
  let otherwise ←
    if ← takeWord? "else" then do pure (some (ExpressionLayout.smallBlock (← grammar.block)))
    else pure Option.none
  operator ";"
  return { layout := ExpressionLayout.letStatement attributes typed value otherwise }

/-- A macro as a statement. -/
def macroStatement (attributes : Layout) : Reader StatementLayout := do
  let path ← path grammar .expression
  if !path.isPlain then refuse
  operator "!"
  let (delimiter, tokens) ← tokensInside
  if delimiter == .brace then
    if (← nextIsMember) || (← nextIs "?") then refuse
    let _ ← take? ";"
  else operator ";"
  return {
    layout := attributes ++ invocation path.layout Option.none delimiter tokens true ++ hardBreak }

/-- Words that an item starts with. -/
def itemWords : List String :=
  ["use", "static", "fn", "mod", "type", "struct", "enum", "trait", "impl", "pub", "extern"]

/-- Whether an item comes next. -/
def startsItem : Reader Bool := do
  if (← rest).head?.any fun token => itemWords.any (isWord · token) then return true
  let second := (← rest)[1]?
  if ← nextIsWord "const" then
    return second.any fun token => isIdentifierToken token || isWord "_" token ||
      isWord "fn" token || isWord "unsafe" token
  if (← nextIsWord "unsafe") || (← nextIsWord "async") then
    return second.any fun token => ["fn", "impl", "trait", "extern"].any (isWord · token)
  return false

/-- An expression as a statement.  Without a semicolon it may be the value of its block. -/
def expressionStatement (attributes : Layout) : Reader StatementLayout := do
  let expression := attributed attributes (← grammar.statement)
  if ← take? ";" then return { layout := expression.statement }
  return {
    layout := expression.lastStatement
    expression := some expression
    mustBeLast := !expression.traits.isStatement }

/-- A semicolon, an item, a declaration, a call of a macro in braces or an expression, whichever
comes first in this order. -/
def oneStatement : Reader StatementLayout := do
  if ← take? ";" then return { layout := [] }
  let withAttributes ← lookahead (do
    let _ ← outerAttributes grammar
    startsItem)
  if withAttributes == some true then return { layout := ← grammar.item }
  let attributes ← outerAttributes grammar
  if ← nextIsWord "let" then letRule grammar attributes
  else
    match ← lookahead (macroStatement grammar attributes) with
    | some _ => macroStatement grammar attributes
    | Option.none => expressionStatement grammar attributes

/-- A block in braces. -/
def blockRule : Reader BlockLayout :=
  inside .brace do
    let attributes ← innerAttributes grammar
    let statements ← toEnd (oneStatement grammar)
    if statements.dropLast.any (·.mustBeLast) then refuse
    let single :=
      match statements with
      | [statement] =>
        statement.expression.map fun expression =>
          (fillBox 0 (expression.written true), expression.armBody)
      | _ => Option.none
    return ⟨attributes, (statements.map (·.layout)).flatten, single⟩

end

end Grammar

end SchemaTypes
