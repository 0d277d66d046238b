import SchemaTypes.Code.Token
import SchemaTypes.Text.Layout

/-!
# Layout of token lists

The arguments of macros and attributes are tokens of unknown structure.  Blanks are put between
them by rules that look at a token and at the state that the tokens before it leave.
-/

namespace SchemaTypes

namespace Layout

/-- The bracket in front of a group. -/
def Delimiter.opening : Delimiter → String
  | .parenthesis => "("
  | .bracket => "["
  | .brace => "\x7b"

/-- The bracket behind a group. -/
def Delimiter.closing : Delimiter → String
  | .parenthesis => ")"
  | .bracket => "]"
  | .brace => "\x7d"

/-! ## Macro arguments -/

/-- What came last. -/
inductive MacroState
  | start
  | dollar
  | dollarParen
  | dollarParenSeparator
  | pound
  | poundBang
  | dot
  | colon
  | doubleColon
  | ident
  | identBang
  | closed
  | other
deriving DecidableEq, Repr, Inhabited

/-- Words that a bracket does not follow closely. -/
def spacedWords : List String :=
  ["as", "async", "await", "box", "break", "const", "continue", "crate", "dyn", "else", "enum",
    "extern", "fn", "for", "if", "impl", "in", "let", "loop", "macro", "match", "mod", "move",
    "mut", "pub", "ref", "return", "static", "struct", "super", "trait", "type", "unsafe", "use",
    "where", "while", "yield"]

/-- Whether a group may stand close behind an identifier, as one in braces may not. -/
def isRoundOrSquare : Delimiter → Bool
  | .brace => false
  | _ => true

/-- Whether a blank comes before a token, and the state after it. -/
def macroStep (state : MacroState) (token : Token) : Bool × MacroState :=
  match state, token with
  | .dollar, .ident _ => (false, .other)
  | .dollarParen, .punct '+' .alone => (false, .other)
  | .dollarParen, .punct '*' .alone => (false, .other)
  | .dollarParen, .punct '?' .alone => (false, .other)
  | .dollarParen, .ident _ => (false, .dollarParenSeparator)
  | .dollarParen, .literal _ => (false, .dollarParenSeparator)
  | .dollarParen, .punct _ .joint => (false, .dollarParen)
  | .dollarParen, .punct _ .alone => (false, .dollarParenSeparator)
  | .dollarParenSeparator, .punct '+' _ => (false, .other)
  | .dollarParenSeparator, .punct '*' _ => (false, .other)
  | .pound, .punct '!' _ => (false, .poundBang)
  | .dollar, .group .parenthesis _ => (false, .dollarParen)
  | .pound, .group .bracket _ => (false, .other)
  | .poundBang, .group .bracket _ => (false, .other)
  | .ident, .punct '!' .alone => (false, .identBang)
  | .colon, .punct ':' _ => (false, .doubleColon)
  | state, .group delimiter _ =>
    if isRoundOrSquare delimiter then
      if state == .ident then (false, .closed)
      else if state == .identBang then (false, .other)
      else (true, .closed)
    else (true, .other)
  | state, .ident name =>
    if spacedWords.contains name then (true, .other)
    else (state != .dot && state != .doubleColon, .ident)
  | state, .literal spelling =>
    (state != .dot, if spelling.endsWith "." then .other else .ident)
  | _, .punct ',' _ => (false, .other)
  | _, .punct ';' _ => (false, .other)
  | state, .punct '.' _ => (state != .ident && state != .closed, .dot)
  | state, .punct ':' .joint => (state != .ident, .colon)
  | _, .punct '$' _ => (true, .dollar)
  | _, .punct '#' _ => (true, .pound)
  | _, _ => (true, .other)

/-- The next token follows without a blank or break. -/
def gluesNext : Token → Bool
  | .punct '$' _ => true
  | .punct _ .joint => true
  | _ => false

/-- Whether a token is a point. -/
def isDot : Token → Bool
  | .punct '.' _ => true
  | _ => false

mutual

/-- A token in a call of a macro, in which nothing is known about the meaning of tokens. -/
def macroToken : Token → Layout
  | .ident spelling => word spelling
  | .literal spelling => word spelling
  | .punct c _ => word (String.ofList [c])
  | .group delimiter body =>
    let inner := macroTokensFrom .start true body
    let padding := if delimiter == .brace && !body.isEmpty then space else []
    word (Delimiter.opening delimiter) ++ padding ++ inner ++ padding ++
      word (Delimiter.closing delimiter)

/-- Tokens after those that left `state`; `glued` tells that the first one follows closely. -/
def macroTokensFrom (state : MacroState) (glued : Bool) : List Token → Layout
  | [] => []
  | token :: rest =>
    let (spaced, next) := macroStep state token
    let gap :=
      if glued then []
      else if spaced then space
      else if isDot token then softBreak
      else []
    gap ++ macroToken token ++ macroTokensFrom next (gluesNext token) rest

end

/-- The arguments of a macro. -/
def macroTokens (tokens : List Token) : Layout := macroTokensFrom .start true tokens

/-- A use of a macro. -/
def invocation (path : Layout) (name : Option String) (delimiter : Delimiter)
    (tokens : List Token) (semicolon : Bool) : Layout :=
  let edge := if delimiter == .brace then hardBreak else softBreak
  let body :=
    if tokens.isEmpty then []
    else
      consistentBox indentStep <|
        outdentLast (edge ++ fillBox 0 (macroTokens tokens) ++ edge)
  let named :=
    match name with
    | some name => blank ++ word name
    | none => []
  path ++ word "!" ++ named ++ (if delimiter == .brace then blank else []) ++
    word (Delimiter.opening delimiter) ++ body ++ word (Delimiter.closing delimiter) ++
    (if semicolon && delimiter != .brace then word ";" else [])

/-! ## Attribute arguments -/

/-- What came last among the arguments of an attribute. -/
inductive AttributeState
  | word
  | punct
  | trailingComma
deriving DecidableEq, Repr, Inhabited

/-- The blank between two tokens: a place for a line break inside brackets only. -/
def gap (outer : Bool) : Layout := if outer then blank else space

mutual

/-- A token of an attribute and the state after it.  `outer` tells that no bracket is open and
`final` that nothing follows inside the innermost one. -/
def attributeToken (outer final : Bool) (state : AttributeState) : Token → Layout × AttributeState
  | .ident spelling =>
    ((if state == .word then gap outer else []) ++ Layout.word spelling, .word)
  | .literal spelling =>
    ((if state == .word then gap outer else []) ++ Layout.word spelling, .word)
  | .punct ',' _ =>
    if final then (Layout.trailingComma true, .trailingComma)
    else (Layout.word "," ++ gap outer, .punct)
  | .punct '=' _ =>
    ((if state == .word then blank else []) ++ Layout.word "=" ++ blank, .punct)
  | .punct c _ => (Layout.word (String.ofList [c]), .punct)
  | .group .parenthesis body =>
    let (inner, last) := attributeTokensFrom false .punct body
    let finish := if last == .trailingComma then [] else softBreak
    (Layout.word "(" ++
        consistentBox indentStep (outdentLast (softBreak ++ inner ++ finish)) ++ Layout.word ")",
      .punct)
  | .group delimiter body =>
    let (inner, _) := attributeTokensFrom false .punct body
    (Layout.word (Delimiter.opening delimiter) ++ inner ++
      Layout.word (Delimiter.closing delimiter), .punct)

/-- The tokens of an attribute, each with the blank that the token before it asks for. -/
def attributeTokensFrom (outer : Bool) (state : AttributeState) :
    List Token → Layout × AttributeState
  | [] => ([], state)
  | token :: rest =>
    let (first, next) := attributeToken outer rest.isEmpty state token
    let (others, last) := attributeTokensFrom outer next rest
    (first ++ others, last)

end

/-- The arguments of an attribute in their brackets. -/
def attributeArguments (delimiter : Delimiter) (tokens : List Token) : Layout :=
  (attributeToken true true .punct (.group delimiter tokens)).1

end Layout

end SchemaTypes
