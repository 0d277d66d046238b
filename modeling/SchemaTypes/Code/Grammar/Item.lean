import SchemaTypes.Code.Grammar.Expression

/-!
# Items and files

Every item ends in a line break.  A file is a sequence of items.
-/

namespace SchemaTypes

namespace Grammar

open Reader Layout

section

variable (grammar : Grammar)

/-! ## Parts of items -/

/-- Modules of a path in a visibility. -/
def modulePath : Reader Layout := simplePath grammar

/-- Who may use an item. -/
def visibility : Reader Layout := do
  if !(← takeWord? "pub") then return []
  let scope : Reader Layout :=
    inside .parenthesis do
      if ← takeWord? "in" then return Layout.word "in " ++ (← modulePath grammar)
      else if (← nextIsWord "crate") || (← nextIsWord "self") || (← nextIsWord "super") then
        return Layout.word (← anyWord)
      else refuse
  match ← lookahead scope with
  | some _ => return Layout.word "pub(" ++ (← scope) ++ Layout.word ") "
  | Option.none => return Layout.word "pub "

/-- Lines in braces, behind a head; everything is in one box. -/
def bracedLines (head attributes : Layout) (lines : List Layout) : Layout :=
  consistentBox indentStep
    (outdentLast
      (head ++ Layout.word "\x7b" ++ hardBreakIfNonempty ++ attributes ++ lines.flatten)) ++
    Layout.word "\x7d"

/-- The conditions that may follow the head of an item with a body. -/
def conditionsThenBody : Reader Layout := do
  return conditionsBeforeBody (← optionalConditions grammar)

/-! ## Functions -/

/-- The receiver of a method. -/
def receiver : Reader Layout := do
  let attributes ← outerAttributes grammar
  let reference ←
    if ← take? "&" then
      if ← nextIsLifetime then do pure (Layout.word ("&" ++ (← lifetime) ++ " "))
      else pure (Layout.word "&")
    else pure []
  let mutable ← optionalMut
  Reader.word "self"
  let type ← behind? ":" (grammar.type true)
  let tail :=
    match type with
    | some type => Layout.word ": " ++ type
    | Option.none => []
  return attributes ++ reference ++ mutable ++ Layout.word "self" ++ tail

/-- A parameter with a pattern and a type. -/
def typedParameter : Reader Layout := do
  let attributes ← outerAttributes grammar
  let pattern ← grammar.pattern
  operator ":"
  return attributes ++ pattern.layout ++ Layout.word ": " ++ (← grammar.type true)

/-- A parameter of a function, which is a receiver if nothing else follows one. -/
def parameter : Reader Layout := do
  let isReceiver ← lookahead (do
    let _ ← receiver grammar
    expect (do return (← atEnd) || (← nextIs ",")))
  if isReceiver.isSome then receiver grammar else typedParameter grammar

/-- A function up to its conditions. -/
def signature : Reader Layout := do
  let words ← functionWords
  Reader.word "fn"
  let name ← identifier
  let generics ← optionalParameters grammar
  let (parameters, _) ← elements .parenthesis (parameter grammar)
  let output ← optionalOutput grammar true
  return words ++ Layout.word ("fn " ++ name) ++ generics ++ Layout.word "(" ++ neverBreak ++
    consistentBox 0 (outdentLast (softBreak ++ withEach trailingComma parameters)) ++
    Layout.word ")" ++ consistentBox (-indentStep) (returnType output)

/-- A function with a body, or with a semicolon where that is allowed. -/
def functionItem (head : Layout) (bodiless : Bool) : Reader Layout := do
  let signature ← signature grammar
  let conditions ← optionalConditions grammar
  if bodiless && (← take? ";") then
    return consistentBox indentStep (head ++ signature ++ conditionsBeforeSemicolon conditions)
  let body ← grammar.block
  return bracedLines (head ++ signature ++ conditionsBeforeBody conditions) body.attributes
    [body.statements]

/-! ## Structs and enumerations -/

/-- A field with a name, as in a struct in braces. -/
def namedField : Reader Layout := do
  let attributes ← outerAttributes grammar
  let visibility ← visibility grammar
  let name ← if ← nextIsWord "_" then anyWord else identifier
  operator ":"
  return attributes ++ visibility ++ Layout.word (name ++ ": ") ++ (← grammar.type true)

/-- A field that is told by its place only. -/
def unnamedField : Reader Layout := do
  let attributes ← outerAttributes grammar
  let visibility ← visibility grammar
  return attributes ++ visibility ++ (← grammar.type true)

/-- Fields in round brackets. -/
def unnamedFields : Reader Layout := do
  let (fields, _) ← elements .parenthesis (unnamedField grammar)
  return Layout.word "(" ++ outdentLast (softBreak ++ withEach trailingComma fields) ++
    Layout.word ")"

/-- Each layout on a line of its own, with a comma. -/
def commaLines (lines : List Layout) : List Layout :=
  lines.map fun line => line ++ Layout.word "," ++ hardBreak

/-- A struct: with fields in round brackets, without fields, or with fields in braces. -/
def structItem (head : Layout) : Reader Layout := do
  Reader.word "struct"
  let name ← identifier
  let generics ← optionalParameters grammar
  let head := head ++ Layout.word ("struct " ++ name) ++ generics
  if ← nextIsGroup .parenthesis then
    let fields ← unnamedFields grammar
    let conditions ← optionalConditions grammar
    operator ";"
    return consistentBox indentStep (head ++ fields ++ conditionsBeforeSemicolon conditions)
  let conditions ← optionalConditions grammar
  if ← take? ";" then
    return consistentBox indentStep (head ++ conditionsBeforeSemicolon conditions)
  let (fields, _) ← elements .brace (namedField grammar)
  return bracedLines (head ++ conditionsBeforeBody conditions) [] (commaLines fields)

/-- The fields of a variant, if it has any. -/
def variantFields : Reader Layout := do
  if ← nextIsGroup .parenthesis then return consistentBox indentStep (← unnamedFields grammar)
  if ← nextIsGroup .brace then
    let (fields, _) ← elements .brace (namedField grammar)
    return Layout.word " \x7b" ++
      consistentBox indentStep (outdentLast (space ++ withEach trailingCommaOrSpace fields)) ++
      Layout.word "\x7d"
  return []

/-- A variant of an enum, perhaps with its number. -/
def variant : Reader Layout := do
  let attributes ← outerAttributes grammar
  let _ ← visibility grammar
  let name ← identifier
  let fields ← variantFields grammar
  let value ← behind? "=" (grammar.expression true)
  let tail :=
    match value with
    | some value => Layout.word " = " ++ value.layout
    | Option.none => []
  return attributes ++ Layout.word name ++ fields ++ tail

/-- An enum with one variant on each line. -/
def enumItem (head : Layout) : Reader Layout := do
  Reader.word "enum"
  let name ← identifier
  let generics ← optionalParameters grammar
  let conditions ← conditionsThenBody grammar
  let (variants, _) ← elements .brace (variant grammar)
  return bracedLines (head ++ Layout.word ("enum " ++ name) ++ generics ++ conditions) []
    (commaLines variants)

/-! ## Constants, types and modules -/

/-- Behind the words in front of a constant. -/
def valueTail (head : Layout) (needsValue : Bool) : Reader Layout := do
  operator ":"
  let type ← grammar.type true
  let value ← behind? "=" (grammar.expression true)
  operator ";"
  match value with
  | some value =>
    return consistentBox 0
      (head ++ Layout.word ": " ++ type ++ Layout.word " = " ++ neverBreak ++ value.layout ++
        Layout.word ";")
  | Option.none =>
    if needsValue then refuse
    return consistentBox 0 (head ++ Layout.word ": " ++ type ++ Layout.word ";")

/-- A constant.  Only a trait may leave out the value. -/
def constItem (head : Layout) (needsValue : Bool) : Reader Layout := do
  Reader.word "const"
  let name ← if ← nextIsWord "_" then anyWord else identifier
  valueTail grammar (head ++ Layout.word ("const " ++ name)) needsValue

/-- A variable of the program. -/
def staticItem (head : Layout) : Reader Layout := do
  Reader.word "static"
  let mutable ← optionalMut
  let name ← identifier
  valueTail grammar (head ++ Layout.word "static " ++ mutable ++ Layout.word name) true

/-- A type alias, or an associated type; `inside` tells that it lies in an implementation. -/
def typeItem (head : Layout) (associated : Bool) : Reader Layout := do
  Reader.word "type"
  let name ← identifier
  let generics ← optionalParameters grammar
  let head := head ++ Layout.word ("type " ++ name) ++ generics
  let bounds ← if associated then behind? ":" (bounds grammar) else pure Option.none
  let conditions ← optionalConditions grammar
  let type ← behind? "=" (grammar.type true)
  let later ← if associated then optionalConditions grammar else pure []
  operator ";"
  let bounded := boundList (Layout.word ": ") (bounds.getD [])
  match type with
  | some type =>
    if associated then
      return consistentBox indentStep
        (head ++ bounded ++ Layout.word " = " ++ neverBreak ++ fillBox (-indentStep) type ++
          (if later.isEmpty then [] else conditionsOnLine later) ++ Layout.word ";")
    return consistentBox indentStep
      (head ++ conditionsOnLine conditions ++ Layout.word "= " ++ neverBreak ++
        fillBox (-indentStep) type ++ Layout.word ";")
  | Option.none =>
    if !associated then refuse
    return consistentBox indentStep (head ++ bounded ++ Layout.word ";")

/-- The tree of a `use` declaration.  It is laid out with the tree's last part, if that is a
group. -/
def useTree : (fuel : Nat) → Reader (Layout × Bool)
  | 0 => refuse
  | fuel + 1 => do
    if ← take? "*" then return (Layout.word "*", false)
    if ← nextIsGroup .brace then
      let (trees, _) ← elements .brace (do
        let _ ← take? "::"
        useTree fuel)
      let separated := (trees.dropLast.flatMap fun tree =>
        tree.1 ++ Layout.word "," ++ if tree.2 then hardBreak else space) ++
        ((trees.getLast?.map (·.1)).getD [])
      return (Layout.word "\x7b" ++
        consistentBox indentStep
          (outdentLast (softBreak ++ fillBox 0 separated ++ trailingComma true)) ++
        Layout.word "\x7d", true)
    let name ←
      if (← nextIsWord "crate") || (← nextIsWord "self") || (← nextIsWord "super") ||
          (← nextIsWord "try") then anyWord
      else identifier
    if ← take? "::" then
      let (tree, isGroup) ← useTree fuel
      return (Layout.word (name ++ "::") ++ tree, isGroup)
    if ← takeWord? "as" then
      let newName ← if ← nextIsWord "_" then anyWord else identifier
      return (Layout.word (name ++ " as " ++ newName), false)
    return (Layout.word name, false)

/-- A `use` declaration. -/
def useItem (head : Layout) : Reader Layout := do
  Reader.word "use"
  let leading ← take? "::"
  let (tree, _) ← useTree ((← rest).length + 8)
  operator ";"
  return head ++ Layout.word (if leading then "use ::" else "use ") ++ tree ++ Layout.word ";"

/-- A module, here or in a file of its own. -/
def moduleItem (head : Layout) : Reader Layout := do
  let unsafety ← takeWord? "unsafe"
  Reader.word "mod"
  let name ← if ← nextIsWord "try" then anyWord else identifier
  let head := head ++ Layout.word ((if unsafety then "unsafe mod " else "mod ") ++ name)
  if ← take? ";" then return consistentBox indentStep (head ++ Layout.word ";")
  inside .brace do
    let attributes ← innerAttributes grammar
    return bracedLines (head ++ blank) attributes (← toEnd grammar.item)

/-! ## Implementations and traits -/

/-- A macro in place of an item. -/
def macroItem : Reader Layout := do
  let path ← path grammar .expression
  if !path.isPlain then refuse
  operator "!"
  let name ← if ← nextIsIdentifier then do pure (some (← identifier)) else pure Option.none
  let (delimiter, tokens) ← tokensInside
  if delimiter != .brace then operator ";"
  return invocation path.layout name delimiter tokens true

/-- An item of an implementation or a trait. -/
def memberItem (isTrait : Bool) : Reader Layout := do
  let attributes ← outerAttributes grammar
  let visibility ← if isTrait then pure [] else visibility grammar
  let default ← (do
    if (← nextIsWord "default") && !(← secondIsWord "!") then
      let _ ← anyWord
      pure (Layout.word "default ")
    else pure [])
  let head := visibility ++ default
  let second := (← rest)[1]?
  let isConstant := second.any fun token => isIdentifierToken token || isWord "_" token
  let item ←
    if (← nextIsWord "const") && isConstant then constItem grammar head (!isTrait)
    else if ← nextIsWord "type" then typeItem grammar head true
    else if (← nextIsWord "fn") || (← nextIsWord "const") || (← nextIsWord "async") ||
        (← nextIsWord "unsafe") || (← nextIsWord "extern") then functionItem grammar head isTrait
    else if head.isEmpty then macroItem grammar
    else refuse
  return attributes ++ item ++ hardBreak

/-- Whether the angle bracket behind `impl` opens generic parameters. -/
def nextIsParameters : Reader Bool := do
  match ← rest with
  | .punct '<' _ :: .punct '>' _ :: _ => return true
  | .punct '<' _ :: .punct '#' _ :: _ => return true
  | .punct '<' _ :: .punct '\'' _ :: .ident _ :: .punct c _ :: _ => return ":,>=".toList.contains c
  | .punct '<' _ :: .ident "const" :: _ => return true
  | .punct '<' _ :: .ident _ :: .punct ':' .joint :: .punct ':' _ :: _ => return false
  | .punct '<' _ :: .ident _ :: .punct c _ :: _ => return ":,>=".toList.contains c
  | _ => return false

/-- An implementation of a trait, or of the methods of a type. -/
def implItem (unsafety : Layout) : Reader Layout := do
  Reader.word "impl"
  let generics ← if ← nextIsParameters then optionalParameters grammar else pure []
  let negative ← take? "!"
  let first ← grammar.type false
  let trait ←
    if ← takeWord? "for" then do pure (some (← grammar.type false)) else pure Option.none
  if negative && trait.isNone then refuse
  let mark := if negative then Layout.word "!" else []
  let named :=
    match trait with
    | some self => mark ++ first ++ space ++ Layout.word "for " ++ self
    | Option.none => first
  let conditions ← conditionsThenBody grammar
  let (attributes, items) ← inside .brace (do
    let attributes ← innerAttributes grammar
    return (attributes, ← toEnd (memberItem grammar false)))
  let head := consistentBox indentStep (unsafety ++ Layout.word "impl" ++ generics)
  return bracedLines (fillBox (-indentStep) (head ++ blank ++ named) ++ conditions) attributes items

/-- A trait with the traits that it asks for. -/
def traitItem (head : Layout) : Reader Layout := do
  Reader.word "trait"
  let name ← identifier
  let generics ← optionalParameters grammar
  let supertraits ← behind? ":" (do
    if (← nextIsGroup .brace) || (← nextIsWord "where") then return [] else bounds grammar)
  let bounded :=
    match supertraits.getD [] with
    | [] => []
    | all => Layout.word ": " ++ joined (Layout.word " + ") all
  let conditions ← conditionsThenBody grammar
  let (attributes, items) ← inside .brace (do
    let attributes ← innerAttributes grammar
    return (attributes, ← toEnd (memberItem grammar true)))
  return bracedLines (head ++ Layout.word ("trait " ++ name) ++ generics ++ bounded ++ conditions)
    attributes items

/-! ## Items -/

/-- Whether a function comes next, with its qualifiers. -/
def nextIsFunction : Reader Bool := do
  return (← lookahead (do
    let _ ← functionWords
    Reader.word "fn")).isSome

/-- An item with its line break. -/
def itemRule : Reader Layout := do
  let attributes ← outerAttributes grammar
  let head ← visibility grammar
  let item ←
    if ← nextIsFunction then functionItem grammar head false
    else if ← nextIsWord "use" then useItem head
    else if (← nextIsWord "mod") || ((← nextIsWord "unsafe") && (← secondIsWord "mod")) then
      moduleItem grammar head
    else if ← nextIsWord "struct" then structItem grammar head
    else if ← nextIsWord "enum" then enumItem grammar head
    else if ← nextIsWord "const" then constItem grammar head true
    else if ← nextIsWord "static" then staticItem grammar head
    else if ← nextIsWord "type" then typeItem grammar head false
    else if ← nextIsWord "trait" then traitItem grammar head
    else if (← nextIsWord "unsafe") && (← secondIsWord "trait") then do
      let _ ← anyWord
      traitItem grammar (head ++ Layout.word "unsafe ")
    else if !head.isEmpty then refuse
    else if ← nextIsWord "impl" then implItem grammar []
    else if (← nextIsWord "unsafe") && (← secondIsWord "impl") then do
      let _ ← anyWord
      implItem grammar (Layout.word "unsafe ")
    else macroItem grammar
  return attributes ++ item ++ hardBreak

end

/-! ## The whole grammar -/

/-- The rules, for code that nests at most `depth` deep. -/
def withDepth : (depth : Nat) → Grammar
  | 0 => .none
  | depth + 1 => {
    type := fun sums cursor => typeRule (withDepth depth) sums cursor
    pattern := fun cursor => patternRule (withDepth depth) cursor
    expression := fun structs cursor => expressionRule (withDepth depth) structs cursor
    statement := fun cursor => statementRule (withDepth depth) cursor
    block := fun cursor => blockRule (withDepth depth) cursor
    item := fun cursor => itemRule (withDepth depth) cursor }

mutual

/-- Number of tokens of a token, its brackets counted as one. -/
def tokenCount : Token → Nat
  | .group _ body => 1 + tokensCount body
  | _ => 1

/-- Number of tokens in all, those in brackets included. -/
def tokensCount : List Token → Nat
  | [] => 0
  | token :: rest => tokenCount token + tokensCount rest

end

/-- The rules for code of some tokens, which cannot nest more deeply than it is long. -/
def forTokens (tokens : List Token) : Grammar := withDepth (2 * tokensCount tokens + 2)

/-- Reads all tokens. -/
def readAll? {α : Type} (reader : Grammar → Reader α) (tokens : List Token) : Option α :=
  match reader (forTokens tokens) ⟨tokens, []⟩ with
  | some (value, ⟨[], _⟩) => some value
  | _ => Option.none

/-- The layout of a source file. -/
def file? (tokens : List Token) : Option Layout :=
  readAll? (fun grammar => do
    let attributes ← innerAttributes grammar
    let items ← toEnd grammar.item
    return consistentBox 0 (attributes ++ items.flatten)) tokens

end Grammar

end SchemaTypes
