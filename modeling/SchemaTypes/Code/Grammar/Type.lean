import SchemaTypes.Code.Grammar.Reader

/-!
# Paths, types and generics

Readers of paths, types, bounds and generic parameters.
-/

namespace SchemaTypes

namespace Grammar

open Reader Layout

/-- A path as it is written, and what else is known of it. -/
structure PathLayout where
  layout : Layout
  /-- The name, when the path is no more than that. -/
  name : Option String
  /-- The path has no arguments. -/
  isPlain : Bool
deriving Repr, Inhabited

/-- Whether a path stands in an expression, where arguments follow a double colon, or in a type. -/
inductive PathPlace
  | expression
  | type
deriving DecidableEq, Repr, Inhabited

section

variable (grammar : Grammar)

/-! ## Bounds -/

/-- Lifetimes behind `for`. -/
def quantifiedLifetimes : Reader Layout := do
  word "for"
  operator "<"
  let (names, _) ← commaList (nextIs ">") lifetime
  operator ">"
  return Layout.word ("for<" ++ ", ".intercalate names ++ "> ")

/-- The lifetimes that a type holds for, if they are named. -/
def optionalQuantifier : Reader Layout := do
  if ← nextIsWord "for" then quantifiedLifetimes else return []

/-- `mut` if it comes next. -/
def optionalMut : Reader Layout := do
  return if ← takeWord? "mut" then Layout.word "mut " else []

/-! ## Paths -/

/-- Words that a path segment may consist of, without arguments. -/
def pathWords : List String := ["super", "self", "crate", "try"]

/-- A result type behind an arrow. -/
def optionalOutput (sums : Bool) : Reader (Option Layout) := behind? "->" (grammar.type sums)

/-- Inputs and output of a function trait. -/
def functionArguments : Reader Layout := do
  let (inputs, _) ← elements .parenthesis (grammar.type true)
  return parenthesizedArguments inputs (← optionalOutput grammar false)

/-- The name of an associated type that a value or bounds follow. -/
def associatedName : Reader String := do
  let name ← identifier
  if (← nextIs "=") || ((← nextIs ":") && !(← nextIs "::")) then return name else refuse

/-- A path with arguments that are no types of their own, as in bounds and attributes. -/
def boundPath (segment : Reader PathLayout) : Reader PathLayout := do
  let leading ← take? "::"
  let first ← segment
  let others ← while? (nextIs "::") do
    operator "::"
    segment
  let tail := others.flatMap fun other => Layout.word "::" ++ other.layout
  return {
    layout := (if leading then Layout.word "::" else []) ++ first.layout ++ tail
    name := if leading || !others.isEmpty then Option.none else first.name
    isPlain := first.isPlain && others.all (·.isPlain) }

mutual

/-- A bound: a lifetime, or a trait. -/
def bound (fuel : Nat) : Reader Layout := do
  match fuel with
  | 0 => refuse
  | fuel + 1 =>
    if ← nextIsLifetime then return Layout.word (← lifetime)
    else if ← nextIsGroup .parenthesis then
      let inner ← inside .parenthesis (bound fuel)
      return Layout.word "(" ++ inner ++ Layout.word ")"
    else
      let maybe := if ← take? "?" then Layout.word "?" else []
      let quantifier ← optionalQuantifier
      let path ← boundPath (segment .type fuel)
      return maybe ++ quantifier ++ path.layout

/-- A segment of a path. -/
def segment (place : PathPlace) (fuel : Nat) : Reader PathLayout := do
  match fuel with
  | 0 => refuse
  | fuel + 1 =>
    let plain := fun (name : String) => PathLayout.mk (Layout.word name) (some name) true
    if (← rest).head?.any fun token => pathWords.any (isWord · token) then
      return plain (← anyWord)
    let name ← if ← nextIsWord "Self" then anyWord else identifier
    let directly ← pure (place == .type && (← nextIs "<") && !(← nextIs "<="))
    let turbofish ← lookahead (do operator "::"; operator "<")
    if directly || turbofish.isSome then
      let _ ← take? "::"
      operator "<"
      let (arguments, _) ← commaList (nextIs ">") (argument fuel)
      operator ">"
      return ⟨Layout.word name ++ angleArguments (place == .expression) arguments, Option.none,
        false⟩
    if place == .type && (← nextIsGroup .parenthesis) then
      let arguments ← functionArguments grammar
      return ⟨Layout.word name ++ arguments, Option.none, false⟩
    return plain name

/-- An argument in angle brackets. -/
def argument (fuel : Nat) : Reader GenericPart := do
  match fuel with
  | 0 => refuse
  | fuel + 1 =>
    if (← nextIsLifetime) then return ⟨true, Layout.word (← lifetime)⟩
    if (← nextIsLiteral) || (← nextIs "-") || (← nextIsGroup .brace) ||
        (← nextIsWord "true") || (← nextIsWord "false") then
      return ⟨false, (← grammar.expression true).layout⟩
    match ← lookahead associatedName with
    | some name => do
      let _ ← associatedName
      if ← take? "=" then
        return ⟨false, Layout.word (name ++ " = ") ++ (← grammar.type true)⟩
      operator ":"
      let bounds ← joinedBy "+" (bound fuel)
      return ⟨false, Layout.word name ++ fillBox indentStep (boundList (Layout.word ": ") bounds)⟩
    | Option.none => return ⟨false, ← grammar.type true⟩

end

end

/-- Bound on the nesting of paths inside one another without a type between them. -/
def pathFuel : Reader Nat := do return (← rest).length + 1

section

variable (grammar : Grammar)

/-- A trait or lifetime. -/
def anyBound : Reader Layout := do bound grammar (← pathFuel)

/-- Traits and lifetimes with plus signs between them. -/
def bounds : Reader (List Layout) := joinedBy "+" (anyBound grammar)

/-- A path in an expression or type. -/
def path (place : PathPlace) : Reader PathLayout := do
  boundPath (segment grammar place (← pathFuel))

/-- A path without arguments. -/
def simplePath : Reader Layout := do
  let path ← path grammar .expression
  if path.isPlain then return path.layout else refuse

/-- An item of a trait as some type has it, behind the opening angle bracket. -/
def qualifiedPath (place : PathPlace) : Reader PathLayout := do
  operator "<"
  let self ← grammar.type true
  let trait ←
    if ← takeWord? "as" then do pure (Layout.word " as " ++ (← path grammar .type).layout)
    else pure []
  operator ">"
  operator "::"
  let rest ← path grammar place
  return ⟨Layout.word "<" ++ self ++ trait ++ Layout.word ">::" ++ rest.layout, Option.none, false⟩

/-- A path, also one that starts at a type in angle brackets. -/
def anyPath (place : PathPlace) : Reader PathLayout := do
  if ← nextIs "<" then qualifiedPath grammar place else path grammar place

/-- The exclamation mark of a macro. -/
def nextIsMacroMark : Reader Bool := do
  return (← nextIs "!") && !(← nextIs "!=")

/-! ## Types -/

/-- `A + B` behind a word. -/
def sumOf (head : String) (sums : Bool) : Reader Layout := do
  let parts ← if sums then bounds grammar else do pure [← anyBound grammar]
  return Layout.word head ++ joined (Layout.word " + ") parts

/-- A path, or a call of a macro that stands for a type. -/
def pathType : Reader Layout := do
  let path ← anyPath grammar .type
  if path.isPlain && (← nextIsMacroMark) then
    operator "!"
    let (delimiter, tokens) ← tokensInside
    return invocation path.layout Option.none delimiter tokens false
  return path.layout

/-- A reference. -/
def referenceType : Reader Layout := do
  operator "&"
  let lifetime ← if ← nextIsLifetime then do pure (Layout.word ((← lifetime) ++ " ")) else pure []
  let mutable ← optionalMut
  return Layout.word "&" ++ lifetime ++ mutable ++ (← grammar.type false)

/-- A pointer. -/
def pointerType : Reader Layout := do
  operator "*"
  let kind ← if ← takeWord? "mut" then pure "*mut " else do
    Reader.word "const"
    pure "*const "
  return Layout.word kind ++ (← grammar.type false)

/-- A slice, or an array with its length. -/
def bracketType : Reader Layout :=
  inside .bracket do
    let item ← grammar.type true
    if ← take? ";" then
      let length ← grammar.expression true
      return Layout.word "[" ++ item ++ Layout.word "; " ++ length.layout ++ Layout.word "]"
    return Layout.word "[" ++ item ++ Layout.word "]"

/-- A type in round brackets, or a tuple. -/
def parenthesizedType : Reader Layout := do
  let (items, trailing) ← elements .parenthesis (grammar.type true)
  match items, trailing with
  | [item], false => return Layout.word "(" ++ item ++ Layout.word ")"
  | items, _ => return tuple items

/-- Qualifiers in front of the word `fn`. -/
def functionWords : Reader Layout := do
  let take := fun (spelling : String) => do
    return if ← takeWord? spelling then Layout.word (spelling ++ " ") else []
  let const ← take "const"
  let async ← take "async"
  let unsafety ← take "unsafe"
  let abi ←
    if ← takeWord? "extern" then
      if ← nextIsLiteral then do pure (Layout.word ("extern " ++ (← literal) ++ " "))
      else pure (Layout.word "extern ")
    else pure []
  return const ++ async ++ unsafety ++ abi

/-- A parameter of a function type, with or without a name. -/
def functionInput : Reader Layout := do
  let named : Reader String := do
    let name ← if ← nextIsWord "_" then anyWord else identifier
    operator ":"
    return name
  let name ← (do
    if (← lookahead (do let _ ← named; expect (do return !(← nextIs ":")))).isSome then
      pure (Layout.word ((← named) ++ ": "))
    else pure [])
  return name ++ (← grammar.type true)

/-- A pointer to a function. -/
def functionType : Reader Layout := do
  let quantifier ← optionalQuantifier
  let words ← functionWords
  Reader.word "fn"
  let (inputs, _) ← elements .parenthesis (functionInput grammar)
  let output ← optionalOutput grammar false
  return quantifier ++ words ++ Layout.word "fn(" ++
    consistentBox indentStep (outdentLast (softBreak ++ withEach trailingComma inputs)) ++
    Layout.word ")" ++ returnType output

/-- Words that a function type starts with. -/
def functionTypeStarts : List String := ["fn", "unsafe", "extern"]

/-- A type.  With `sums`, a path may be followed by further bounds. -/
def typeRule (sums : Bool) : Reader Layout := do
  if ← nextIsGroup .parenthesis then parenthesizedType grammar
  else if ← nextIsGroup .bracket then bracketType grammar
  else if ← nextIs "&" then referenceType grammar
  else if ← nextIs "*" then pointerType grammar
  else if ← nextIsMacroMark then do
    operator "!"
    return Layout.word "!"
  else if ← takeWord? "_" then return Layout.word "_"
  else if ← takeWord? "impl" then sumOf grammar "impl " sums
  else if ← takeWord? "dyn" then sumOf grammar "dyn " sums
  else if (← rest).head?.any fun token => functionTypeStarts.any (isWord · token) then
    functionType grammar
  else if ← nextIsWord "for" then functionType grammar
  else if ← nextIsLifetime then sumOf grammar "dyn " sums
  else
    let first ← pathType grammar
    if sums && (← nextIs "+") && !(← nextIs "+=") then
      operator "+"
      let others ← bounds grammar
      return Layout.word "dyn " ++ joined (Layout.word " + ") (first :: others)
    return first

/-! ## Generics -/

/-- A lifetime with those that it is bounded by. -/
def lifetimeParameter : Reader GenericPart := do
  let name ← lifetime
  let bounds ← behind? ":" (joinedBy "+" lifetime)
  let bounded := (bounds.map fun names => ": " ++ " + ".intercalate names).getD ""
  return ⟨true, Layout.word (name ++ bounded)⟩

/-- A type with its bounds and its default. -/
def typeParameter : Reader GenericPart := do
  let name ← identifier
  let bounds ← behind? ":" (do
    if (← nextIs ",") || (← nextIs ">") || (← nextIs "=") then return [] else bounds grammar)
  let default ← behind? "=" (grammar.type true)
  let tail :=
    match default with
    | some type => space ++ Layout.word "= " ++ type
    | Option.none => []
  return ⟨false,
    Layout.word name ++ fillBox indentStep (boundList (Layout.word ": ") (bounds.getD []) ++ tail)⟩

/-- A constant with its type and its default. -/
def constantParameter : Reader GenericPart := do
  Reader.word "const"
  let name ← identifier
  operator ":"
  let type ← grammar.type true
  let default ← behind? "=" (grammar.expression true)
  let tail :=
    match default with
    | some value => Layout.word " = " ++ value.layout
    | Option.none => []
  return ⟨false, Layout.word ("const " ++ name ++ ": ") ++ type ++ tail⟩

/-- One of the parameters of an item. -/
def genericParameter : Reader GenericPart := do
  if ← nextIsLifetime then lifetimeParameter
  else if ← nextIsWord "const" then constantParameter grammar
  else typeParameter grammar

/-- Generic parameters in angle brackets, if there are any. -/
def optionalParameters : Reader Layout := do
  if ← take? "<" then
    let (parameters, _) ← commaList (nextIs ">") (genericParameter grammar)
    operator ">"
    return genericParameters parameters
  return []

/-- A condition of an item, on a lifetime or a type. -/
def wherePredicate : Reader Layout := do
  if ← nextIsLifetime then
    let name ← lifetime
    operator ":"
    let bounds ← joinedBy "+" lifetime
    return Layout.word (name ++ ": " ++ " + ".intercalate bounds)
  let quantifier ← optionalQuantifier
  let type ← grammar.type false
  operator ":"
  return quantifier ++ typeCondition type (← bounds grammar)

/-- The conditions behind `where`, if there are any. -/
def optionalConditions : Reader (List Layout) := do
  if ← takeWord? "where" then
    let closed : Reader Bool := do
      return (← atEnd) || (← nextIsGroup .brace) || (← nextIs ";") ||
        ((← nextIs "=") && !(← nextIs "=="))
    return (← commaList closed (wherePredicate grammar)).1
  return []

end

end Grammar

end SchemaTypes
