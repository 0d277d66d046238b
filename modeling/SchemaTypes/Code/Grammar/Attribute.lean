import SchemaTypes.Code.Grammar.Type
import SchemaTypes.Code.StringLiteral

/-!
# Attributes

Readers of attributes and their layout.  An attribute that documents what follows is laid out as a
comment, if its text can stand in one.
-/

namespace SchemaTypes

namespace Layout

/-- Whether comments nest properly in a text, so that a block comment around it ends at its end.
`depth` comments are open. -/
def nestsAsComment (depth : Nat) : List Char → Bool
  | [] => depth == 0
  | [_] => depth == 0
  | '/' :: '*' :: rest => nestsAsComment (depth + 1) rest
  | '*' :: '/' :: rest => depth != 0 && nestsAsComment (depth - 1) rest
  | _ :: rest => nestsAsComment depth rest

/-- Drops the blanks at the end of a line of documentation. -/
def dropTrailingBlanks (text : String) : String :=
  String.ofList (Text.dropEndWhile (· == ' ') text.toList)

/-- Drops blanks at the ends of all lines but the last. -/
def dropInnerTrailingBlanks (text : String) : String :=
  let lines := Text.split '\n' text
  "\n".intercalate (lines.dropLast.map dropTrailingBlanks ++ lines.getLast?.toList)

/-- A comment for a documentation text, if it can be written as one. -/
def docComment? (inner : Bool) (text : String) : Option Layout :=
  let chars := text.toList
  if !chars.contains '\n' && (inner || chars.head? != some '/') then
    some (word (if inner then "//!" else "///") ++ word (dropTrailingBlanks text) ++ hardBreak)
  else if nestsAsComment 0 chars &&
      (inner || !(chars.head?.any fun c => c == '*' || c == '/')) then
    some (word (if inner then "/*!" else "/**") ++ word (dropInnerTrailingBlanks text) ++
      word "*/" ++ hardBreak)
  else none

/-- An attribute by its content. -/
def attributeLine (inner : Bool) (content : Layout) : Layout :=
  word (if inner then "#![" else "#[") ++ content ++ word "]" ++ space

end Layout

namespace Grammar

open Reader Layout

section

variable (grammar : Grammar)

/-- The content of an attribute in its brackets. -/
def attributeContent (inner : Bool) : Reader Layout := do
  let path ← path grammar .expression
  if !path.isPlain then refuse
  if ← take? "=" then
    let text := ((← rest).head?.bind Token.stringValue?).filter fun _ => path.name == some "doc"
    let value ← grammar.expression true
    match text.bind (docComment? inner) with
    | some comment => return comment
    | Option.none => return attributeLine inner (path.layout ++ Layout.word " = " ++ value.layout)
  else if ← atEnd then return attributeLine inner path.layout
  else
    let (delimiter, tokens) ← tokensInside
    return attributeLine inner (path.layout ++ attributeArguments delimiter tokens)

/-- Attributes of what follows. -/
def outerAttributes : Reader Layout := do
  let all ← while? (do return (← nextIs "#") && !(← nextIs "#!")) do
    operator "#"
    inside .bracket (attributeContent grammar false)
  return all.flatten

/-- Attributes of what surrounds them. -/
def innerAttributes : Reader Layout := do
  let all ← while? (nextIs "#!") do
    operator "#!"
    inside .bracket (attributeContent grammar true)
  return all.flatten

end

end Grammar

end SchemaTypes
