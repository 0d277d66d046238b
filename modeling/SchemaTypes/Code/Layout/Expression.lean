import SchemaTypes.Code.Layout.Type

/-!
# Layout of expressions and statements

An expression is laid out in one of three ways: on its own, at the beginning of a line, or as the
start of a chain of calls and fields.  `ExpressionLayout` holds all of them, with what the code
around an expression has to know about it.
-/

namespace SchemaTypes

/-- What the code around an expression has to know about it. -/
structure ExpressionTraits where
  /-- A path or a field. -/
  isPlace : Bool := false
  /-- A name so short that a call on it stays on its line. -/
  isShortName : Bool := false
  /-- Ends in a bracket, so that it can be the only argument of a call without further breaks. -/
  isBlockLike : Bool := false
  /-- As a condition, leaves the opening brace to the next line when it does not fit. -/
  wrapsAsCondition : Bool := false
  /-- Is a statement without a semicolon and a match arm without a comma. -/
  isStatement : Bool := false
  /-- Can stand at the beginning of a statement. -/
  opensStatement : Bool := true
  /-- Takes a semicolon at the end of a block. -/
  takesSemicolon : Bool := false
  /-- Loses its semicolon. -/
  dropsSemicolon : Bool := false
  /-- A number, character or truth value. -/
  isSmallLiteral : Bool := false
  /-- As the body of a closure, is never put into braces. -/
  isOpenBody : Bool := false
deriving Repr, Inhabited

/-- An expression as it is laid out in each of the places that treat it in their own way. -/
structure ExpressionLayout where
  /-- The expression; the argument tells that it stands at the beginning of a line. -/
  written : Bool → Layout
  /-- The expression as the start of a chain. -/
  chained : Bool → Layout
  /-- The expression as the body of a match arm, from behind the arrow. -/
  armBody : Layout
  traits : ExpressionTraits

/-- The statements of a block. -/
structure BlockLayout where
  attributes : Layout
  statements : Layout
  /-- The layout of the only statement and as a match arm, when it is an expression without a
  semicolon. -/
  single : Option (Layout × Layout)
deriving Repr, Inhabited

namespace BlockLayout

/-- Whether a block has nothing inside. -/
def isEmpty (block : BlockLayout) : Bool := block.attributes.isEmpty && block.statements.isEmpty

end BlockLayout

namespace ExpressionLayout

open Layout

/-- The expression where no line begins with it. -/
def layout (expression : ExpressionLayout) : Layout := expression.written false

/-- The body of a match arm, in braces when it does not fit on the line. -/
def armBodyOf (written : Layout) (traits : ExpressionTraits) : Layout :=
  let braced := traits.opensStatement
  blank ++ neverBreak ++
    consistentBox indentStep
      ([.lineBreak { before := some (if braced then '\x7b' else '(') }] ++ written ++
        [.lineBreak {
          offset := -indentStep
          before := if braced && traits.takesSemicolon then some ';' else none
          after := if braced then "\x7d" else "),"
          unbroken := if traits.isStatement then none else some ',' }])

/-- An expression that is no chain. -/
def simple (layout : Layout) (traits : ExpressionTraits := {}) : ExpressionLayout where
  written _ := layout
  chained _ := consistentBox (-indentStep) layout
  armBody := armBodyOf layout traits
  traits

/-- A link of a chain. -/
def link (chained : Bool → Layout) (written : Bool → Layout) (traits : ExpressionTraits) :
    ExpressionLayout where
  written
  chained
  armBody := armBodyOf (written true) traits
  traits

/-- A line break before a member, unless it is a member of a short name at the start of a line. -/
def memberBreak (lineStart : Bool) (base : ExpressionLayout) : Layout :=
  if lineStart && base.traits.isShortName then [] else softBreak

/-- Traits of an expression that starts with another one. -/
def startingWith (base : ExpressionLayout) : ExpressionTraits where
  opensStatement := base.traits.opensStatement

/-! ## Chains -/

/-- A path; `name` is given when it is a name alone. -/
def ofPath (layout : Layout) (name : Option String) : ExpressionLayout :=
  simple layout
    { isPlace := true
      isShortName :=
        (name.map fun name => decide ((name.utf8ByteSize : Int) ≤ indentStep)).getD false }

/-- `base.member`. -/
def field (base : ExpressionLayout) (member : String) : ExpressionLayout :=
  let chained := fun lineStart =>
    base.chained lineStart ++ memberBreak lineStart base ++ word ("." ++ member)
  link chained (fun lineStart => consistentBox indentStep (chained lineStart))
    { startingWith base with isPlace := true, wrapsAsCondition := true }

/-- `base?`. -/
def attempt (base : ExpressionLayout) : ExpressionLayout :=
  link (fun lineStart => base.chained lineStart ++ word "?")
    (fun lineStart => base.written lineStart ++ word "?")
    { startingWith base with wrapsAsCondition := base.traits.wrapsAsCondition }

/-- Traits of an expression that goes on after another one, which then is no statement. -/
def continuing (base : ExpressionLayout) : ExpressionTraits where
  opensStatement := base.traits.opensStatement && !base.traits.isStatement

/-- `base[index]`. -/
def index (base index : ExpressionLayout) : ExpressionLayout :=
  let tail := word "[" ++ index.layout ++ word "]"
  link (fun lineStart => base.chained lineStart ++ tail)
    (fun lineStart => base.written lineStart ++ tail)
    { continuing base with wrapsAsCondition := true }

/-- Arguments between the brackets of a call. -/
def callArguments (arguments : List ExpressionLayout) : Layout :=
  let all :=
    consistentBox indentStep
      (outdentLast (softBreak ++ withEach trailingComma (arguments.map layout)))
  match arguments with
  | [argument] => if argument.traits.isBlockLike then argument.layout else all
  | _ => all

/-- `function(arguments)`. -/
def call (function : ExpressionLayout) (arguments : List ExpressionLayout) : ExpressionLayout :=
  let tail := word "(" ++ callArguments arguments ++ word ")"
  link (fun _ => function.chained false ++ tail)
    (fun lineStart => function.written lineStart ++ tail)
    { continuing function with
      wrapsAsCondition := function.traits.wrapsAsCondition
      isOpenBody := true }

/-- `receiver.method(arguments)`, one link of a chain that is broken before its points. -/
def methodCall (receiver : ExpressionLayout) (method : String) (turbofish : Layout)
    (arguments : List ExpressionLayout) : ExpressionLayout :=
  let chain := fun (lineStart closeArguments : Bool) =>
    receiver.chained lineStart ++ memberBreak lineStart receiver ++ word "." ++ word method ++
      turbofish ++
      consistentBox (if closeArguments then -indentStep else 0)
        (word "(" ++ callArguments arguments ++ word ")")
  link (fun lineStart => chain lineStart false)
    (fun lineStart =>
      consistentBox indentStep (chain lineStart (lineStart && receiver.traits.isShortName)))
    { startingWith receiver with wrapsAsCondition := true }

/-! ## Operators -/

/-- `left operator right`.  With a compound assignment, the expression is a statement that takes a
semicolon. -/
def binary (operator : String) (compound : Bool) (left right : ExpressionLayout) :
    ExpressionLayout :=
  simple
    (fillBox indentStep
      (fillBox (-indentStep) left.layout ++ space ++ word operator ++ blank ++ right.layout))
    { continuing left with wrapsAsCondition := true, takesSemicolon := compound }

/-- `left = right`. -/
def assign (left right : ExpressionLayout) : ExpressionLayout :=
  simple (fillBox 0 (left.layout ++ word " = " ++ neverBreak ++ right.layout))
    { continuing left with wrapsAsCondition := true, takesSemicolon := true }

/-- `value as type`. -/
def cast (value : ExpressionLayout) (type : Layout) : ExpressionLayout :=
  simple
    (fillBox indentStep (fillBox (-indentStep) value.layout ++ space ++ word "as " ++ type))
    { continuing value with wrapsAsCondition := true }

/-- An operator in front of its operand. -/
def prefixed (operator : String) (operand : ExpressionLayout) : ExpressionLayout :=
  simple (word operator ++ operand.layout)
    { wrapsAsCondition := operand.traits.wrapsAsCondition }

/-- A range, of which either bound may be missing. -/
def range (first : Option ExpressionLayout) (operator : String) (last : Option ExpressionLayout) :
    ExpressionLayout :=
  let side := fun (part : Option ExpressionLayout) => (part.map layout).getD []
  simple (side first ++ word operator ++ side last)
    { opensStatement := (first.map fun first => (continuing first).opensStatement).getD true
      wrapsAsCondition := (last.map fun last => last.traits.wrapsAsCondition).getD false }

/-! ## Collections -/

/-- `[items]`.  Small literals fill their lines, other items have a line each if they do not fit on
one. -/
def array (items : List ExpressionLayout) : ExpressionLayout :=
  let layout :=
    if items.isEmpty then word "[]"
    else if items.all (·.traits.isSmallLiteral) then
      consistentBox indentStep
        (word "[" ++ softBreak ++ fillBox 0 (joined (word "," ++ space) (items.map layout)) ++
          outdentLast (trailingComma true) ++ word "]")
    else elementList "[" "]" (items.map layout)
  simple layout { isBlockLike := true }

/-- `(items)`.  The empty tuple as the body of an arm is an empty block. -/
def tupleOf (items : List ExpressionLayout) : ExpressionLayout :=
  let expression := simple (tuple (items.map layout)) { isBlockLike := true }
  if items.isEmpty then
    { expression with armBody := blank ++ word "\x7b" ++ neverBreak ++ word "\x7d" }
  else expression

/-- A struct by its fields; `rest` is the value that the others are taken from. -/
def struct (path : Layout) (fields : List Layout) (rest : Option ExpressionLayout) :
    ExpressionLayout :=
  let written :=
    match rest with
    | none => withEach trailingCommaOrSpace fields
    | some rest =>
      (fields.flatMap fun field => field ++ trailingCommaOrSpace false) ++ word ".." ++
        rest.layout ++ space
  simple
    (narrowBox 34 indentStep
        (outdentLast (fillBox (-indentStep) path ++ word " \x7b" ++ spaceIfNonempty ++ written)) ++
      word "\x7d")
    { isBlockLike := true }

/-- A field of a struct with its value. -/
def fieldValue (member : String) (value : ExpressionLayout) : Layout :=
  word (member ++ ": ") ++ fillBox 0 value.layout

/-! ## Statements and blocks -/

/-- A `let` statement. -/
def letStatement (attributes pattern : Layout) (value : Option ExpressionLayout)
    (otherwise : Option Layout) : Layout :=
  let head := word "let " ++ pattern
  let ending := word ";" ++ hardBreak
  match value, otherwise with
  | none, _ => attributes ++ fillBox 0 head ++ ending
  | some value, none =>
    attributes ++ fillBox 0 (head ++ word " = " ++ neverBreak ++ value.layout) ++ ending
  | some value, some otherwise =>
    attributes ++
      fillBox 0 (head ++ word " = " ++ neverBreak ++ value.layout ++ space ++ word "else ") ++
      neverBreak ++ consistentBox indentStep otherwise ++ ending

/-- An expression as the last statement of a block. -/
def lastStatement (expression : ExpressionLayout) : Layout :=
  fillBox 0
    (expression.written true ++ if expression.traits.takesSemicolon then word ";" else []) ++
    hardBreak

/-- An expression with a semicolon. -/
def statement (expression : ExpressionLayout) : Layout :=
  fillBox 0
    (expression.written true ++ if expression.traits.dropsSemicolon then [] else word ";") ++
    hardBreak

/-- A block that stays on the line when it holds one expression that fits. -/
def smallBlock (block : BlockLayout) : Layout :=
  if block.isEmpty then word "\x7b\x7d"
  else
    let body :=
      match block.single with
      | some (line, _) => line ++ space
      | none => block.statements
    word "\x7b" ++ outdentLast (space ++ block.attributes ++ body) ++ word "\x7d"

/-- The lines of a block, from behind its opening brace to before the closing one. -/
def blockLines (block : BlockLayout) : Layout :=
  consistentBox indentStep
    (outdentLast (hardBreakIfNonempty ++ block.attributes ++ block.statements))

/-- A block in braces with a line for each statement. -/
def longBlock (block : BlockLayout) : Layout :=
  word "\x7b" ++ neverBreak ++ blockLines block ++ word "\x7d"

/-- A label in front of a loop or block. -/
def labelOf (label : Option String) : Layout :=
  match label with
  | some name => word (name ++ ": ")
  | none => []

/-- A block as an expression. -/
def block (label : Option String) (body : BlockLayout) : ExpressionLayout :=
  let layout := labelOf label ++ consistentBox indentStep (smallBlock body)
  let armBody :=
    match label, body.attributes, body.single with
    | none, [], some (_, armBody) => armBody
    | _, _, _ => blank ++ labelOf label ++ longBlock body
  { simple layout { isBlockLike := true, isStatement := true } with armBody }

/-- A block after a word, such as `unsafe`. -/
def wordBlock (words : String) (body : BlockLayout) : ExpressionLayout :=
  simple (word words ++ consistentBox indentStep (smallBlock body))
    { isBlockLike := true, isStatement := true }

/-! ## Control flow -/

/-- A condition and the blank before the brace. -/
def condition (expression : ExpressionLayout) : Layout :=
  consistentBox 0
    (expression.layout ++ if expression.traits.wrapsAsCondition then space else blank)

/-- What follows `else`. -/
inductive Otherwise
  | none
  | block (body : BlockLayout)
  /-- A further condition: its layout from `if` on, and whether it drops a semicolon. -/
  | branch (layout : Layout) (dropsSemicolon : Bool)

/-- The condition and branches of an `if`, from behind the word on. -/
def branches (cond : ExpressionLayout) (body : BlockLayout) (otherwise : Otherwise)
    (isInner : Bool) : Layout :=
  let head := word "if " ++ consistentBox (-indentStep) (condition cond)
  match otherwise with
  | .none =>
    if isInner then head ++ smallBlock body
    else if body.statements.isEmpty then head ++ word "\x7b\x7d"
    else head ++ word "\x7b" ++ outdentLast (hardBreak ++ body.statements) ++ word "\x7d"
  | .block last => head ++ smallBlock body ++ word " else " ++ smallBlock last
  | .branch layout _ => head ++ smallBlock body ++ word " else " ++ layout

/-- Whether a condition with this last branch stands as a statement without a semicolon. -/
def Otherwise.dropsSemicolon : Otherwise → Bool
  | .none => true
  | .block _ => false
  | .branch _ drops => drops

/-- A condition with its branches. -/
def ifElse (cond : ExpressionLayout) (body : BlockLayout) (otherwise : Otherwise) :
    ExpressionLayout :=
  simple (consistentBox indentStep (branches cond body otherwise false))
    { isStatement := true, dropsSemicolon := otherwise.dropsSemicolon }

/-- An arm of a match. -/
def arm (attributes pattern : Layout) (guard : Option ExpressionLayout)
    (body : ExpressionLayout) : Layout :=
  let guarded :=
    match guard with
    | some guard => word " if " ++ guard.layout
    | none => []
  attributes ++ fillBox 0 (pattern ++ guarded ++ word " =>" ++ body.armBody)

/-- A match with one arm on each line. -/
def matchOn (scrutinee : ExpressionLayout) (attributes : Layout) (arms : List Layout) :
    ExpressionLayout :=
  let lines := arms.flatMap fun arm => arm ++ hardBreak
  simple
    (fillBox 0
      (word "match " ++ condition scrutinee ++ word "\x7b" ++ neverBreak ++
        consistentBox indentStep (outdentLast (hardBreakIfNonempty ++ attributes ++ lines)) ++
        word "\x7d"))
    { isStatement := true, isOpenBody := true }

/-- A loop with a condition. -/
def whileLoop (label : Option String) (cond : ExpressionLayout) (body : BlockLayout) :
    ExpressionLayout :=
  simple (labelOf label ++ word "while " ++ condition cond ++ longBlock body)
    { isStatement := true, dropsSemicolon := true }

/-- A loop over items. -/
def forLoop (label : Option String) (pattern : Layout) (items : ExpressionLayout)
    (body : BlockLayout) : ExpressionLayout :=
  simple
    (fillBox 0
      (labelOf label ++ word "for " ++ pattern ++ word " in " ++ neverBreak ++ condition items ++
        longBlock body))
    { isStatement := true, dropsSemicolon := true }

/-- A loop without a condition. -/
def loop (label : Option String) (body : BlockLayout) : ExpressionLayout :=
  simple (labelOf label ++ word "loop " ++ longBlock body) { isStatement := true }

/-- A jump with a label and a value. -/
def jump (words : String) (label : Option String) (value : Option ExpressionLayout) :
    ExpressionLayout :=
  let target :=
    match label with
    | some name => word (" " ++ name)
    | none => []
  let result :=
    match value with
    | some value => blank ++ value.layout
    | none => []
  simple (word words ++ target ++ result)
    { takesSemicolon := true
      wrapsAsCondition := (value.map fun value => value.traits.wrapsAsCondition).getD false }

/-- A condition that binds the variables of a pattern. -/
def letIn (pattern : Layout) (value : ExpressionLayout) : ExpressionLayout :=
  simple (word "let " ++ pattern ++ word " = " ++ neverBreak ++ value.layout)
    { wrapsAsCondition := value.traits.wrapsAsCondition }

/-! ## Closures -/

/-- Parameters of a closure, from behind the opening bar. -/
def closureParameters (parameters : List Layout) : Layout :=
  if parameters.isEmpty then [] else softBreak ++ joined (word "," ++ space) parameters

/-- A closure.  A body that has to stay in one piece is put in braces when it does not fit. -/
def closure (words : String) (parameters : List Layout) (output : Option Layout)
    (body : ExpressionLayout) : ExpressionLayout :=
  let head := word (words ++ "|") ++ closureParameters parameters
  let layout :=
    match output with
    | some type =>
      let ending := if parameters.isEmpty then [] else outdentLast (trailingComma true)
      consistentBox indentStep (head ++ ending ++ word "|") ++ word " -> " ++ type ++ blank ++
        neverBreak ++ body.layout
    | none =>
      let braced := body.traits.opensStatement
      let opened :=
        consistentBox indentStep (outdentLast (head ++ word "|" ++ space)) ++ neverBreak
      if body.traits.isOpenBody || body.traits.isBlockLike then opened ++ body.layout
      else
        opened ++
          consistentBox indentStep
            ([.lineBreak { before := some (if braced then '\x7b' else '(') }] ++ body.layout ++
              [.lineBreak {
                offset := -indentStep
                before := if braced && body.traits.takesSemicolon then some ';' else none
                after := if braced then "\x7d" else ")" }])
  simple (fillBox 0 layout) { isBlockLike := true }

end ExpressionLayout

end SchemaTypes
