import SchemaTypes.Code.Layout.Tokens

/-!
# Layout of paths, types and generics
-/

namespace SchemaTypes

namespace Layout

/-- A generic argument or parameter; lifetimes are written before all others. -/
structure GenericPart where
  isLifetime : Bool
  layout : Layout
deriving Repr, Inhabited

/-- Generic parts in the order in which they are printed. -/
def lifetimesFirst (parts : List GenericPart) : List Layout :=
  ((parts.filter (·.isLifetime)) ++ (parts.filter (!·.isLifetime))).map (·.layout)

/-- Arguments in angle brackets, after a double colon inside expressions. -/
def angleArguments (turbofish : Bool) (arguments : List GenericPart) : Layout :=
  if arguments.isEmpty then []
  else
    (if turbofish then word "::" else []) ++ word "<" ++
      consistentBox indentStep
        (outdentLast (softBreak ++ withEach trailingComma (lifetimesFirst arguments))) ++
      word ">"

/-- The result type of a function, if it is given. -/
def returnType (output : Option Layout) : Layout :=
  match output with
  | some type => word " -> " ++ type
  | none => []

/-- Arguments in round brackets, as those of function traits. -/
def parenthesizedArguments (inputs : List Layout) (output : Option Layout) : Layout :=
  consistentBox indentStep <|
    outdentLast (word "(" ++ softBreak ++ withEach trailingComma inputs) ++ word ")" ++
      returnType output

/-- Elements in brackets, each on a line of its own when they do not fit. -/
def elementList (opening closing : String) (elements : List Layout) : Layout :=
  word opening ++
    consistentBox indentStep (outdentLast (softBreak ++ withEach trailingComma elements)) ++
    word closing

/-- A tuple; `single` is what follows the item of a tuple of one item. -/
def tupleOf (single : Layout) (items : List Layout) : Layout :=
  match items with
  | [item] =>
    word "(" ++ consistentBox indentStep (outdentLast (softBreak ++ item ++ single ++ softBreak)) ++
      word ")"
  | items => elementList "(" ")" items

/-- `(items)`. -/
def tuple (items : List Layout) : Layout := tupleOf (word ",") items

/-- Parameters of a generic item in angle brackets. -/
def genericParameters (parameters : List GenericPart) : Layout :=
  if parameters.isEmpty then []
  else
    word "<" ++
      consistentBox 0
        (outdentLast (softBreak ++ withEach trailingComma (lifetimesFirst parameters))) ++
      word ">"

/-- Bounds, the first after `first`, the others on lines of their own when they do not fit. -/
def boundList (first : Layout) : List Layout → Layout
  | [] => []
  | bound :: rest => first ++ bound ++ (rest.flatMap fun bound => space ++ word "+ " ++ bound)

/-- A condition on a type. -/
def typeCondition (type : Layout) (bounds : List Layout) : Layout :=
  let indent := if bounds.length == 1 then 0 else indentStep
  type ++ word ":" ++ fillBox indent (boundList blank bounds)

/-- The conditions of an item with a body: on lines of their own, before the body. -/
def conditionsBeforeBody (conditions : List Layout) : Layout :=
  if conditions.isEmpty then blank
  else
    outdentLast hardBreak ++ word "where" ++
      outdentLast
        (hardBreak ++ conditions.flatMap fun condition => condition ++ word "," ++ hardBreak)

/-- The conditions of an item that ends in a semicolon. -/
def conditionsBeforeSemicolon (conditions : List Layout) : Layout :=
  if conditions.isEmpty then word ";"
  else
    outdentLast hardBreak ++ word "where" ++ hardBreak ++
      joined (word "," ++ hardBreak) conditions ++ word ";"

/-- The conditions of a type alias. -/
def conditionsOnLine (conditions : List Layout) : Layout :=
  if conditions.isEmpty then blank
  else
    outdentLast space ++ word "where" ++
      outdentLast (space ++ withEach trailingCommaOrSpace conditions)

end Layout

end SchemaTypes
