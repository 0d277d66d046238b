import SchemaTypes.Json.Writer
import SchemaTypes.Name.Unique
import SchemaTypes.Name.Words

/-!
# Case identifiers of enumerations

Each literal gives one identifier: its letters and digits in upper case.  As soon as one literal
is a number, starts with a digit or has neither letters nor digits, every identifier starts with
`VALUE_`.  Identifiers that still collide are numbered.
-/

namespace SchemaTypes.Name

section

variable (spell : List Char → List Char)

/-- Letters and digits of a literal in upper case, after `spell` has written it in ASCII, and
whether they need a word in front. -/
def caseLabelBy (literal : Json) : String × Bool :=
  let text := literal.string?.getD literal.text
  let label := ((spell text.toList).filter isAlphanumeric).map Char.toUpper
  if label.isEmpty then ("EMPTY", true)
  else (String.ofList label, literal.number?.isSome || nextIs Char.isDigit label)

/-- One identifier for each literal, in order. -/
def caseIdentifiersBy (literals : List Json) : List String :=
  let labels := literals.map (caseLabelBy spell)
  let marked := labels.any (·.2)
  ensureAllUnique [] (labels.map fun label => if marked then "VALUE_" ++ label.1 else label.1)

end

/-- The label of a literal, and whether it needs a word in front. -/
def caseLabel [Spelling] (literal : Json) : String × Bool := caseLabelBy Spelling.ascii literal

/-- One identifier for each literal, in order. -/
def caseIdentifiers [Spelling] (literals : List Json) : List String :=
  caseIdentifiersBy Spelling.ascii literals

end SchemaTypes.Name
