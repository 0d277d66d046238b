import SchemaTypes.Text.UpperCase

/-!
# Words inside a name

Names come from schema keys and file names in any spelling.  This module finds the words inside
them: the boundaries are characters other than ASCII letters and digits, a capital after a small
letter, and the last capital of a run of capitals that a small letter follows.

How a character beyond ASCII is written, and how the words of a field name are separated, is left to
a library.  Its two functions are a parameter of everything that names something: a result that
needs more of them than that they are functions says so in a hypothesis.

## Main definitions

* `Spelling`: the functions of the library.
* `capitalizeWords`: capital at the start of every word, small letters elsewhere.
* `camelCase`: separators dropped and the letter after one capitalised.
* `sanitize` and `snakeCase`: runs of letters and digits joined by single underscores.
-/

namespace SchemaTypes

/-- The library functions that names are spelled with. -/
class Spelling where
  /-- Writes a text in ASCII. -/
  ascii : List Char → List Char
  /-- Separates the words of a text of letters, digits and underscores by underscores, in small
  letters. -/
  snake : List Char → List Char

namespace Name

/-- An ASCII letter or digit. -/
def isAlphanumeric (c : Char) : Bool := c.isAlphanum

/-- Whether the first character of the text to come satisfies `p`. -/
def nextIs (p : Char → Bool) : List Char → Bool
  | [] => false
  | c :: _ => p c

/-- Capitalises words; `start` tells that a word starts here and `afterSmall` that a small letter
came last.  Other characters stay. -/
def capitalizeWordsFrom (start afterSmall : Bool) : List Char → List Char
  | [] => []
  | c :: rest =>
    if !isAlphanumeric c then
      c :: capitalizeWordsFrom (nextIs isAlphanumeric rest) false rest
    else
      let opens := start || (afterSmall && c.isUpper) || (c.isUpper && nextIs Char.isLower rest)
      (if opens then c.toUpper else c.toLower) :: capitalizeWordsFrom false c.isLower rest

/-- Capital at the start of every word, small letters elsewhere. -/
def capitalizeWords (text : List Char) : List Char := capitalizeWordsFrom true false text

/-- Upper case for the first character; the rest stays. -/
def capitalize : List Char → List Char
  | [] => []
  | c :: rest => Text.upperCase c ++ rest

/-- Characters after which a new segment of a key starts. -/
def isKeySeparator (c : Char) : Bool := c == '-' || c == '_' || c == '/' || c == ' '

/-- Drops separators and other characters that are no letters or digits.  `capital` asks for a
capital next, `begun` tells that something is written already. -/
def camelCaseFrom (capital begun : Bool) : List Char → List Char
  | [] => []
  | c :: rest =>
    if isKeySeparator c then camelCaseFrom begun begun rest
    else if !isAlphanumeric c then camelCaseFrom capital begun rest
    else (if capital then c.toUpper else c) :: camelCaseFrom false true rest

/-- A key in camel case, after `spell` has written it in ASCII.  The first segment keeps its
case. -/
def camelCaseBy (spell : List Char → List Char) (key : List Char) : List Char :=
  camelCaseFrom false false (spell key)

/-- A key in camel case. -/
def camelCase [Spelling] (key : List Char) : List Char := camelCaseBy Spelling.ascii key

/-- Writes letters and digits, and one underscore between two runs of them.  `gap` tells that a
run has ended, `begun` that something is written already. -/
def joinRunsFrom (gap begun : Bool) : List Char → List Char
  | [] => []
  | c :: rest =>
    if isAlphanumeric c then
      if gap && begun then '_' :: c :: joinRunsFrom false true rest
      else c :: joinRunsFrom false true rest
    else joinRunsFrom true begun rest

/-- The runs of letters and digits of a text, joined by single underscores, after `spell` has
written it in ASCII. -/
def sanitizeBy (spell : List Char → List Char) (text : List Char) : List Char :=
  joinRunsFrom false false (spell text)

/-- The runs of letters and digits of a text, joined by single underscores. -/
def sanitize [Spelling] (text : List Char) : List Char := sanitizeBy Spelling.ascii text

/-- Small letters, with an underscore between a small letter and a capital right after it. -/
def snakeCaseFrom (afterSmall : Bool) : List Char → List Char
  | [] => []
  | c :: rest =>
    if afterSmall && c.isUpper then '_' :: c.toLower :: snakeCaseFrom false rest
    else c.toLower :: snakeCaseFrom c.isLower rest

/-- A text of letters, digits and underscores in snake case. -/
def snakeCase (text : List Char) : List Char := snakeCaseFrom false text

end Name

/-- The spelling of names that are ASCII already. -/
@[reducible]
def Spelling.plain : Spelling := ⟨id, Name.snakeCase⟩

end SchemaTypes
