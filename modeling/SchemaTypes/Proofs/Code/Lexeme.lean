import Mathlib.Tactic
import SchemaTypes.TypeUnit.Source

/-!
# Source text as a sequence of tokens

Code is built of token trees.  Read from left to right, an opening and a closing bracket stand
around what a group holds, so that code can be added inside brackets without a change to the tokens
around it.

* `Lexeme`: a token of the flat text.
* `Code.lexemes`: the tokens of a piece of code, from left to right.
-/

namespace SchemaTypes

/-- A token of the flat text. -/
inductive Lexeme
  | ident (spelling : String)
  | punct (char : Char) (spacing : Spacing)
  | literal (spelling : String)
  | opening (delimiter : Delimiter)
  | closing (delimiter : Delimiter)
deriving DecidableEq, Repr

namespace Token

mutual

/-- The lexemes of a token; a group is opened and closed. -/
def lexemesIn : Token → List Lexeme
  | .ident spelling => [.ident spelling]
  | .punct char spacing => [.punct char spacing]
  | .literal spelling => [.literal spelling]
  | .group delimiter body => .opening delimiter :: (lexemes body ++ [.closing delimiter])

/-- The tokens of a list of token trees, from left to right. -/
def lexemes : List Token → List Lexeme
  | [] => []
  | token :: rest => lexemesIn token ++ lexemes rest

end

end Token

namespace Code

/-- The tokens of a piece of code, from left to right. -/
def lexemes (code : Code) : List Lexeme := Token.lexemes code.tokens

end Code

end SchemaTypes
