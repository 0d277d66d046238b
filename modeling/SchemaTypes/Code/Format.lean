import SchemaTypes.Code.Grammar.Item

/-!
# Formatted source text

`Code.format?` lays out the tokens of a source file; there is no layout when they are no source
file.  `Code.dereferenced` and `Code.asReceiver` look at the tokens of an expression.
-/

namespace SchemaTypes

namespace Code

/-- The formatted text of a source file. -/
def format? (code : Code) : Option String := (Grammar.file? code.tokens).map Layout.text

open Grammar Reader in
/-- The place that an expression borrows. -/
def borrowedPlace? (code : Code) : Option Code :=
  let reader := fun (grammar : Grammar) => do
    Reader.operator "&"
    if ← nextIsWord "mut" then refuse
    if (← nextIsWord "raw") && ((← secondIsWord "const") || (← secondIsWord "mut")) then refuse
    modify fun cursor => { cursor with taken := [] }
    let _ ← unary grammar true ((← Reader.rest).length + 1)
    return Code.mk (← get).taken.reverse
  Grammar.readAll? reader code.tokens

open Grammar in
/-- The expression is a path or a field. -/
def isPlace (code : Code) : Bool :=
  (Grammar.readAll? (fun grammar => grammar.expression true) code.tokens).any (·.traits.isPlace)

/-- The value behind a reference: what is borrowed, or the reference with a star. -/
def dereferenced (code : Code) : Code :=
  code.borrowedPlace?.getD (operator "*" ++ code)

/-- An expression as the receiver of a method, where borrows are implied. -/
def asReceiver (code : Code) : Code :=
  code.borrowedPlace?.getD (if code.isPlace then code else parens code)

end Code

end SchemaTypes
