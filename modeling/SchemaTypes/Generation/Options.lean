/-!
# Options of a generation run
-/

namespace SchemaTypes

/-- How types are generated. -/
structure Options where
  /-- Properties with a default may be null; absent keys still give the default. -/
  treatDefaultedAsOptional : Bool := false
  /-- Enumerations are generated.  Without them an `enum` keyword is an error. -/
  enumsSupported : Bool := true
  /-- Deepest nesting of inline structs and of `allOf`, and longest chain of references. -/
  maxDepth : Nat := 64
  /-- Module path that the output directory is mounted at. -/
  moduleRoot : List String := ["crate"]
deriving DecidableEq, Repr, Inhabited

end SchemaTypes
