import SchemaTypes.Schema.Enumeration

/-!
# Why a generation run fails
-/

namespace SchemaTypes

/-- A schema node that cannot be resolved. -/
inductive ResolutionFault
  | depthExceeded (maxDepth : Nat)
  | notObjectShaped
  | unsupportedBranch (index : Nat)
  | unresolvedReference (reference : String)
deriving DecidableEq, Repr, Inhabited

/-- The fault as it is shown, without its place. -/
def ResolutionFault.message : ResolutionFault → String
  | .depthExceeded maxDepth => s!"nesting exceeds the maximum depth of {maxDepth}"
  | .notObjectShaped => "schema is not object-shaped and cannot become a struct"
  | .unsupportedBranch index => s!"allOf branch {index} has an unsupported shape"
  | .unresolvedReference reference => s!"reference '{reference}' cannot be resolved"

/-- Failure of a generation run. -/
inductive GenerationError
  /-- The schema node at the pointer cannot be resolved. -/
  | resolution (pointer : String) (fault : ResolutionFault)
  /-- The `enum` keyword of the node at the pointer gives no enumeration. -/
  | enumeration (pointer : String) (fault : EnumFault)
  /-- The tokens of a file are not valid source text. -/
  | invalidSource (file : String)
  /-- A name that cannot be written as an identifier. -/
  | invalidIdentifier (name : String)
deriving DecidableEq, Repr, Inhabited

namespace GenerationError

/-- The schema node a failure is about. -/
def pointer? : GenerationError → Option String
  | .resolution pointer _ => some pointer
  | .enumeration pointer _ => some pointer
  | _ => none

/-- The error as it is shown, with its place in the document. -/
def message : GenerationError → String
  | .resolution pointer fault => s!"{pointer}: {fault.message}"
  | .enumeration pointer fault => s!"{pointer}: {fault.message}"
  | .invalidSource file => s!"failed to format generated module '{file}'"
  | .invalidIdentifier name => s!"'{name}' is not an identifier"

end GenerationError

end SchemaTypes
