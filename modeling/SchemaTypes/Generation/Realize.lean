import SchemaTypes.Generation.Hook
import SchemaTypes.TypeUnit.Assemble

/-!
# Realizing types

A requested struct is realized by resolving its properties, assembling its unit, and realizing
the types its properties need.  Units are kept by type path; a later unit takes the place of an
earlier one of the same path, and a warning tells so.

Structs nest at most as deep as the options allow.  The recursion counts the levels left, and an
exhausted count is the error that reports the limit.
-/

namespace SchemaTypes

/-- What a user should know about a run that succeeded. -/
inductive GenerationWarning
  | typeNameCollision (path : TypePath) (pointer : String)
  | defaultIgnored (pointer : String) (default : Json)
deriving Repr, Inhabited

/-- The warning as it is shown. -/
def GenerationWarning.message : GenerationWarning → String
  | .typeNameCollision path pointer =>
    s!"Type '{path.text}' is generated more than once; the unit from '{pointer}' replaces the " ++
      "earlier one"
  | .defaultIgnored pointer default =>
    s!"Default {default.text} of '{pointer}' does not fit the property type and is ignored"

/-- Units and warnings of a run so far. -/
structure Progress where
  units : List (TypePath × TypeUnit) := []
  warnings : List GenerationWarning := []
deriving Repr, Inhabited

namespace Progress

/-- Nothing generated yet. -/
def empty : Progress := {}

/-- Adds a warning behind the earlier ones. -/
def warn (progress : Progress) (warning : GenerationWarning) : Progress :=
  { progress with warnings := progress.warnings ++ [warning] }

/-- Adds a unit, or puts it into the place of the one with the same path. -/
def insert (progress : Progress) (pointer : String) (unit : TypeUnit) : Progress :=
  let path := unit.path
  if progress.units.any (fun (entry : TypePath × TypeUnit) => entry.1 == path) then
    { progress with
      units := progress.units.map fun (entry : TypePath × TypeUnit) =>
        if entry.1 == path then (path, unit) else entry
    }.warn (.typeNameCollision path pointer)
  else { progress with units := progress.units ++ [(path, unit)] }

end Progress

/-- What realizing a type needs to know besides the request. -/
structure Generator where
  context : Context
  document : Json
  hooks : Hooks
deriving Inhabited

namespace Generator

variable [Spelling]

/-- Refuses code with a name that is no identifier. -/
def checkIdentifiers (code : Code) : Except GenerationError Unit :=
  match Token.badIdentifier? code.tokens with
  | some name => .error (.invalidIdentifier name)
  | none => .ok ()

/-- Generates an enum. -/
def realizeEnum (generator : Generator) (target : EnumTarget) (pointer : String)
    (progress : Progress) : Progress :=
  progress.insert pointer (.enumeration (generator.hooks.applyEnum (.assemble target)))

/-- Generates a union; the names of its variants have to be identifiers. -/
def realizeUnion (generator : Generator) (unit : UnionUnit) (pointer : String)
    (progress : Progress) : Except GenerationError Progress := do
  checkIdentifiers (.concat (unit.allVariants.map (·.code)))
  return progress.insert pointer (.union (generator.hooks.applyUnion unit))

/-- Realizes a struct. -/
abbrev StructRealizer := ClassRequest → Progress → Except GenerationError Progress

mutual

/-- Realizes the types a property needs; `realizeStruct` realizes a struct. -/
def realizeProperty (generator : Generator) (realizeStruct : StructRealizer) (pointer : String)
    (property : Property) (progress : Progress) : Except GenerationError Progress :=
  match property with
  | .collection _ _ item => realizeProperty generator realizeStruct pointer item progress
  | .nullable inner => realizeProperty generator realizeStruct pointer inner progress
  | .nestedObject request => realizeStruct request progress
  | .intersection request => realizeStruct request progress
  | .enumeration target => .ok (generator.realizeEnum target pointer progress)
  | .union path docs alternatives => do
    let progress ← generator.realizeUnion (.assemble path docs alternatives) pointer progress
    realizeAlternatives generator realizeStruct pointer alternatives progress
  | .dynamic entry branches => do
    let progress ← generator.realizeUnion (.assembleEntry entry branches) pointer progress
    realizeBranches generator realizeStruct pointer branches progress
  | .scalar _ => .ok progress
  | .reference _ => .ok progress
  | .mixed => .ok progress

/-- Generates what the alternatives of a union need. -/
def realizeAlternatives (generator : Generator) (realizeStruct : StructRealizer) (pointer : String)
    (alternatives : List (Alternative Property)) (progress : Progress) :
    Except GenerationError Progress :=
  match alternatives with
  | [] => .ok progress
  | ⟨_, property⟩ :: rest => do
    let progress ← realizeProperty generator realizeStruct pointer property progress
    realizeAlternatives generator realizeStruct pointer rest progress

/-- Generates what the branches of a map by patterns need. -/
def realizeBranches (generator : Generator) (realizeStruct : StructRealizer) (pointer : String)
    (branches : List (Branch Property)) (progress : Progress) : Except GenerationError Progress :=
  match branches with
  | [] => .ok progress
  | ⟨_, _, property⟩ :: rest => do
    let progress ← realizeProperty generator realizeStruct pointer property progress
    realizeBranches generator realizeStruct pointer rest progress

end

/-- Realizes the types the fields of a struct need. -/
def realizeFields (generator : Generator) (realizeStruct : StructRealizer) (pointer : String)
    (fields : List ResolvedField) (progress : Progress) : Except GenerationError Progress :=
  fields.foldlM
    (fun progress field =>
      realizeProperty generator realizeStruct pointer field.property.inner progress) progress

/-- Resolves the properties of a struct in order. -/
def resolveFields (generator : Generator) (request : ClassRequest) :
    Except GenerationError (List ResolvedField) :=
  let required := request.schema.requiredKeys
  (request.schema.properties?.getD []).mapM fun entry => do
    let property ←
      resolveField generator.context request entry.1 entry.2 (required.contains entry.1)
    return ⟨entry.1, entry.2, property⟩

/-- Warnings about defaults that do not fit. -/
def defaultWarnings (request : ClassRequest) (fields : List ResolvedField) :
    List GenerationWarning :=
  fields.filterMap fun field =>
    field.property.ignoredDefault?.map
      (.defaultIgnored (Pointer.descendant request.pointer ["properties", field.key]))

/-- Realizes a request when `levels` structs may still be nested in one another. -/
def realize (generator : Generator) : (levels : Nat) → StructRealizer
  | 0, request, _ =>
    .error (.resolution request.pointer
      (.depthExceeded generator.context.options.maxDepth))
  | levels + 1, request, progress => do
    let schema := request.schema
    if schema.enumValues?.isSome then
      match EnumDefinition.ofSchema schema generator.context.options.enumsSupported with
      | .error fault => throw (.enumeration request.pointer fault)
      | .ok definition =>
        let target : EnumTarget := ⟨request.path, definition, Resolve.documentation schema⟩
        return generator.realizeEnum target request.pointer progress
    else
      let merged ←
        if schema.allOf?.isSome then mergeAllOf generator.context schema request.pointer
        else pure schema
      let request := { request with schema := merged }
      if !merged.isObjectShaped then
        throw (.resolution request.pointer .notObjectShaped)
      let fields ← generator.resolveFields request
      let unit := StructUnit.assemble request generator.document fields
      checkIdentifiers (.concat (unit.fields.map (·.code)))
      let warned := (defaultWarnings request fields).foldl Progress.warn progress
      let inserted := warned.insert request.pointer (.struct (generator.hooks.applyStruct unit))
      generator.realizeFields (realize generator levels) request.pointer fields inserted

end Generator

end SchemaTypes
