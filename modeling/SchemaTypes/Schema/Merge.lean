import SchemaTypes.Generation.Error
import SchemaTypes.Generation.Options
import SchemaTypes.Schema.Lookup

/-!
# Merging `allOf`

The branches of an `allOf` are merged from left to right into one object schema, and the keywords
of the node itself come last.  Required keys are an ordered union, later properties overwrite
earlier ones, and the first `additionalProperties` counts.  References are followed; a branch with
alternatives contributes every property that some alternative declares, and requires what all
alternatives require.

## Main definitions

* `MergedObject`: what has been merged so far.
* `MergedObject.absorb`, `MergedObject.toSchema`.
* `mergeAllOf`: the merged schema of a node.
-/

namespace SchemaTypes

/-- An object schema in the making. -/
structure MergedObject where
  properties : Members := []
  required : List String := []
  additional : Option Json := none
deriving Repr, Inhabited

/-- Appends the keys that are not there yet. -/
def unionKeys (keys more : List String) : List String :=
  more.foldl (fun keys key => if keys.contains key then keys else keys ++ [key]) keys

namespace MergedObject

/-- Nothing merged yet. -/
def empty : MergedObject := {}

/-- Adds the object keywords of a schema. -/
def absorb (merged : MergedObject) (schema : Json) : MergedObject where
  properties :=
    (schema.properties?.getD []).foldl
      (fun properties entry => Members.insert properties entry.1 entry.2) merged.properties
  required := unionKeys merged.required schema.requiredKeys
  additional := merged.additional.or (schema.get? "additionalProperties")

/-- Keys as the value of `required`. -/
def keyArray (keys : List String) : Json := .array (keys.map .string)

/-- The merged schema, with the remaining keywords of `base`. -/
def toSchema (merged : MergedObject) (base : Json) : Json :=
  let schema := Members.erase (base.members?.getD []) "allOf"
  let schema := Members.insert schema "type" (.string "object")
  let schema := Members.insert schema "properties" (.object merged.properties)
  let schema :=
    if merged.required.isEmpty then Members.erase schema "required"
    else Members.insert schema "required" (keyArray merged.required)
  match merged.additional with
  | some additional => .object (Members.insert schema "additionalProperties" additional)
  | none => .object schema

end MergedObject

/-- What resolution needs to know besides the node: the options and the targets of references. -/
structure Context where
  options : Options
  lookup : Lookup
deriving Repr, Inhabited

namespace Merge

/-- The failure of a merge that nests too deeply. -/
def tooDeep (context : Context) (pointer : String) : GenerationError :=
  .resolution pointer (.depthExceeded context.options.maxDepth)

/-- Follows references until a node that is none; at most `hops` of them. -/
def dereference (context : Context) (pointer : String) (hops : Nat) (node : Json) :
    Except GenerationError Json :=
  match node.reference? with
  | none => .ok node
  | some reference =>
    match hops with
    | 0 => .error (tooDeep context pointer)
    | hops + 1 =>
      match context.lookup.schema? reference with
      | some target => dereference context pointer hops target
      | none => .error (.resolution pointer (.unresolvedReference reference))

/-- Merges a nested `allOf` at a pointer. -/
abbrev NestedMerge := Json → (pointer : String) → Except GenerationError Json

/-- What a list of alternatives may hold and must hold. -/
structure Reduction where
  properties : Members := []
  /-- Keys required by every alternative so far; nothing before the first one. -/
  required : Option (List String) := none
deriving Repr, Inhabited

/-- Takes in an alternative.  The first one that declares a property decides on its schema; only
keys that all of them require stay required. -/
def Reduction.add (reduction : Reduction) (alternative : Json) : Reduction where
  properties :=
    (alternative.properties?.getD []).foldl
      (fun properties entry =>
        if Members.contains properties entry.1 then properties
        else Members.insert properties entry.1 entry.2) reduction.properties
  required :=
    let keys := unionKeys [] alternative.requiredKeys
    some (match reduction.required with
      | none => keys
      | some earlier => earlier.filter keys.contains)

/-- The alternatives as one object schema. -/
def Reduction.toSchema (reduction : Reduction) : Json :=
  let required := reduction.required.getD []
  .object <|
    ("properties", .object reduction.properties) ::
      if required.isEmpty then [] else [("required", MergedObject.keyArray required)]

/-- Reduces alternatives, the first of which is number `index`. -/
def reduceAlternatives (context : Context) (nested : NestedMerge) (pointer : String) :
    (index : Nat) → List Json → Reduction → Except GenerationError Reduction
  | _, [], reduction => .ok reduction
  | index, alternative :: rest, reduction => do
    let place := pointer ++ "/" ++ toString index
    let alternative ← dereference context place context.options.maxDepth alternative
    let alternative ←
      if alternative.allOf?.isSome then nested alternative place else pure alternative
    reduceAlternatives context nested pointer (index + 1) rest (reduction.add alternative)

/-- The schema that a branch contributes. -/
def branchSchema (context : Context) (nested : NestedMerge) (pointer : String) (index : Nat)
    (branch : Json) : Except GenerationError Json := do
  let branch ← dereference context pointer context.options.maxDepth branch
  match branch with
  | .bool true => return .object []
  | .object _ =>
    if branch.allOf?.isSome then nested branch pointer
    else
      match branch.alternatives? with
      | some alternatives =>
        let keyword := if (branch.get? "oneOf").isSome then "oneOf" else "anyOf"
        let reduction ←
          reduceAlternatives context nested (pointer ++ "/" ++ keyword) 0 alternatives {}
        let merged := (MergedObject.empty.absorb reduction.toSchema).absorb branch
        return merged.toSchema (.object [])
      | none =>
        if branch.schemaType?.isNone || branch.isType "object" then return branch
        else throw (.resolution pointer (.unsupportedBranch index))
  | _ => throw (.resolution pointer (.unsupportedBranch index))

/-- Merges branches, the first of which is number `index`. -/
def mergeBranches (context : Context) (nested : NestedMerge) (pointer : String) :
    (index : Nat) → List Json → MergedObject → Except GenerationError MergedObject
  | _, [], merged => .ok merged
  | index, branch :: rest, merged => do
    let place := pointer ++ "/allOf/" ++ toString index
    let schema ← branchSchema context nested place index branch
    mergeBranches context nested pointer (index + 1) rest (merged.absorb schema)

/-- Merges the `allOf` of a node when `levels` of them may still be nested in one another. -/
def mergeLevels (context : Context) : (levels : Nat) → NestedMerge
  | 0, _, pointer => .error (tooDeep context pointer)
  | levels + 1, node, pointer => do
    let merged ←
      mergeBranches context (mergeLevels context levels) pointer 0 (node.allOf?.getD []) .empty
    return (merged.absorb node).toSchema node

end Merge

/-- One object schema for a node with `allOf`, which it has no longer. -/
def mergeAllOf (context : Context) (node : Json) (pointer : String) : Except GenerationError Json :=
  Merge.mergeLevels context (context.options.maxDepth + 1) node pointer

end SchemaTypes
