import SchemaTypes.Property.Presence
import SchemaTypes.Schema.Merge

/-!
# Resolving schema nodes

`resolveNode` turns a schema node into a property.  Types that are generated along the way are
named after the struct at hand, the key of the property and a suffix that tells items,
alternatives and branches of one property apart.

The recursion goes into parts of the node.  References are looked up and not followed, and a
merged `allOf` becomes a struct request of its own, so resolution always ends.
-/

namespace SchemaTypes

variable [Spelling]

namespace ScalarKind

/-- Scalar of a node of a primitive type. -/
def ofPrimitive (node : Json) : ScalarKind :=
  if node.isType "boolean" then .bool else if node.isInteger then .integer else .number

end ScalarKind

namespace Container

/-- Keyword that holds the item schema. -/
def itemsKeyword : Container → String
  | .list => "items"
  | .map => "additionalProperties"

end Container

namespace ClassRequest

/-- Name of a type generated for a property of the struct. -/
def nameFor (request : ClassRequest) (key suffix : String) : String :=
  Name.typeNameFor request.typeName key suffix

/-- A struct generated for a property. -/
def mint (request : ClassRequest) (key suffix : String) (schema : Json) (pointer : String) :
    ClassRequest :=
  request.descend (request.nameFor key suffix) schema pointer

/-- Path of an enumeration or union generated for a property. -/
def pathFor (request : ClassRequest) (key suffix : String) : TypePath :=
  request.sibling (request.nameFor key suffix)

end ClassRequest

namespace Resolve

/-- The documentation of a field: title and description of its schema. -/
def documentation (node : Json) : Documentation :=
  .ofTitleAndDescription node.title? node.description?

/-- The property of a node with a reference, or of a collection of referenced items. -/
def referenceProperty (context : Context) (node : Json) : Property :=
  let lookup := context.lookup
  match node.reference? with
  | some reference => .reference (lookup.find reference)
  | none =>
    match node.collection? with
    | some (container, items) =>
      match items.reference? with
      | some reference =>
        let item := Property.reference (lookup.find reference).unboxed
        .collection .reference container (if lookup.acceptsNull items then item.orNull else item)
      | none => .mixed
    | none => .mixed

/-- The scalar that all alternatives are. -/
def commonScalar? (alternatives : List (Alternative Property)) : Option ScalarKind :=
  match alternatives with
  | [] => none
  | first :: _ =>
    first.property.scalarKind?.filter fun kind =>
      alternatives.all fun alternative => alternative.property.scalarKind? == some kind

/-- A union, unless its alternatives are all the same scalar or there are none. -/
def unionProperty (path : TypePath) (docs : Documentation)
    (alternatives : List (Alternative Property)) : Property :=
  if alternatives.isEmpty then .mixed
  else
    match commonScalar? alternatives with
    | some kind => .scalar kind
    | none => .union path docs alternatives

end Resolve

open Resolve in
mutual

/-- The property of a node at a pointer. -/
def resolveNode (context : Context) (request : ClassRequest) (key suffix : String) (node : Json)
    (pointer : String) : Except GenerationError Property := do
  let property ←
    match node.kind with
    | .reference => pure (referenceProperty context node)
    | .intersection => do
      let merged ← mergeAllOf context node pointer
      pure (.intersection (request.mint key suffix merged pointer))
    | .union => do
      let keyword := if node.oneOf?.isSome then "oneOf" else "anyOf"
      let alternatives ←
        match h : node.alternatives? with
        | some alternatives =>
          have := Json.sizeOf_lt_of_alternatives? h
          resolveAlternatives context request key suffix (pointer ++ "/" ++ keyword) 0 alternatives
        | none => pure []
      pure (unionProperty (request.pathFor key suffix) (documentation node) alternatives)
    | .enumeration =>
      match EnumDefinition.ofSchema node context.options.enumsSupported with
      | .ok definition =>
        pure (.enumeration ⟨request.pathFor key suffix, definition, documentation node⟩)
      | .error fault => throw (.enumeration pointer fault)
    | .dateTime => pure (.scalar .dateTime)
    | .string => pure (.scalar .string)
    | .objectArray | .primitiveArray =>
      match h : node.collection? with
      | some (container, items) => do
        have := Json.sizeOf_lt_of_collection? h
        let item ←
          resolveNode context request key (suffix ++ "Item") items
            (pointer ++ "/" ++ container.itemsKeyword)
        let kind := if node.isObjectArrayKind then CollectionKind.object else .primitive
        pure (.collection kind container item)
      | none => throw (.resolution pointer .notObjectShaped)
    | .primitive => pure (.scalar (.ofPrimitive node))
    | .nestedObject => pure (.nestedObject (request.mint key suffix node pointer))
    | .dynamic => do
      let patterned ←
        match h : node.patternProperties? with
        | some entries =>
          have := Json.sizeOf_lt_of_patternProperties? h
          resolveBranches context request key suffix (pointer ++ "/patternProperties") 1 entries
        | none => pure []
      let others ←
        match h : node.additionalProperties? with
        | some additional => do
          have := Json.sizeOf_lt_of_additionalProperties? h
          let property ←
            resolveNode context request key (suffix ++ "Additional") additional
              (pointer ++ "/additionalProperties")
          pure [Branch.mk "Additional" none property]
        | none => pure []
      pure (.dynamic (request.pathFor key (suffix ++ "Entry")) (patterned ++ others))
    | .mixed => pure .mixed
  return if context.lookup.acceptsNull node then property.orNull else property
termination_by sizeOf node
decreasing_by all_goals assumption

/-- The alternatives that are more than `null`, named after their position; `index` is that of the
first one. -/
def resolveAlternatives (context : Context) (request : ClassRequest) (key suffix pointer : String)
    (index : Nat) (nodes : List Json) : Except GenerationError (List (Alternative Property)) :=
  match nodes with
  | [] => pure []
  | node :: rest => do
    if node.isNullSchema then
      resolveAlternatives context request key suffix pointer (index + 1) rest
    else
      let variant := "Alternative" ++ toString (index + 1)
      let property ←
        resolveNode context request key (suffix ++ variant) node (pointer ++ "/" ++ toString index)
      let others ← resolveAlternatives context request key suffix pointer (index + 1) rest
      return ⟨variant, property⟩ :: others
termination_by sizeOf nodes
decreasing_by all_goals simp only [List.cons.sizeOf_spec]; omega

/-- The branches of patterns, numbered from `number` on. -/
def resolveBranches (context : Context) (request : ClassRequest) (key suffix pointer : String)
    (number : Nat) (entries : List (String × Json)) :
    Except GenerationError (List (Branch Property)) :=
  match entries with
  | [] => pure []
  | (pattern, node) :: rest => do
    let variant := "Pattern" ++ toString number
    let property ←
      resolveNode context request key (suffix ++ variant) node (Pointer.child pointer pattern)
    let others ← resolveBranches context request key suffix pointer (number + 1) rest
    return ⟨variant, some pattern, property⟩ :: others
termination_by sizeOf entries
decreasing_by all_goals simp only [List.cons.sizeOf_spec, Prod.mk.sizeOf_spec]; omega

end

/-- The property under a key of a struct, with its presence. -/
def resolveField (context : Context) (request : ClassRequest) (key : String) (node : Json)
    (required : Bool) : Except GenerationError FieldProperty := do
  let pointer := Pointer.descendant request.pointer ["properties", key]
  let property ← resolveNode context request key "" node pointer
  return .decorate property required node.defaultValue? context.options.treatDefaultedAsOptional

end SchemaTypes
