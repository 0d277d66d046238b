import SchemaTypes.Json.Value

/-!
# Keywords of a schema node

A schema node is a JSON value.  The queries of this module read one keyword each and answer as if
the keyword were absent when it is missing or holds a value of the wrong type.

## Main definitions

* `Json.schemaType?`: the declared type; of several types the first that is not `null`.
* `Json.isNullable`, `Json.isNullSchema`: whether a node accepts `null`, and whether it accepts
  nothing else.
* `Json.collection?`: the container and the item schema of an array or a map.
* `Json.isObjectShaped`, `Json.isClassShaped`: whether a node describes an object, and whether
  that object becomes a struct.
-/

namespace SchemaTypes

/-- Shape of values that hold any number of items of one kind. -/
inductive Container
  /-- A JSON array. -/
  | list
  /-- A JSON object without declared keys. -/
  | map
deriving DecidableEq, Repr, Inhabited

namespace Json

/-! ## Single keywords -/

/-- The declared `type`.  Of a list of types the first that is not `null` counts. -/
def schemaType? (node : Json) : Option String :=
  match node.get? "type" with
  | some (.string name) => some name
  | some (.array names) => (names.filterMap string?).find? (· != "null")
  | _ => none

/-- Whether the first type that a schema declares is of this name. -/
def isType (node : Json) (name : String) : Bool := node.schemaType? == some name

/-- The format of a string. -/
def format? (node : Json) : Option String := (node.get? "format").bind string?

/-- Target of a `$ref`. -/
def reference? (node : Json) : Option String := (node.get? "$ref").bind string?

/-- The branches that all have to hold. -/
def allOf? (node : Json) : Option (List Json) := (node.get? "allOf").bind items?

/-- The alternatives of which exactly one has to hold. -/
def oneOf? (node : Json) : Option (List Json) := (node.get? "oneOf").bind items?

/-- The alternatives of which some have to hold. -/
def anyOf? (node : Json) : Option (List Json) := (node.get? "anyOf").bind items?

/-- The alternatives of `oneOf`, or else of `anyOf`. -/
def alternatives? (node : Json) : Option (List Json) := node.oneOf?.or node.anyOf?

/-- The literals of an enumeration. -/
def enumValues? (node : Json) : Option (List Json) := (node.get? "enum").bind items?

/-- The properties by key. -/
def properties? (node : Json) : Option Members := (node.get? "properties").bind members?

/-- The properties by pattern. -/
def patternProperties? (node : Json) : Option Members :=
  (node.get? "patternProperties").bind members?

/-- `additionalProperties` when it is a schema; a boolean tells nothing about types. -/
def additionalProperties? (node : Json) : Option Json :=
  (node.get? "additionalProperties").filter isObject

/-- The keys that have to be there.  What is no string is passed over. -/
def requiredKeys (node : Json) : List String :=
  (((node.get? "required").bind items?).getD []).filterMap string?

/-- The value of an absent key. -/
def defaultValue? (node : Json) : Option Json := node.get? "default"

/-- The description. -/
def description? (node : Json) : Option String := (node.get? "description").bind string?

/-- The title. -/
def title? (node : Json) : Option String := (node.get? "title").bind string?

/-! ## Null -/

/-- Whether the entry of a list of types is the name of `null`. -/
def isNullName (value : Json) : Bool := value.string? == some "null"

/-- Accepts nothing but `null`. -/
def isNullSchema (node : Json) : Bool :=
  match node.get? "type" with
  | some (.string name) => name == "null"
  | some (.array names) => !names.isEmpty && names.all isNullName
  | _ => false

/-- Accepts `null`: it is listed among the types, among the literals of `enum`, or as an
alternative. -/
def isNullable (node : Json) : Bool :=
  let listed :=
    match node.get? "type" with
    | some (.array names) => names.any isNullName
    | _ => false
  listed || (node.enumValues?.getD []).any isNull || (node.alternatives?.getD []).any isNullSchema

/-! ## Shapes -/

/-- Whether the schema is one of dates with a time. -/
def isDateTime (node : Json) : Bool := node.isType "string" && node.format? == some "date-time"

/-- Whether the schema is one of integers, in either way to say so. -/
def isInteger (node : Json) : Bool :=
  node.isType "integer" || (node.isType "number" && node.format? == some "integer")

/-- An object without declared properties whose values all share one schema. -/
def isMapShaped (node : Json) : Bool :=
  node.properties?.isNone && node.patternProperties?.isNone && node.additionalProperties?.isSome &&
    (node.schemaType?.isNone || node.isType "object")

/-- The item schema of an array; anything when none is given. -/
def listItems (node : Json) : Json := ((node.get? "items").filter isObject).getD (.object [])

/-- Container and item schema of an array or map node. -/
def collection? (node : Json) : Option (Container × Json) :=
  if node.isType "array" then some (.list, node.listItems)
  else if node.isMapShaped then node.additionalProperties?.map (Container.map, ·)
  else none

/-- Declares properties or is typed as an object. -/
def isObjectShaped (node : Json) : Bool := node.properties?.isSome || node.isType "object"

/-- An object that becomes a struct of its own and not a map. -/
def isClassShaped (node : Json) : Bool :=
  node.properties?.isSome ||
    (node.isType "object" && !node.isMapShaped && node.patternProperties?.isNone)

/-! ## Sizes

What a keyword holds is smaller than its node, so resolution can recurse into it. -/

theorem sizeOf_lt_of_items? {value : Json} {items : List Json} (h : value.items? = some items) :
    sizeOf items < sizeOf value := by
  cases value <;> simp_all [items?]

theorem sizeOf_lt_of_members? {value : Json} {members : Members}
    (h : value.members? = some members) : sizeOf members < sizeOf value := by
  cases value <;> simp_all [members?]

theorem sizeOf_lt_of_get?_items? {node : Json} {key : String} {items : List Json}
    (h : (node.get? key).bind Json.items? = some items) : sizeOf items < sizeOf node := by
  obtain ⟨value, found, held⟩ := Option.bind_eq_some_iff.1 h
  exact Nat.lt_trans (sizeOf_lt_of_items? held) (sizeOf_lt_of_get? found)

theorem sizeOf_lt_of_alternatives? {node : Json} {alternatives : List Json}
    (h : node.alternatives? = some alternatives) : sizeOf alternatives < sizeOf node := by
  rcases Option.or_eq_some_iff.1 h with one | ⟨_, any⟩
  · exact sizeOf_lt_of_get?_items? one
  · exact sizeOf_lt_of_get?_items? any

theorem sizeOf_lt_of_patternProperties? {node : Json} {entries : Members}
    (h : node.patternProperties? = some entries) : sizeOf entries < sizeOf node := by
  obtain ⟨value, found, held⟩ := Option.bind_eq_some_iff.1 h
  exact Nat.lt_trans (sizeOf_lt_of_members? held) (sizeOf_lt_of_get? found)

theorem sizeOf_lt_of_additionalProperties? {node items : Json}
    (h : node.additionalProperties? = some items) : sizeOf items < sizeOf node := by
  obtain ⟨found, -⟩ := Option.filter_eq_some_iff.1 h
  exact sizeOf_lt_of_get? found

/-- The schema of anything is smaller than a node that declares a type. -/
theorem sizeOf_anything_lt_of_isType {node : Json} {name : String} (h : node.isType name = true) :
    sizeOf (Json.object []) < sizeOf node := by
  cases node with
  | object members =>
    cases members with
    | nil => simp [isType, schemaType?, get?, members?, Members.get?] at h
    | cons entry rest =>
      obtain ⟨key, value⟩ := entry
      simp only [Json.object.sizeOf_spec, List.cons.sizeOf_spec, List.nil.sizeOf_spec,
        Prod.mk.sizeOf_spec]
      omega
  | _ => simp [isType, schemaType?, get?, members?] at h

theorem sizeOf_lt_of_collection? {node items : Json} {container : Container}
    (h : node.collection? = some (container, items)) : sizeOf items < sizeOf node := by
  unfold collection? at h
  split at h
  · rename_i array
    simp only [Option.some.injEq, Prod.mk.injEq] at h
    obtain ⟨-, rfl⟩ := h
    unfold listItems
    cases held : (node.get? "items").filter isObject with
    | none => simpa using sizeOf_anything_lt_of_isType array
    | some value =>
      obtain ⟨found, -⟩ := Option.filter_eq_some_iff.1 held
      simpa using sizeOf_lt_of_get? found
  · split at h
    · simp only [Option.map_eq_some_iff, Prod.mk.injEq] at h
      obtain ⟨value, found, -, rfl⟩ := h
      exact sizeOf_lt_of_additionalProperties? found
    · simp at h

end Json

end SchemaTypes
