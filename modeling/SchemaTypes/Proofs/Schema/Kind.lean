import Mathlib.Tactic
import SchemaTypes.Schema.Kind

/-!
# What the kind of a node says

A node has the first kind whose test it passes.  So it passes the test of its kind, whatever comes
before.

* `Json.passes_kind`: a node passes the test of its kind.
* `Json.isSome_collection?_of_kind`, `Json.isSome_allOf?_of_kind`,
  `Json.isObjectShaped_of_nestedObject`: the keywords that come with a kind.
-/

namespace SchemaTypes

namespace Json

variable {node : Json}

/-- The test that a kind stands for.  Any node may be mixed. -/
def passes (node : Json) : SchemaKind → Bool
  | .reference => node.isReferenceKind
  | .intersection => node.allOf?.isSome
  | .union => node.alternatives?.isSome
  | .enumeration => node.enumValues?.isSome
  | .dateTime => node.isDateTime
  | .string => node.isType "string"
  | .objectArray => node.isObjectArrayKind
  | .primitiveArray => node.collection?.isSome
  | .primitive => node.isPrimitiveKind
  | .nestedObject => node.isNestedObjectKind
  | .dynamic => node.patternProperties?.isSome
  | .mixed => true

theorem passes_ite {test : Bool} {first rest : SchemaKind}
    (hfirst : test = true → node.passes first = true) (hrest : node.passes rest = true) :
    node.passes (if test then first else rest) = true := by
  cases test with
  | true => exact hfirst rfl
  | false => exact hrest

/-- **A node passes the test of its kind.** -/
theorem passes_kind (node : Json) : node.passes node.kind = true := by
  unfold kind
  iterate 11 refine passes_ite id ?_
  rfl

/-! ## The keywords that come with a kind -/

theorem isSome_collection?_of_kind
    (hkind : node.kind = .objectArray ∨ node.kind = .primitiveArray) :
    node.collection?.isSome := by
  have hpasses := passes_kind node
  rcases hkind with hkind | hkind
  · rw [hkind, passes, isObjectArrayKind, hasItems] at hpasses
    cases hcollection : node.collection? with
    | none =>
        rw [hcollection] at hpasses
        cases hpasses
    | some collection => rfl
  · rwa [hkind] at hpasses

theorem isSome_allOf?_of_kind (hkind : node.kind = .intersection) : node.allOf?.isSome := by
  have hpasses := passes_kind node
  rwa [hkind] at hpasses

theorem isObjectShaped_of_nestedObject (hkind : node.kind = .nestedObject) :
    node.isObjectShaped = true := by
  have hpasses := passes_kind node
  rw [hkind, passes, isNestedObjectKind, Bool.or_eq_true, Bool.and_eq_true] at hpasses
  rw [isObjectShaped, Bool.or_eq_true]
  exact hpasses.imp_right And.left

end Json

end SchemaTypes
