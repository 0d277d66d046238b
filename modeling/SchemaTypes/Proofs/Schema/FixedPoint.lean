import SchemaTypes.Proofs.Schema.Flattening

/-!
# Merged schemas are fixed points

A schema that has been merged may be merged again, as happens when a merged branch ends up below
another node.  This changes nothing: neither what the keywords hold, nor the order in which they
stand, although a merge removes keywords, which moves others, and adds keywords, which come last.

* `Json.IsMerged`: the normal form of merging.
* `Merge.isMerged_mergeLevels`: every merge ends in the normal form, because absorbing a schema
  keeps the gathered keys distinct.
* `Json.IsMerged.mergeAllOf_eq`: a schema in normal form is merged to itself.
* `mergeAllOf_eq_self_iff`: the fixed points of merging are the schemas in normal form.
* `mergeAllOf_fixedPoint`: a merged schema is one of them.
-/

namespace SchemaTypes

open Outcome

/-! ## Distinct keys -/

theorem unionKeys_cons (keys : List String) (key : String) (rest : List String) :
    unionKeys keys (key :: rest) = unionKeys (unionKeys keys [key]) rest :=
  unionKeys_append keys [key] rest

theorem nodup_unionKeys {keys : List String} (hdistinct : keys.Nodup) (more : List String) :
    (unionKeys keys more).Nodup := by
  induction more generalizing keys with
  | nil => exact hdistinct
  | cons key rest ih =>
      rw [unionKeys_cons]
      refine ih ?_
      rw [unionKeys_singleton]
      split
      · exact hdistinct
      · rename_i hfresh
        exact List.concat_eq_append ▸ hdistinct.concat hfresh

/-- Keys that are new are added in order. -/
theorem unionKeys_of_nodup {keys more : List String} (hdistinct : (keys ++ more).Nodup) :
    unionKeys keys more = keys ++ more := by
  induction more generalizing keys with
  | nil => exact (List.append_nil keys).symm
  | cons key rest ih =>
      have hfresh : key ∉ keys := by
        rw [List.nodup_append] at hdistinct
        exact fun hmember => hdistinct.2.2 _ hmember _ List.mem_cons_self rfl
      have hsplit : keys ++ key :: rest = keys ++ [key] ++ rest := by simp
      rw [unionKeys_cons, unionKeys_singleton, if_neg hfresh, ih (hsplit ▸ hdistinct), hsplit]

/-! ## The normal form -/

/-- A schema as merging leaves it: an object without branches, of which every property is declared
once and every required key is listed once. -/
structure Json.IsMerged (schema : Json) : Prop where
  allOf : schema.get? "allOf" = none
  type : schema.get? "type" = some (.string "object")
  properties : ∃ properties, schema.get? "properties" = some (.object properties) ∧
    (Members.keys properties).Nodup
  /-- An empty list of keys is left out. -/
  required : schema.get? "required" = none ∨ ∃ keys ≠ [], keys.Nodup ∧
    schema.get? "required" = some (MergedObject.keyArray keys)

namespace MergedObject

open Json

variable {merged : MergedObject} {base : Json} {members : Members}

/-- What has been merged so far has no key twice. -/
structure Distinct (merged : MergedObject) : Prop where
  properties : (Members.keys merged.properties).Nodup
  required : merged.required.Nodup

theorem distinct_empty : empty.Distinct :=
  ⟨List.nodup_nil, List.nodup_nil⟩

/-- Whatever a schema declares, absorbing it repeats no key. -/
theorem Distinct.absorb (hmerged : merged.Distinct) (schema : Json) :
    (merged.absorb schema).Distinct :=
  ⟨Members.nodup_keys_insertAll hmerged.properties _, nodup_unionKeys hmerged.required _⟩

theorem Distinct.isMerged_toSchema (hmerged : merged.Distinct)
    (hbase : (Members.keys (base.members?.getD [])).Nodup) : (merged.toSchema base).IsMerged where
  allOf := get?_toSchema merged hbase "allOf"
  type := get?_toSchema merged hbase "type"
  properties := ⟨merged.properties, get?_toSchema merged hbase "properties", hmerged.properties⟩
  required := by
    rw [get?_toSchema merged hbase, if_neg (by decide), if_pos rfl]
    by_cases hnone : merged.required = []
    · exact .inl (if_pos hnone)
    · exact .inr ⟨merged.required, hnone, hmerged.required, if_neg hnone⟩

/-- Members that describe what has been merged already are left as they are: each keyword is set to
what it holds, or removed where it is missing. -/
theorem toSchema_eq_self (hallOf : members.get? "allOf" = none)
    (htype : members.get? "type" = some (.string "object"))
    (hproperties : members.get? "properties" = some (.object merged.properties))
    (hrequired : members.get? "required" =
      if merged.required = [] then none else some (keyArray merged.required))
    (hadditional : members.get? "additionalProperties" = merged.additional) :
    merged.toSchema (.object members) = .object members := by
  have hdescribed : merged.described members = members := by
    rw [described, Members.erase_eq_self hallOf, Members.insert_eq_self htype,
      Members.insert_eq_self hproperties]
  have hbounded : merged.bounded members = members := by
    rw [bounded, hdescribed]
    by_cases hnone : merged.required = []
    · rw [if_pos hnone] at hrequired
      rw [if_pos (by simp [hnone]), Members.erase_eq_self hrequired]
    · rw [if_neg hnone] at hrequired
      rw [if_neg (by simpa using hnone), Members.insert_eq_self hrequired]
  rw [toSchema_eq, Json.members?, Option.getD_some, written, hbounded]
  cases hsome : merged.additional with
  | none => rfl
  | some additional =>
      exact congrArg Json.object (Members.insert_eq_self (hadditional.trans hsome))

end MergedObject

/-! ## Merging in normal form -/

namespace Json.IsMerged

open MergedObject

variable {schema : Json}

/-- A merged schema on its own contributes what it declares. -/
theorem absorb_toSchema (hschema : schema.IsMerged) :
    (empty.absorb schema).toSchema schema = schema := by
  obtain ⟨properties, hproperties, hdistinct⟩ := hschema.properties
  cases schema with
  | object members =>
      refine toSchema_eq_self hschema.allOf hschema.type ?_ ?_ ?_
      · have hgathered : (empty.absorb (.object members)).properties = properties := by
          simp only [absorb, properties?, hproperties, Option.bind_some, members?, Option.getD_some]
          exact Members.ofList_eq_self hdistinct
        rw [hgathered]
        exact hproperties
      · rcases hschema.required with hnone | ⟨keys, hsome, honce, hkeys⟩
        · have hgathered : (empty.absorb (.object members)).required = [] := by
            simp only [absorb, requiredKeys, hnone]
            rfl
          rw [hgathered, if_pos rfl]
          exact hnone
        · have hgathered : (empty.absorb (.object members)).required = keys := by
            simp only [absorb, requiredKeys_of_keyArray hkeys]
            exact unionKeys_of_nodup honce
          rw [hgathered, if_neg hsome]
          exact hkeys
      · exact (Option.none_or).symm
  | null | bool | number | string | array => cases hproperties

/-- There are no branches to merge, so there is nothing to fail either. -/
theorem mergeAllOf_eq (hschema : schema.IsMerged) (context : Context) (pointer : String) :
    mergeAllOf context schema pointer = .ok schema := by
  have hbranches : schema.allOf?.getD [] = [] := by simp [allOf?, hschema.allOf]
  simp only [mergeAllOf, Merge.mergeLevels, hbranches, Merge.mergeBranches]
  exact congrArg Except.ok hschema.absorb_toSchema

end Json.IsMerged

/-! ## Merging into normal form -/

namespace Merge

open MergedObject

variable {context : Context} {nested : NestedMerge} {pointer : String} {index : Nat}

theorem distinct_mergeBranches {branches : List Json} {merged result : MergedObject}
    (hmerged : merged.Distinct)
    (hresult : mergeBranches context nested pointer index branches merged = .ok result) :
    result.Distinct := by
  induction branches generalizing index merged with
  | nil =>
      obtain rfl := Except.ok.inj hresult
      exact hmerged
  | cons branch rest ih =>
      obtain ⟨schema, -, hresult⟩ := bind_eq_ok.mp hresult
      exact ih (hmerged.absorb schema) hresult

theorem isMerged_mergeLevels {levels : Nat} {node merged : Json}
    (hnode : (Members.keys (node.members?.getD [])).Nodup)
    (hmerged : mergeLevels context levels node pointer = .ok merged) : merged.IsMerged := by
  cases levels with
  | zero => cases hmerged
  | succ levels =>
      obtain ⟨gathered, hgathered, hmerged⟩ := bind_eq_ok.mp hmerged
      obtain rfl := pure_eq_ok.mp hmerged
      have hdistinct := distinct_mergeBranches distinct_empty hgathered
      exact (hdistinct.absorb node).isMerged_toSchema hnode

end Merge

/-- **Fixed points of merging** are the schemas in normal form. -/
theorem mergeAllOf_eq_self_iff {context : Context} {schema : Json} {pointer : String}
    (hschema : (Members.keys (schema.members?.getD [])).Nodup) :
    mergeAllOf context schema pointer = .ok schema ↔ schema.IsMerged :=
  ⟨Merge.isMerged_mergeLevels hschema, fun hmerged => hmerged.mergeAllOf_eq context pointer⟩

/-- **A merged schema is a fixed point.**  It has no branches, describes an object, lists the keys
that it requires once each or not at all, and is merged to itself, with its keywords in the same
order. -/
theorem mergeAllOf_fixedPoint {context : Context} {node merged : Json} {pointer : String}
    (hnode : (Members.keys (node.members?.getD [])).Nodup)
    (hmerged : mergeAllOf context node pointer = .ok merged) :
    merged.get? "allOf" = none ∧ merged.isObjectShaped = true ∧
      (merged.get? "required" = none ∨
        ∃ keys : List String, keys ≠ [] ∧ keys.Nodup ∧
          merged.get? "required" = some (.array (keys.map .string))) ∧
      ∀ other place, mergeAllOf other merged place = .ok merged := by
  have hnormal : merged.IsMerged := Merge.isMerged_mergeLevels hnode hmerged
  obtain ⟨properties, hproperties, -⟩ := hnormal.properties
  have hshape : merged.isObjectShaped = true := by
    simp [Json.isObjectShaped, Json.properties?, hproperties, Json.members?]
  exact ⟨hnormal.allOf, hshape, hnormal.required, hnormal.mergeAllOf_eq⟩

namespace Merge

/-- A node with branches in the midst of its keywords, which lists a key twice and something that
is no key. -/
def disordered : Json :=
  .object [
    ("required", .array [.string "a", .number (.integer 1), .string "a"]),
    ("allOf", .array [withProperty "a" (typed "string"), .object [("required", .null)]]),
    ("title", .string "Disordered"),
    ("additionalProperties", .bool false)]

/-- The last keyword has moved to where the branches were. -/
def disorderedMerged : Json :=
  .object [
    ("required", .array [.string "a"]),
    ("additionalProperties", .bool false),
    ("title", .string "Disordered"),
    ("type", .string "object"),
    ("properties", .object [("a", typed "string")])]

theorem mergeAllOf_disordered :
    mergeAllOf bareContext disordered "#" = .ok disorderedMerged ∧
      disorderedMerged.get? "allOf" = none ∧ disorderedMerged.isObjectShaped = true ∧
      (disorderedMerged.get? "required" = none ∨
        ∃ keys : List String, keys ≠ [] ∧ keys.Nodup ∧
          disorderedMerged.get? "required" = some (.array (keys.map .string))) ∧
      ∀ other place, mergeAllOf other disorderedMerged place = .ok disorderedMerged := by
  have hnode : (Members.keys (disordered.members?.getD [])).Nodup := by decide
  have hmerged : mergeAllOf bareContext disordered "#" = .ok disorderedMerged := rfl
  exact ⟨hmerged, mergeAllOf_fixedPoint hnode hmerged⟩

end Merge

end SchemaTypes
