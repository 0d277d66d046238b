import SchemaTypes.Proofs.Schema.Contributions

/-!
# Merging as one fold

Nested `allOf`s are merged on their own, into schemas with keywords of their own, and these are
merged again.  This file shows that the nesting leaves no trace: a merge is one pass from left to
right over the schemas that the node consists of.

## Strategy

* `MergedObject.get?_toSchema` reads the keywords of a merged schema back.
* `MergedObject.absorb_toSchema` is the law of association: absorbing what has been merged on its
  own is absorbing its contributions one by one.  It rests on one law for each of the three rules:
  `Members.insertAll_insertAll` (the last value counts), `unionKeys_unionKeys` (keys are kept in
  order) and associativity of `Option.or` (the first value counts).
* `Merge.flat_mergeLevels` goes through the recursion of the merge once and collects the
  contributions.

The laws need that no object has a key twice, as is the case for every document that is read
(`keysDistinct_of_readDocument`).
-/

namespace SchemaTypes

open Outcome

/-! ## Keys in order of first appearance -/

theorem unionKeys_append (keys more others : List String) :
    unionKeys keys (more ++ others) = unionKeys (unionKeys keys more) others :=
  List.foldl_append

theorem unionKeys_singleton (keys : List String) (key : String) :
    unionKeys keys [key] = if key ∈ keys then keys else keys ++ [key] := by
  simp [unionKeys]

/-- Keys may be gathered before they are added. -/
theorem unionKeys_unionKeys (keys more : List String) :
    unionKeys keys (unionKeys [] more) = unionKeys keys more := by
  induction more using List.reverseRecOn with
  | nil => rfl
  | append_singleton earlier key ih =>
      rw [unionKeys_append, unionKeys_append, unionKeys_singleton]
      split
      · -- a key that was gathered before has been added before
        rename_i hgathered
        have hadded : key ∈ unionKeys keys earlier :=
          mem_unionKeys.mpr (.inr ((mem_unionKeys.mp hgathered).resolve_left (by simp)))
        rw [ih, unionKeys_singleton, if_pos hadded]
      · rw [unionKeys_append, ih]

/-- Gathered keys are those in order of first appearance. -/
theorem unionKeys_nil_eq_eraseDups (keys : List String) : unionKeys [] keys = keys.eraseDups := by
  induction keys using List.reverseRecOn with
  | nil => rfl
  | append_singleton earlier key ih =>
      rw [unionKeys_append, ih, unionKeys_singleton, List.eraseDups_append]
      by_cases hkey : key ∈ earlier
      · simp [List.removeAll, hkey]
      · simp [List.removeAll, hkey, List.eraseDups_cons]

theorem Members.keys_insertAll (members entries : Members) :
    keys (insertAll members entries) = unionKeys (keys members) (keys entries) := by
  induction entries generalizing members with
  | nil => rfl
  | cons entry rest ih =>
      have hcons : keys (entry :: rest) = [entry.1] ++ keys rest := rfl
      rw [insertAll_cons, ih, hcons, unionKeys_append, unionKeys_singleton, keys_insert]

/-! ## What is merged -/

namespace MergedObject

open Json

variable {merged : MergedObject} {base node : Json} {contributions : List Json}

/-- Absorbing schemas sets their properties one after another. -/
theorem properties_foldl_absorb (contributions : List Json) (merged : MergedObject) :
    (contributions.foldl absorb merged).properties =
      Members.insertAll merged.properties
        (contributions.flatMap fun schema => schema.properties?.getD []) := by
  induction contributions generalizing merged with
  | nil => rfl
  | cons schema rest ih =>
      rw [List.foldl_cons, ih, List.flatMap_cons, Members.insertAll_append]
      rfl

theorem required_foldl_absorb (contributions : List Json) (merged : MergedObject) :
    (contributions.foldl absorb merged).required =
      unionKeys merged.required (contributions.flatMap requiredKeys) := by
  induction contributions generalizing merged with
  | nil => rfl
  | cons schema rest ih =>
      rw [List.foldl_cons, ih, List.flatMap_cons, unionKeys_append]
      rfl

theorem additional_foldl_absorb (contributions : List Json) (merged : MergedObject) :
    (contributions.foldl absorb merged).additional =
      merged.additional.or
        (contributions.findSome? fun schema => schema.get? "additionalProperties") := by
  induction contributions generalizing merged with
  | nil => simp
  | cons schema rest ih =>
      rw [List.foldl_cons, ih, List.findSome?_cons]
      simp only [absorb]
      cases merged.additional with
      | some additional => rfl
      | none => cases schema.get? "additionalProperties" <;> rfl

theorem get?_described {members : Members} (hdistinct : (Members.keys members).Nodup)
    (key : String) :
    Members.get? (merged.described members) key =
      if key = "properties" then some (.object merged.properties)
      else if key = "type" then some (.string "object")
      else if key = "allOf" then none
      else Members.get? members key := by
  rw [described, Members.get?_insert, Members.get?_insert, Members.get?_erase hdistinct]

theorem get?_bounded {members : Members} (hdistinct : (Members.keys members).Nodup)
    (key : String) :
    Members.get? (merged.bounded members) key =
      if key = "required" then
        if merged.required = [] then none else some (keyArray merged.required)
      else Members.get? (merged.described members) key := by
  have hdescribed : (Members.keys (merged.described members)).Nodup :=
    Members.nodup_keys_insert (Members.nodup_keys_insert (Members.nodup_keys_erase hdistinct _) _ _)
      _ _
  unfold bounded
  by_cases hnone : merged.required = []
  · rw [if_pos (by simp [hnone]), Members.get?_erase hdescribed, if_pos hnone]
  · rw [if_neg (by simpa using hnone), Members.get?_insert, if_neg hnone]

/-- **Keywords of a merged schema.** -/
theorem get?_toSchema (merged : MergedObject)
    (hbase : (Members.keys (base.members?.getD [])).Nodup) (key : String) :
    (merged.toSchema base).get? key =
      if key = "additionalProperties" then merged.additional.or (base.get? key)
      else if key = "required" then
        if merged.required = [] then none else some (keyArray merged.required)
      else if key = "properties" then some (.object merged.properties)
      else if key = "type" then some (.string "object")
      else if key = "allOf" then none
      else base.get? key := by
  have hget : base.get? key = Members.get? (base.members?.getD []) key := by
    cases base <;> rfl
  rw [get?_toSchema_eq, hget, written]
  cases merged.additional with
  | some additional =>
      rw [Members.get?_insert, get?_bounded hbase, get?_described hbase]
      rfl
  | none =>
      rw [get?_bounded hbase, get?_described hbase]
      by_cases hkey : key = "additionalProperties"
      · subst hkey
        rfl
      · rw [if_neg hkey]

theorem requiredKeys_of_keyArray {schema : Json} {keys : List String}
    (hkeys : schema.get? "required" = some (keyArray keys)) : schema.requiredKeys = keys := by
  simp [requiredKeys, hkeys, keyArray, items?, string?, List.filterMap_map, Function.comp_def]

/-! ### Reading a merged schema back -/

variable (hbase : (Members.keys (base.members?.getD [])).Nodup)
include hbase

theorem properties?_toSchema :
    (merged.toSchema base).properties? = some merged.properties := by
  unfold properties?
  rw [get?_toSchema merged hbase]
  rfl

theorem requiredKeys_toSchema : (merged.toSchema base).requiredKeys = merged.required := by
  have hrequired := get?_toSchema merged hbase "required"
  by_cases hnone : merged.required = []
  · have habsent : (merged.toSchema base).get? "required" = none := hrequired.trans (if_pos hnone)
    rw [requiredKeys, habsent, hnone]
    rfl
  · exact requiredKeys_of_keyArray (hrequired.trans (if_neg hnone))

/-- The base is asked last for the keyword, so it does not count if it has been asked before. -/
theorem additional_toSchema
    (hown : base.get? "additionalProperties" = none ∨ base ∈ contributions) :
    ((contributions.foldl absorb .empty).toSchema base).get? "additionalProperties" =
      contributions.findSome? fun schema => schema.get? "additionalProperties" := by
  rw [get?_toSchema _ hbase, if_pos rfl, additional_foldl_absorb, empty, Option.none_or]
  rcases hown with hnone | hmember
  · rw [hnone, Option.or_none]
  · cases hfirst : contributions.findSome? fun schema => schema.get? "additionalProperties" with
    | some additional => rfl
    | none => exact List.findSome?_eq_none_iff.mp hfirst base hmember

/-- **Association.**  Absorbing what has been merged on its own is absorbing its contributions one
by one. -/
theorem absorb_toSchema (merged : MergedObject)
    (hown : base.get? "additionalProperties" = none ∨ base ∈ contributions) :
    merged.absorb ((contributions.foldl absorb .empty).toSchema base) =
      contributions.foldl absorb merged := by
  let inner := contributions.foldl absorb .empty
  have hproperties : (merged.absorb (inner.toSchema base)).properties =
      (contributions.foldl absorb merged).properties := by
    simp only [absorb, properties?_toSchema hbase, Option.getD_some]
    rw [properties_foldl_absorb, properties_foldl_absorb]
    exact Members.insertAll_insertAll _ _
  have hrequired : (merged.absorb (inner.toSchema base)).required =
      (contributions.foldl absorb merged).required := by
    simp only [absorb, requiredKeys_toSchema hbase]
    rw [required_foldl_absorb, required_foldl_absorb]
    exact unionKeys_unionKeys _ _
  have hadditional : (merged.absorb (inner.toSchema base)).additional =
      (contributions.foldl absorb merged).additional := by
    rw [additional_foldl_absorb, ← additional_toSchema hbase hown]
    rfl
  exact congr (congr (congrArg MergedObject.mk hproperties) hrequired) hadditional

end MergedObject

/-! ## Collecting the contributions -/

namespace Merge

open Json

variable {context : Context} {nested : NestedMerge} {pointer : String} {index : Nat}

/-- A merge that goes over the contributions of its node. -/
def Flat (document node merged : Json) : Prop :=
  ∃ own, Contributions document node own ∧ merged = mergedFrom own node

theorem absorb_mergedFrom {document node : Json} (hnode : node.KeysDistinct)
    {own : List Json} (hown : Contributions document node own) (merged : MergedObject) :
    merged.absorb (mergedFrom own node) = own.foldl MergedObject.absorb merged :=
  MergedObject.absorb_toSchema hnode.members merged (.inr hown.mem)

/-- A branch of alternatives becomes a schema without keywords of its own. -/
theorem absorb_reduced (branch reduced : Json) (merged : MergedObject) :
    merged.absorb (([reduced, branch].foldl MergedObject.absorb .empty).toSchema (.object [])) =
      [reduced, branch].foldl MergedObject.absorb merged := by
  apply MergedObject.absorb_toSchema
  · exact List.nodup_nil
  · exact .inl rfl

section

variable (hdocument : context.lookup.root.KeysDistinct)
  (hnested : ∀ node place merged, node.KeysDistinct → nested node place = .ok merged →
    Flat context.lookup.root node merged)
include hdocument hnested

/-- Alternatives are reduced in order. -/
theorem exists_alternativeSchemas {alternatives : List Json} {reduction result : Reduction}
    (halternatives : ∀ alternative ∈ alternatives, alternative.KeysDistinct)
    (hresult : reduceAlternatives context nested pointer index alternatives reduction =
      .ok result) :
    ∃ schemas, AlternativeSchemas context.lookup.root alternatives schemas ∧
      result = schemas.foldl Reduction.add reduction := by
  induction alternatives generalizing index reduction with
  | nil =>
      obtain rfl := Except.ok.inj hresult
      exact ⟨[], .nil, rfl⟩
  | cons alternative rest ih =>
      rw [List.forall_mem_cons] at halternatives
      rw [reduceAlternatives] at hresult
      obtain ⟨target, htarget, hresult⟩ := bind_eq_ok.mp hresult
      have hleads := leadsTo_of_dereference htarget
      dsimp only at hresult
      split at hresult
      · -- an alternative with branches is merged before it counts
        rename_i hallOf
        obtain ⟨schema, hschema, hresult⟩ := bind_eq_ok.mp hresult
        obtain ⟨own, hown, rfl⟩ :=
          hnested _ _ _ (hdocument.leadsTo halternatives.1 hleads) hschema
        obtain ⟨later, hlater, rfl⟩ := ih halternatives.2 hresult
        exact ⟨mergedFrom own target :: later, .merged hleads hallOf hown hlater, rfl⟩
      · rename_i hallOf
        obtain ⟨later, hlater, rfl⟩ := ih halternatives.2 hresult
        refine ⟨target :: later, .plain hleads ?_ hlater, rfl⟩
        exact Option.not_isSome_iff_eq_none.mp hallOf

/-- Absorbing the schema of a branch is absorbing what the branch contributes. -/
theorem exists_branchContributes {branch schema : Json} (hbranch : branch.KeysDistinct)
    (hschema : branchSchema context nested pointer index branch = .ok schema) :
    ∃ target own, LeadsTo context.lookup.root branch target ∧
      BranchContributes context.lookup.root target own ∧
      ∀ merged : MergedObject, merged.absorb schema = own.foldl MergedObject.absorb merged := by
  obtain ⟨target, htarget, hschema⟩ := bind_eq_ok.mp hschema
  have hleads := leadsTo_of_dereference htarget
  have hdistinct := hdocument.leadsTo hbranch hleads
  cases target with
  | bool value =>
      cases value with
      | true =>
          obtain rfl := pure_eq_ok.mp hschema
          exact ⟨.bool true, [.bool true], hleads, .alone rfl rfl, fun merged => rfl⟩
      | false => cases hschema
  | object members =>
      dsimp only at hschema
      split at hschema
      · rename_i hallOf
        obtain ⟨own, hown, rfl⟩ := hnested _ _ _ hdistinct hschema
        exact ⟨.object members, own, hleads, .nested hallOf hown, absorb_mergedFrom hdistinct hown⟩
      · rename_i hallOf
        have hallOf := Option.not_isSome_iff_eq_none.mp hallOf
        split at hschema
        · rename_i alternatives halternatives
          obtain ⟨reduction, hreduction, hschema⟩ := bind_eq_ok.mp hschema
          obtain rfl := pure_eq_ok.mp hschema
          obtain ⟨schemas, hschemas, rfl⟩ := exists_alternativeSchemas hdocument hnested
            (fun _ => hdistinct.of_mem_alternatives halternatives) hreduction
          refine ⟨_, _, hleads, .alternatives hallOf halternatives hschemas, fun merged => ?_⟩
          exact absorb_reduced (.object members) (reducedFrom schemas) merged
        · rename_i halternatives
          split at hschema
          · obtain rfl := pure_eq_ok.mp hschema
            exact ⟨_, _, hleads, .alone hallOf halternatives, fun merged => rfl⟩
          · cases hschema
  | null | number | string | array => cases hschema

theorem exists_branchesContribute {branches : List Json} {merged result : MergedObject}
    (hbranches : ∀ branch ∈ branches, branch.KeysDistinct)
    (hresult : mergeBranches context nested pointer index branches merged = .ok result) :
    ∃ own, BranchesContribute context.lookup.root branches own ∧
      result = own.foldl MergedObject.absorb merged := by
  induction branches generalizing index merged with
  | nil =>
      obtain rfl := Except.ok.inj hresult
      exact ⟨[], .nil, rfl⟩
  | cons branch rest ih =>
      rw [List.forall_mem_cons] at hbranches
      obtain ⟨schema, hschema, hresult⟩ := bind_eq_ok.mp hresult
      obtain ⟨target, own, hleads, hown, habsorb⟩ :=
        exists_branchContributes hdocument hnested hbranches.1 hschema
      obtain ⟨later, hlater, rfl⟩ := ih hbranches.2 hresult
      refine ⟨own ++ later, .cons hleads hown hlater, ?_⟩
      rw [List.foldl_append, habsorb]

end

/-- Induction over nested `allOf`s. -/
theorem flat_mergeLevels (hdocument : context.lookup.root.KeysDistinct) {levels : Nat}
    {node merged : Json} (hnode : node.KeysDistinct)
    (hmerged : mergeLevels context levels node pointer = .ok merged) :
    Flat context.lookup.root node merged := by
  induction levels generalizing node merged pointer with
  | zero => cases hmerged
  | succ levels ih =>
      obtain ⟨gathered, hgathered, hmerged⟩ := bind_eq_ok.mp hmerged
      obtain rfl := pure_eq_ok.mp hmerged
      obtain ⟨earlier, hearlier, rfl⟩ := exists_branchesContribute hdocument
        (fun _ _ _ hdistinct => ih hdistinct) (fun _ => hnode.of_mem_allOf) hgathered
      refine ⟨earlier ++ [node], .intro hearlier, ?_⟩
      rw [mergedFrom, List.foldl_append]
      rfl

end Merge

/-! ## The merged keywords -/

open Json

/-- The keywords of a schema that is merged from contributions in one pass. -/
structure FlatMerge (contributions : List Json) (merged : Json) : Prop where
  /-- Keys are in order of first appearance, and the last contribution that declares a key gives its
  schema. -/
  properties : ∃ properties, merged.get? "properties" = some (.object properties) ∧
    Members.keys properties =
      (contributions.flatMap fun schema =>
        Members.keys (schema.properties?.getD [])).eraseDups ∧
    ∀ key, Members.get? properties key =
      contributions.reverse.findSome? fun schema =>
        Members.get? (schema.properties?.getD []) key
  /-- Required keys are in order of first appearance, and the keyword is left out when there are
  none. -/
  required : merged.get? "required" =
    if contributions.flatMap requiredKeys = [] then none
    else some (MergedObject.keyArray (contributions.flatMap requiredKeys).eraseDups)
  /-- The first contribution that has the keyword gives its value. -/
  additional : merged.get? "additionalProperties" =
    contributions.findSome? fun schema => schema.get? "additionalProperties"

theorem flatMerge_mergedFrom {document node : Json} {own : List Json}
    (hdocument : document.KeysDistinct) (hnode : node.KeysDistinct)
    (hown : Contributions document node own) : FlatMerge own (mergedFrom own node) := by
  have hget := MergedObject.get?_toSchema (own.foldl MergedObject.absorb .empty) hnode.members
  have hrequired : (own.foldl MergedObject.absorb .empty).required =
      (own.flatMap requiredKeys).eraseDups := by
    rw [MergedObject.required_foldl_absorb]
    exact unionKeys_nil_eq_eraseDups _
  have hproperties : (own.foldl MergedObject.absorb .empty).properties =
      Members.insertAll [] (own.flatMap fun schema => schema.properties?.getD []) :=
    MergedObject.properties_foldl_absorb own .empty
  refine ⟨⟨_, hget "properties", ?_, fun key => ?_⟩, ?_, ?_⟩
  · rw [hproperties, Members.keys_insertAll, Members.keys_nil, unionKeys_nil_eq_eraseDups]
    simp only [Members.keys, List.map_flatMap]
  · rw [hproperties, Members.get?_insertAll, Members.get?_nil, Option.or_none]
    exact Members.get?_reverse_flatMap (hown.nodup_keys hdocument hnode) key
  · refine (hget "required").trans ?_
    rw [if_neg (by decide), if_pos rfl, hrequired]
    cases hkeys : own.flatMap requiredKeys with
    | nil => rfl
    | cons key rest => rw [List.eraseDups_cons, if_neg (List.cons_ne_nil _ _), if_neg (by simp)]
  · exact MergedObject.additional_toSchema hnode.members (.inr hown.mem)

/-- **Merging is one fold.**  The schemas that a node consists of make up one list, and the merged
schema is what one pass over that list gives, however deeply `allOf`s are nested. -/
theorem mergeAllOf_flat {context : Context} {node merged : Json} {pointer : String}
    (hdocument : context.lookup.root.KeysDistinct) (hnode : node.KeysDistinct)
    (hmerged : mergeAllOf context node pointer = .ok merged) :
    ∃ contributions,
      (∀ own, Contributions context.lookup.root node own ↔ own = contributions) ∧
        merged = mergedFrom contributions node ∧ FlatMerge contributions merged := by
  obtain ⟨own, hown, rfl⟩ := Merge.flat_mergeLevels hdocument hnode hmerged
  refine ⟨own, fun other => ⟨fun hother => hown.unique hother, ?_⟩, rfl, ?_⟩
  · rintro rfl
    exact hown
  · exact flatMerge_mergedFrom hdocument hnode hown

namespace Merge

/-- A definition with a branch of its own. -/
def layeredContext : Context where
  options := {}
  lookup := {
    root := .object [("definitions", .object [("base", .object [
      ("allOf", .array [withProperty "a" (typed "string")]),
      ("required", .array [.string "a"])])])]
    rootPath := ⟨[], "Root"⟩
    definitions := []
    external := []
    cyclic := [] }

/-- A node that goes on from the definition, with alternatives and a property of its own. -/
def layered : Json :=
  .object [
    ("allOf", .array [
      .object [("$ref", .string "#/definitions/base")],
      .object [("oneOf", .array [withProperty "b" (typed "integer")])]]),
    ("properties", .object [("a", typed "integer")])]

/-- What the layered node is merged to. -/
def layeredMerged : Json :=
  .object [
    ("properties", .object [("a", typed "integer"), ("b", typed "integer")]),
    ("type", .string "object"),
    ("required", .array [.string "a"])]

end Merge

/-- The definition, its branch and the alternatives all contribute. -/
theorem flatMerge_layered :
    mergeAllOf Merge.layeredContext Merge.layered "#" = .ok Merge.layeredMerged ∧
      ∃ contributions,
        (∀ own, Contributions Merge.layeredContext.lookup.root Merge.layered own ↔
          own = contributions) ∧
        Merge.layeredMerged = mergedFrom contributions Merge.layered ∧
        FlatMerge contributions Merge.layeredMerged := by
  have hmerged : mergeAllOf Merge.layeredContext Merge.layered "#" = .ok Merge.layeredMerged := rfl
  have hdocument : Merge.layeredContext.lookup.root.KeysDistinct := by
    simp [Merge.layeredContext, Merge.withProperty, Merge.typed]
  have hnode : Merge.layered.KeysDistinct := by
    simp [Merge.layered, Merge.withProperty, Merge.typed]
  exact ⟨hmerged, mergeAllOf_flat hdocument hnode hmerged⟩

end SchemaTypes
