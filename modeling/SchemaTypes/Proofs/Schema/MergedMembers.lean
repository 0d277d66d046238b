import SchemaTypes.Proofs.Json.Members
import SchemaTypes.Schema.Merge

/-!
# The members of a merged schema

What has been merged is written over the members of a base: `type` and `properties` first, then
`required`, and `additionalProperties` last.  Each stage has a name here, and facts about merged
schemas are shown for one stage after the other.

* `MergedObject.toSchema_eq`: a merged schema has the members of the last stage.
* `MergedObject.mem_described`, `MergedObject.mem_bounded`, `MergedObject.mem_written`: the members
  that each stage adds.
-/

namespace SchemaTypes

namespace MergedObject

variable {merged : MergedObject} {members : Members} {entry : String × Json} {key : String}

/-- The members of a merged schema, except for those that are set last. -/
def described (merged : MergedObject) (members : Members) : Members :=
  Members.insert (Members.insert (Members.erase members "allOf") "type" (.string "object"))
    "properties" (.object merged.properties)

/-- The members with the required keys, which are left out when there are none. -/
def bounded (merged : MergedObject) (members : Members) : Members :=
  if merged.required.isEmpty then Members.erase (merged.described members) "required"
  else Members.insert (merged.described members) "required" (keyArray merged.required)

/-- All members of a merged schema. -/
def written (merged : MergedObject) (members : Members) : Members :=
  match merged.additional with
  | some additional => Members.insert (merged.bounded members) "additionalProperties" additional
  | none => merged.bounded members

theorem toSchema_eq (merged : MergedObject) (base : Json) :
    merged.toSchema base = .object (merged.written (base.members?.getD [])) := by
  unfold toSchema written
  cases merged.additional <;> rfl

theorem get?_toSchema_eq (merged : MergedObject) (base : Json) (key : String) :
    (merged.toSchema base).get? key =
      Members.get? (merged.written (base.members?.getD [])) key := by
  rw [toSchema_eq]
  rfl

theorem mem_described (hentry : entry ∈ merged.described members) :
    entry ∈ members ∨ entry = ("type", .string "object") ∨
      entry = ("properties", .object merged.properties) := by
  rcases Members.mem_of_mem_insert hentry with hentry | hentry
  · exact (Members.mem_of_mem_insert hentry).imp Members.mem_of_mem_erase .inl
  · exact .inr (.inr hentry)

theorem mem_bounded (hentry : entry ∈ merged.bounded members) :
    entry ∈ merged.described members ∨ entry = ("required", keyArray merged.required) := by
  unfold bounded at hentry
  split at hentry
  · exact .inl (Members.mem_of_mem_erase hentry)
  · exact Members.mem_of_mem_insert hentry

theorem mem_written (hentry : entry ∈ merged.written members) :
    entry ∈ merged.bounded members ∨ entry.1 = "additionalProperties" := by
  unfold written at hentry
  split at hentry
  · exact (Members.mem_of_mem_insert hentry).imp_right (congrArg Prod.fst)
  · exact .inl hentry

theorem get?_written_of_ne (hkey : key ≠ "additionalProperties") :
    Members.get? (merged.written members) key = Members.get? (merged.bounded members) key := by
  unfold written
  split
  · rw [Members.get?_insert, if_neg hkey]
  · rfl

end MergedObject

end SchemaTypes
