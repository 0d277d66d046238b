import SchemaTypes.Proofs.Json.Distinct
import SchemaTypes.Proofs.Schema.Tracing

/-!
# What a merge consists of

A node with `allOf` is made of many schemas: its branches, the branches of those, and itself.  This
file lists them in order, with references followed and nothing merged but alternatives.

* `Json.Contributions`: the schemas of a node, in order.
* `Json.Contributions.unique`: there is one such list.
* `Json.Contributions.nodup_keys`: no schema in it declares a property twice.
-/

namespace SchemaTypes

open Outcome

namespace Json

/-! ## Parts with distinct keys -/

namespace KeysDistinct

variable {document node target : Json}

/-- The members of a node have distinct keys. -/
theorem members (hnode : node.KeysDistinct) :
    (Members.keys (node.members?.getD [])).Nodup := by
  cases node with
  | object members => exact hnode members .refl
  | null | bool | number | string | array => exact List.nodup_nil

theorem of_carries (hnode : node.KeysDistinct) {keyword : String} {part : Json}
    (hpart : node.Carries keyword part) : part.KeysDistinct :=
  hnode.within hpart.within

/-- So have its properties. -/
theorem properties (hnode : node.KeysDistinct) :
    (Members.keys (node.properties?.getD [])).Nodup := by
  cases hproperties : node.properties? with
  | none => exact List.nodup_nil
  | some properties => exact (hnode.of_carries (carries_of_members? hproperties)).members

theorem of_mem_allOf (hnode : node.KeysDistinct) {branch : Json}
    (hbranch : branch ∈ node.allOf?.getD []) : branch.KeysDistinct := by
  cases hbranches : node.allOf? with
  | none => simp [hbranches] at hbranch
  | some branches =>
      rw [hbranches, Option.getD_some] at hbranch
      exact array.mp (hnode.of_carries (carries_of_items? hbranches)) branch hbranch

theorem of_mem_alternatives (hnode : node.KeysDistinct) {alternatives : List Json}
    (halternatives : node.alternatives? = some alternatives) {alternative : Json}
    (halternative : alternative ∈ alternatives) : alternative.KeysDistinct := by
  rcases Option.or_eq_some_iff.mp halternatives with hone | ⟨-, hany⟩
  · exact array.mp (hnode.of_carries (carries_of_items? hone)) alternative halternative
  · exact array.mp (hnode.of_carries (carries_of_items? hany)) alternative halternative

theorem leadsTo (hdocument : document.KeysDistinct) (hnode : node.KeysDistinct)
    (htarget : LeadsTo document node target) : target.KeysDistinct := by
  induction htarget with
  | here => exact hnode
  | step _ hnext _ ih => exact ih (hdocument.within (within_of_referenced? hnext))

end KeysDistinct

/-- A chain of references has one end. -/
theorem LeadsTo.unique {document node target other : Json} (htarget : LeadsTo document node target)
    (hother : LeadsTo document node other) : other = target := by
  induction htarget with
  | here hnode =>
      cases hother with
      | here => rfl
      | step hreference => rw [hnode] at hreference; cases hreference
  | step hreference hnext _ ih =>
      cases hother with
      | here hnode => rw [hnode] at hreference; cases hreference
      | step hreference' hnext' hother =>
          rw [hreference] at hreference'
          obtain rfl := Option.some.inj hreference'
          rw [hnext] at hnext'
          obtain rfl := Option.some.inj hnext'
          exact ih hother

/-! ## Contributions -/

/-- The schema that a node with the given contributions is merged into. -/
def mergedFrom (contributions : List Json) (node : Json) : Json :=
  (contributions.foldl MergedObject.absorb .empty).toSchema node

/-- What alternatives have in common, as one schema. -/
def reducedFrom (alternatives : List Json) : Json :=
  (alternatives.foldl Merge.Reduction.add {}).toSchema

mutual

/-- The schemas that the merge of a node consists of, in order: what its branches contribute, and
then the node itself. -/
inductive Contributions (document : Json) : (node : Json) → List Json → Prop
  | intro {node earlier} (hbranches : BranchesContribute document ((allOf? node).getD []) earlier) :
      Contributions document node (earlier ++ [node])

/-- What a list of branches contributes, references followed. -/
inductive BranchesContribute (document : Json) : (branches : List Json) → List Json → Prop
  | nil : BranchesContribute document [] []
  | cons {branch target rest own later} (htarget : LeadsTo document branch target)
      (hown : BranchContributes document target own)
      (hlater : BranchesContribute document rest later) :
      BranchesContribute document (branch :: rest) (own ++ later)

/-- A branch with branches of its own contributes what its merge consists of, a branch of
alternatives what they have in common and then itself, and any other branch just itself. -/
inductive BranchContributes (document : Json) : (branch : Json) → List Json → Prop
  | nested {branch own} (hallOf : (allOf? branch).isSome)
      (hown : Contributions document branch own) : BranchContributes document branch own
  | alternatives {branch alternatives schemas} (hallOf : allOf? branch = none)
      (halternatives : alternatives? branch = some alternatives)
      (hschemas : AlternativeSchemas document alternatives schemas) :
      BranchContributes document branch [reducedFrom schemas, branch]
  | alone {branch} (hallOf : allOf? branch = none) (halternatives : alternatives? branch = none) :
      BranchContributes document branch [branch]

/-- The schemas that alternatives stand for, references followed and branches merged. -/
inductive AlternativeSchemas (document : Json) : (alternatives : List Json) → List Json → Prop
  | nil : AlternativeSchemas document [] []
  | merged {alternative target rest own later} (htarget : LeadsTo document alternative target)
      (hallOf : (allOf? target).isSome) (hown : Contributions document target own)
      (hlater : AlternativeSchemas document rest later) :
      AlternativeSchemas document (alternative :: rest) (mergedFrom own target :: later)
  | plain {alternative target rest later} (htarget : LeadsTo document alternative target)
      (hallOf : allOf? target = none) (hlater : AlternativeSchemas document rest later) :
      AlternativeSchemas document (alternative :: rest) (target :: later)

end

variable {document : Json}

/-- The node itself comes last. -/
theorem Contributions.mem {node : Json} {own : List Json}
    (hown : Contributions document node own) : node ∈ own := by
  cases hown with
  | intro => exact List.mem_append_right _ (List.mem_singleton_self node)

mutual

/-- A node has one list of contributions. -/
theorem Contributions.unique {node : Json} : ∀ {own other : List Json},
    Contributions document node own → Contributions document node other → other = own
  | _, _, .intro hbranches, .intro hbranches' => by
      rw [BranchesContribute.unique hbranches hbranches']
termination_by structural _ _ hown => hown

theorem BranchesContribute.unique : ∀ {branches own other : List Json},
    BranchesContribute document branches own → BranchesContribute document branches other →
      other = own
  | [], _, _, .nil, .nil => rfl
  | _ :: _, _, _, .cons htarget hown hlater, .cons htarget' hown' hlater' => by
      obtain rfl := htarget'.unique htarget
      rw [BranchContributes.unique hown hown', BranchesContribute.unique hlater hlater']
termination_by structural _ _ _ hown => hown

theorem BranchContributes.unique {branch : Json} : ∀ {own other : List Json},
    BranchContributes document branch own → BranchContributes document branch other → other = own
  | _, _, .nested _ hown, .nested _ hown' => Contributions.unique hown hown'
  | _, _, .alternatives _ halternatives hschemas, .alternatives _ halternatives' hschemas' => by
      rw [halternatives] at halternatives'
      obtain rfl := Option.some.inj halternatives'
      rw [AlternativeSchemas.unique hschemas hschemas']
  | _, _, .alone _ _, .alone _ _ => rfl
  -- the kinds of branches exclude one another
  | _, _, .nested hallOf _, .alternatives hnone _ _ | _, _, .nested hallOf _, .alone hnone _
  | _, _, .alternatives hnone _ _, .nested hallOf _ | _, _, .alone hnone _, .nested hallOf _ => by
      simp [hnone] at hallOf
  | _, _, .alternatives _ hsome _, .alone _ hnone
  | _, _, .alone _ hnone, .alternatives _ hsome _ => by
      simp [hnone] at hsome
termination_by structural _ _ hown => hown

theorem AlternativeSchemas.unique : ∀ {alternatives own other : List Json},
    AlternativeSchemas document alternatives own → AlternativeSchemas document alternatives other →
      other = own
  | [], _, _, .nil, .nil => rfl
  | _ :: _, _, _, .merged htarget _ hown hlater, .merged htarget' _ hown' hlater' => by
      obtain rfl := htarget'.unique htarget
      rw [Contributions.unique hown hown', AlternativeSchemas.unique hlater hlater']
  | _ :: _, _, _, .plain htarget _ hlater, .plain htarget' _ hlater' => by
      obtain rfl := htarget'.unique htarget
      rw [AlternativeSchemas.unique hlater hlater']
  | _ :: _, _, _, .merged htarget hallOf _ _, .plain htarget' hnone _
  | _ :: _, _, _, .plain htarget hnone _, .merged htarget' hallOf _ _ => by
      obtain rfl := htarget'.unique htarget
      simp [hnone] at hallOf
termination_by structural _ _ _ hown => hown

end

/-! ## Distinct keys of contributions -/

theorem nodup_keys_reducedFrom (alternatives : List Json) :
    (Members.keys ((reducedFrom alternatives).properties?.getD [])).Nodup := by
  -- only the fields of the reduction count, so it is generalized over the loop
  suffices hall : ∀ (alternatives : List Json) (reduction : Merge.Reduction),
      (Members.keys reduction.properties).Nodup →
        (Members.keys (alternatives.foldl Merge.Reduction.add reduction).properties).Nodup from
    hall alternatives {} List.nodup_nil
  intro alternatives
  induction alternatives with
  | nil => exact fun _ hreduction => hreduction
  | cons alternative rest ih =>
      intro reduction hreduction
      apply ih
      exact Members.nodup_keys_foldl_insertNew hreduction _

mutual

/-- No contribution declares a property twice. -/
theorem Contributions.nodup_keys {document node : Json} (hdocument : document.KeysDistinct)
    (hnode : node.KeysDistinct) : ∀ {own : List Json}, Contributions document node own →
      ∀ schema ∈ own, (Members.keys (schema.properties?.getD [])).Nodup
  | _, .intro hbranches, schema, hschema => by
      rcases List.mem_append.mp hschema with hearlier | hlast
      · exact BranchesContribute.nodup_keys hdocument (fun _ => hnode.of_mem_allOf) hbranches schema
          hearlier
      · obtain rfl := List.mem_singleton.mp hlast
        exact hnode.properties
termination_by structural _ hown => hown

theorem BranchesContribute.nodup_keys {document : Json} (hdocument : document.KeysDistinct) :
    ∀ {branches own : List Json}, (∀ branch ∈ branches, branch.KeysDistinct) →
      BranchesContribute document branches own →
      ∀ schema ∈ own, (Members.keys (schema.properties?.getD [])).Nodup
  | [], _, _, .nil, _, hschema => nomatch hschema
  | _ :: _, _, hbranches, .cons htarget hown hlater, schema, hschema => by
      rw [List.forall_mem_cons] at hbranches
      rcases List.mem_append.mp hschema with hfirst | hschema
      · have hfirstDistinct := hdocument.leadsTo hbranches.1 htarget
        exact BranchContributes.nodup_keys hdocument hfirstDistinct hown schema hfirst
      · exact BranchesContribute.nodup_keys hdocument hbranches.2 hlater schema hschema
termination_by structural _ _ _ hown => hown

theorem BranchContributes.nodup_keys {document branch : Json} (hdocument : document.KeysDistinct)
    (hbranch : branch.KeysDistinct) : ∀ {own : List Json}, BranchContributes document branch own →
      ∀ schema ∈ own, (Members.keys (schema.properties?.getD [])).Nodup
  | _, .nested _ hown, schema, hschema =>
      Contributions.nodup_keys hdocument hbranch hown schema hschema
  | _, .alternatives _ _ _, schema, hschema => by
      rcases List.mem_pair.mp hschema with rfl | rfl
      · exact nodup_keys_reducedFrom _
      · exact hbranch.properties
  | _, .alone _ _, schema, hschema => by
      obtain rfl := List.mem_singleton.mp hschema
      exact hbranch.properties
termination_by structural _ hown => hown

end

end Json

end SchemaTypes
