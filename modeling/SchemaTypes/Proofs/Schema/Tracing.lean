import SchemaTypes.Proofs.Schema.Definition
import SchemaTypes.Proofs.Schema.Merging
import SchemaTypes.Proofs.Schema.Reachability

/-!
# References that the graph sees

The graph of references is drawn from the text of the root and of the definitions.  It leaves out
what lies under keys that are spelled like a keyword of definitions, and it does not know nodes
that are neither the root nor a definition.  This file tells when it nevertheless covers what
resolution and merging come across.

* `referenceGraph_spec`: the edges of the graph.
* `Traced`: documents in which no reference escapes the graph.
* `Good`: a node whose references are all reached from an owner.
* `Covered.contributes`: merging keeps to such nodes.
-/

namespace SchemaTypes

open ReferenceGraph Json

/-! ## Edges of the graph -/

/-- The root and the definitions, by their pointers. -/
def owners (document : Json) (definitions : List Definition) : List (String × Json) :=
  (Pointer.root, document) :: definitions.map fun definition =>
    (definition.pointer, definition.schema)

namespace ReferenceGraph

variable {graph : ReferenceGraph}

theorem mem_addNode {node other : String} :
    other ∈ (graph.addNode node).nodes ↔ other ∈ graph.nodes ∨ other = node := by
  unfold addNode
  split
  · rename_i hnode
    have hmember : node ∈ graph.nodes := by simpa using hnode
    exact ⟨.inl, fun hother => hother.elim id fun hsame => hsame ▸ hmember⟩
  · simp

theorem refers_addNode {node source target : String} :
    (graph.addNode node).Refers source target ↔ graph.Refers source target := by
  unfold addNode Refers
  split <;> rfl

theorem EndsAtNodes.addNode (hends : graph.EndsAtNodes) (node : String) :
    (graph.addNode node).EndsAtNodes := by
  intro source target hedge
  obtain ⟨hsource, htarget⟩ := hends source target (refers_addNode.mp hedge)
  exact ⟨mem_addNode.mpr (.inl hsource), mem_addNode.mpr (.inl htarget)⟩

theorem refers_addEdge {node own source target : String} :
    (graph.addEdge node own).Refers source target ↔
      graph.Refers source target ∨ source = node ∧ target = own := by
  have hedges : (graph.addEdge node own).edges = (graph.addNode own).edges ++ [(node, own)] := rfl
  rw [Refers, hedges, List.mem_append, List.mem_singleton, Prod.mk.injEq]
  exact or_congr_left refers_addNode

theorem EndsAtNodes.addEdge (hends : graph.EndsAtNodes) {node : String}
    (hnode : node ∈ graph.nodes) (own : String) : (graph.addEdge node own).EndsAtNodes := by
  intro source target hedge
  rcases refers_addEdge.mp hedge with hearlier | ⟨rfl, rfl⟩
  · exact hends.addNode own source target (refers_addNode.mpr hearlier)
  · exact ⟨mem_addNode.mpr (.inl hnode), mem_addNode.mpr (.inr rfl)⟩

/-- The loop over the targets of an owner, from a graph that has the owner already. -/
theorem foldl_addEdge_spec (hends : graph.EndsAtNodes) {owner : String}
    (howner : owner ∈ graph.nodes) (targets : List String) :
    (targets.foldl (fun graph target => graph.addEdge owner target) graph).EndsAtNodes ∧
      ∀ source target,
        (targets.foldl (fun graph target => graph.addEdge owner target) graph).Refers source
            target ↔
          graph.Refers source target ∨ source = owner ∧ target ∈ targets := by
  -- the graph grows along the loop, so it is generalized
  induction targets generalizing graph with
  | nil => exact ⟨hends, by simp⟩
  | cons own rest ih =>
      obtain ⟨hlater, hedges⟩ := ih (hends.addEdge howner own) (mem_addNode.mpr (.inl howner))
      refine ⟨hlater, fun source target => (hedges source target).trans ?_⟩
      rw [refers_addEdge, List.mem_cons]
      tauto

/-- An owner adds an edge to each of its targets. -/
theorem addOwner_spec (hends : graph.EndsAtNodes) (owner : String) (targets : List String) :
    (graph.addOwner owner targets).EndsAtNodes ∧ ∀ source target,
      (graph.addOwner owner targets).Refers source target ↔
        graph.Refers source target ∨ source = owner ∧ target ∈ targets := by
  obtain ⟨hlater, hedges⟩ :=
    foldl_addEdge_spec (hends.addNode owner) (mem_addNode.mpr (.inr rfl)) targets
  refine ⟨hlater, fun source target => (hedges source target).trans ?_⟩
  rw [refers_addNode]

end ReferenceGraph

theorem mem_referenceSet {schema : Json} {reference : String} :
    reference ∈ referenceSet schema ↔ reference ∈ localReferences schema := by
  rw [referenceSet, sortTexts, List.mem_mergeSort, List.mem_eraseDups]

/-- The loop over the owners. -/
theorem foldl_addOwner_spec {graph : ReferenceGraph} (hends : graph.EndsAtNodes)
    (owners : List (String × Json)) :
    (owners.foldl (fun graph owner => graph.addOwner owner.1 (referenceSet owner.2))
        graph).EndsAtNodes ∧
      ∀ source target,
        (owners.foldl (fun graph owner => graph.addOwner owner.1 (referenceSet owner.2))
            graph).Refers source target ↔
          graph.Refers source target ∨
            ∃ schema, (source, schema) ∈ owners ∧ target ∈ localReferences schema := by
  induction owners generalizing graph with
  | nil => exact ⟨hends, by simp⟩
  | cons owner rest ih =>
      obtain ⟨hown, hownEdges⟩ := addOwner_spec hends owner.1 (referenceSet owner.2)
      obtain ⟨hlater, hedges⟩ := ih hown
      refine ⟨hlater, fun source target => (hedges source target).trans ?_⟩
      rw [hownEdges, mem_referenceSet]
      simp only [List.mem_cons, or_and_right, exists_or, or_assoc]
      refine or_congr_right (or_congr_left ⟨?_, ?_⟩)
      · rintro ⟨rfl, htarget⟩
        exact ⟨owner.2, rfl, htarget⟩
      · rintro ⟨schema, hsame, htarget⟩
        obtain ⟨rfl, rfl⟩ := Prod.mk.inj hsame
        exact ⟨rfl, htarget⟩

/-- **The graph of references** has an edge for each reference inside an owner. -/
theorem referenceGraph_spec (document : Json) (definitions : List Definition) :
    (referenceGraph document definitions).EndsAtNodes ∧ ∀ source target,
      (referenceGraph document definitions).Refers source target ↔
        ∃ schema, (source, schema) ∈ owners document definitions ∧
          target ∈ localReferences schema := by
  have hempty : ReferenceGraph.empty.EndsAtNodes := fun _ _ hedge => nomatch hedge
  obtain ⟨hends, hedges⟩ := foldl_addOwner_spec hempty
    ((owners document definitions).mergeSort fun a b => decide (a.1 ≤ b.1))
  refine ⟨hends, fun source target => (hedges source target).trans ?_⟩
  simp [Refers, ReferenceGraph.empty, List.mem_mergeSort]

/-! ## References inside a node -/

theorem localReferences_of_member {members : Members} {key : String} {child : Json}
    (hmember : (key, child) ∈ members) (hkey : key ∉ Definition.keywords) :
    localReferences child ⊆ localReferences (.object members) := by
  rw [localReferences]
  refine List.Subset.trans ?_ (List.subset_append_right _ _)
  induction members with
  | nil => cases hmember
  | cons entry rest ih =>
      obtain ⟨own, value⟩ := entry
      rw [memberReferences]
      rcases List.mem_cons.mp hmember with hsame | hlater
      · obtain ⟨rfl, rfl⟩ := Prod.mk.inj hsame
        rw [if_neg (by simpa using hkey)]
        exact List.subset_append_left _ _
      · split
        · exact ih hlater
        · exact List.Subset.trans (ih hlater) (List.subset_append_right _ _)

theorem localReferences_of_item {items : List Json} {item : Json} (hitem : item ∈ items) :
    localReferences item ⊆ localReferences (.array items) := by
  rw [localReferences]
  induction items with
  | nil => cases hitem
  | cons own rest ih =>
      rw [itemReferences]
      rcases List.mem_cons.mp hitem with rfl | hlater
      · exact List.subset_append_left _ _
      · exact List.Subset.trans (ih hlater) (List.subset_append_right _ _)

theorem mem_localReferences {node : Json} {reference : String}
    (hreference : node.reference? = some reference) (hlocal : isLocalReference reference) :
    reference ∈ localReferences node := by
  cases node with
  | object members =>
      rw [localReferences, hreference]
      simp [hlocal]
  | null | bool | number | string | array => simp [reference?, get?, members?] at hreference

/-- What a reference that leads somewhere looks like. -/
theorem isLocalReference_of_referenced? {document node : Json} {reference : String}
    (hnode : document.referenced? reference = some node) : isLocalReference reference := by
  obtain ⟨text, htext, hnode⟩ := Option.bind_eq_some_iff.mp hnode
  unfold Text.dropStart? at htext
  split at htext
  · rename_i hstart
    obtain ⟨rest, hrest⟩ := List.isPrefixOf_iff_prefix.mp hstart
    obtain rfl := Option.some.inj htext
    obtain ⟨keys, hkeys, -⟩ := Option.bind_eq_some_iff.mp hnode
    have htext : reference.toList = '#' :: rest := hrest.symm
    have hdrop : reference.toList.drop Pointer.root.length = rest := by
      rw [htext]
      rfl
    rw [hdrop, Pointer.keys?, String.toList_ofList] at hkeys
    rw [isLocalReference, Bool.or_eq_true, beq_iff_eq]
    -- a pointer is empty, or starts with a slash
    cases rest with
    | nil =>
        left
        exact String.toList_injective htext
    | cons c more =>
        right
        obtain rfl : c = '/' := by
          by_contra hother
          simp [hother] at hkeys
        exact List.isPrefixOf_iff_prefix.mpr ⟨more, htext.symm⟩
  · cases htext

namespace Json

theorem within_of_child? {node child : Json} {key : String}
    (hchild : node.child? key = some child) :
    child.Within node := by
  unfold child? at hchild
  split at hchild
  · exact .member (Members.mem_of_get? hchild) .refl
  · obtain ⟨index, -, hitem⟩ := Option.bind_eq_some_iff.mp hchild
    exact .item (List.mem_of_getElem? hitem) .refl
  · cases hchild

theorem within_of_at? {node target : Json} {keys : List String}
    (htarget : node.at? keys = some target) : target.Within node := by
  induction keys generalizing node with
  | nil =>
      obtain rfl := Option.some.inj htarget
      exact .refl
  | cons key rest ih =>
      obtain ⟨child, hchild, htarget⟩ := Option.bind_eq_some_iff.mp htarget
      exact (ih htarget).trans (within_of_child? hchild)

/-- References lead to nodes of the document. -/
theorem within_of_referenced? {document node : Json} {reference : String}
    (hnode : document.referenced? reference = some node) : node.Within document := by
  obtain ⟨text, -, hnode⟩ := Option.bind_eq_some_iff.mp hnode
  obtain ⟨keys, -, hnode⟩ := Option.bind_eq_some_iff.mp hnode
  exact within_of_at? hnode

theorem Carries.exists_object {node part : Json} {keyword : String}
    (hpart : node.Carries keyword part) :
    ∃ members, node = .object members ∧ (keyword, part) ∈ members := by
  cases node with
  | object members => exact ⟨members, rfl, hpart⟩
  | null | bool | number | string | array => cases hpart

theorem Carries.within {node part : Json} {keyword : String} (hpart : node.Carries keyword part) :
    part.Within node := by
  obtain ⟨members, rfl, hmember⟩ := hpart.exists_object
  exact .member hmember .refl

end Json

/-! ## Traced documents -/

/-- Keywords that hold lists of schemas, all of which apply to the value itself. -/
def combining : List String := ["allOf", "oneOf", "anyOf"]

section

variable (document : Json) (definitions : List Definition)

/-- The reference of a node, if it leads anywhere, leads to the root or to a definition. -/
def NamesOwner (node : Json) : Prop :=
  ∀ reference target, node.reference? = some reference →
    document.referenced? reference = some target →
      (reference, target) ∈ owners document definitions

/-- Inside a node, no property and no pattern is spelled like a keyword of definitions, and
references in combined schemas lead to the root or to definitions. -/
structure Plain (node : Json) : Prop where
  keys : ∀ inner : Json, inner.Within node → ∀ keyword ∈ ["properties", "patternProperties"],
    ∀ entries, inner.Carries keyword (.object entries) →
      ∀ entry ∈ entries, entry.1 ∉ Definition.keywords
  combined : ∀ inner : Json, inner.Within node → ∀ keyword ∈ combining,
    ∀ items, inner.Carries keyword (.array items) →
      ∀ item ∈ items, NamesOwner document definitions item

/-- No reference of the document escapes the graph. -/
structure Traced : Prop where
  plain : Plain document definitions document
  named : ∀ owner ∈ owners document definitions, NamesOwner document definitions owner.2

/-- All references inside a node are reached from an owner. -/
structure Good (owner : String) (node : Json) : Prop where
  plain : Plain document definitions node
  reached : ∀ reference ∈ localReferences node,
    Relation.TransGen (referenceGraph document definitions).Refers owner reference

/-- The properties of a schema, and the schemas that it combines, are good. -/
structure Covered (owner : String) (schema : Json) : Prop where
  properties : ∀ entry, schema.Declares entry → Good document definitions owner entry.2
  combined : ∀ keyword ∈ combining, ∀ items, schema.Carries keyword (.array items) →
    ∀ item ∈ items, Good document definitions owner item ∧ NamesOwner document definitions item

end

variable {document : Json} {definitions : List Definition} {owner : String} {node : Json}

theorem Plain.mono {inner : Json} (hplain : Plain document definitions node)
    (hwithin : inner.Within node) : Plain document definitions inner where
  keys own hown := hplain.keys own (hown.trans hwithin)
  combined own hown := hplain.combined own (hown.trans hwithin)

namespace Good

theorem of_carries (hnode : Good document definitions owner node) {keyword : String} {part : Json}
    (hpart : node.Carries keyword part) (hkeyword : keyword ∉ Definition.keywords) :
    Good document definitions owner part := by
  refine ⟨hnode.plain.mono hpart.within, fun reference hreference => ?_⟩
  obtain ⟨members, rfl, hmember⟩ := hpart.exists_object
  exact hnode.reached reference (localReferences_of_member hmember hkeyword hreference)

theorem of_item {items : List Json} (hitems : Good document definitions owner (.array items))
    {item : Json} (hitem : item ∈ items) : Good document definitions owner item where
  plain := hitems.plain.mono (.item hitem .refl)
  reached reference hreference :=
    hitems.reached reference (localReferences_of_item hitem hreference)

/-- Properties and patterns of a good node are good. -/
theorem of_entry (hnode : Good document definitions owner node) {keyword : String}
    (hkeyword : keyword ∈ ["properties", "patternProperties"]) {entries : Members}
    (hentries : node.Carries keyword (.object entries)) {entry : String × Json}
    (hentry : entry ∈ entries) : Good document definitions owner entry.2 := by
  have hkeys := hnode.plain.keys node .refl keyword hkeyword entries hentries entry hentry
  have hpart : Good document definitions owner (.object entries) := by
    refine hnode.of_carries hentries ?_
    rcases List.mem_pair.mp hkeyword with rfl | rfl <;> decide
  have hown : (Json.object entries).Carries entry.1 entry.2 := hentry
  exact hpart.of_carries hown hkeys

theorem covered (hnode : Good document definitions owner node) :
    Covered document definitions owner node where
  properties := by
    rintro entry ⟨entries, hentries, hentry⟩
    exact hnode.of_entry List.mem_cons_self hentries hentry
  combined := by
    intro keyword hkeyword items hitems item hitem
    refine ⟨?_, hnode.plain.combined node .refl keyword hkeyword items hitems item hitem⟩
    refine (hnode.of_carries hitems ?_).of_item hitem
    simp only [combining, List.mem_cons, List.not_mem_nil, or_false] at hkeyword
    rcases hkeyword with rfl | rfl | rfl <;> decide

/-- The schema of a collection, an alternative or a pattern of a good node is good. -/
theorem of_get? (hnode : Good document definitions owner node) {keyword : String} {part : Json}
    (hpart : node.get? keyword = some part) (hkeyword : keyword ∉ Definition.keywords) :
    Good document definitions owner part :=
  hnode.of_carries (carries_of_get? hpart) hkeyword

theorem anything : Good document definitions owner (.object []) := by
  have hinner : ∀ {inner : Json}, inner.Within (.object []) → inner = .object [] := by
    intro inner hwithin
    cases hwithin with
    | refl => rfl
    | member hmember => cases hmember
  refine ⟨⟨?_, ?_⟩, fun reference hreference => ?_⟩
  · intro inner hwithin keyword _ entries hentries
    rw [hinner hwithin] at hentries
    cases hentries
  · intro inner hwithin keyword _ items hitems
    rw [hinner hwithin] at hitems
    cases hitems
  · simp [localReferences, memberReferences, reference?, get?, members?] at hreference

theorem of_collection? (hnode : Good document definitions owner node) {container : Container}
    {items : Json} (hitems : node.collection? = some (container, items)) :
    Good document definitions owner items := by
  unfold collection? at hitems
  split at hitems
  · obtain ⟨-, rfl⟩ := Prod.mk.inj (Option.some.inj hitems)
    unfold listItems
    cases hheld : (node.get? "items").filter isObject with
    | none => exact anything
    | some part => exact hnode.of_get? (Option.filter_eq_some_iff.mp hheld).1 (by decide)
  · split at hitems
    · obtain ⟨part, hpart, hsame⟩ := Option.map_eq_some_iff.mp hitems
      obtain ⟨-, rfl⟩ := Prod.mk.inj hsame
      exact hnode.of_get? (Option.filter_eq_some_iff.mp hpart).1 (by decide)
    · cases hitems

end Good

theorem Covered.of_alternatives? {schema : Json}
    (hschema : Covered document definitions owner schema)
    {alternative : Json} (halternative : alternative ∈ schema.alternatives?.getD []) :
    Good document definitions owner alternative ∧
      NamesOwner document definitions alternative := by
  cases halternatives : schema.alternatives? with
  | none => simp [halternatives] at halternative
  | some alternatives =>
      rw [halternatives, Option.getD_some] at halternative
      rcases Option.or_eq_some_iff.mp halternatives with hone | ⟨-, hany⟩
      · exact hschema.combined "oneOf" (by simp [combining]) _ (carries_of_items? hone) _
          halternative
      · exact hschema.combined "anyOf" (by simp [combining]) _ (carries_of_items? hany) _
          halternative

theorem Covered.of_allOf? {schema : Json} (hschema : Covered document definitions owner schema)
    {branch : Json} (hbranch : branch ∈ schema.allOf?.getD []) :
    Good document definitions owner branch ∧ NamesOwner document definitions branch := by
  cases hbranches : schema.allOf? with
  | none => simp [hbranches] at hbranch
  | some branches =>
      rw [hbranches, Option.getD_some] at hbranch
      exact hschema.combined "allOf" (by simp [combining]) _ (carries_of_items? hbranches) _ hbranch

/-! ## Merging -/

/-- The schemas of owners are good for their owners. -/
theorem Traced.good (htraced : Traced document definitions) {schema : Json}
    (howner : (owner, schema) ∈ owners document definitions)
    (hwithin : schema.Within document) : Good document definitions owner schema where
  plain := htraced.plain.mono hwithin
  reached _ hreference :=
    .single (((referenceGraph_spec document definitions).2 _ _).mpr ⟨schema, howner, hreference⟩)

/-- References from good nodes lead to good nodes. -/
theorem Traced.leadsTo (htraced : Traced document definitions) {target : Json}
    (hnode : Good document definitions owner node) (hnames : NamesOwner document definitions node)
    (htarget : LeadsTo document node target) : Good document definitions owner target := by
  induction htarget with
  | here => exact hnode
  | step hreference hnext _ ih =>
      -- the next node has an owner of its own, which the first owner reaches
      have hown := hnames _ _ hreference hnext
      have hlocal := isLocalReference_of_referenced? hnext
      have hreached := hnode.reached _ (mem_localReferences hreference hlocal)
      have hgood := htraced.good hown (within_of_referenced? hnext)
      refine ih ⟨hgood.plain, fun reference hinside => ?_⟩ (htraced.named _ hown)
      exact hreached.trans (hgood.reached reference hinside)

/-- **Merging keeps to good nodes**, wherever the properties that it collects come from. -/
theorem Covered.contributes (htraced : Traced document definitions) {schema : Json}
    (hschema : Covered document definitions owner schema) {entry : String × Json}
    (hentry : Contributes document schema entry) : Good document definitions owner entry.2 := by
  induction hentry with
  | own hdeclared => exact hschema.properties _ hdeclared
  | branch hbranch htarget _ ih =>
      obtain ⟨hgood, hnames⟩ := hschema.of_allOf? hbranch
      exact ih (htraced.leadsTo hgood hnames htarget).covered
  | alternative halternative htarget _ ih =>
      obtain ⟨hgood, hnames⟩ := hschema.of_alternatives? halternative
      exact ih (htraced.leadsTo hgood hnames htarget).covered

/-- A merged schema is covered like the node that it is merged for. -/
theorem Covered.mergeAllOf {context : Context} {definitions : List Definition} {owner : String}
    {schema merged : Json} {pointer : String}
    (htraced : Traced context.lookup.root definitions)
    (hschema : Covered context.lookup.root definitions owner schema)
    (hmerged : mergeAllOf context schema pointer = .ok merged) :
    Covered context.lookup.root definitions owner merged := by
  constructor
  · intro entry hentry
    exact hschema.contributes htraced (Merge.contributes_of_mergeAllOf hmerged hentry)
  · intro keyword hkeyword items hitems
    refine hschema.combined keyword hkeyword items ?_
    -- merging writes none of the keywords that combine schemas
    obtain ⟨gathered, -, hmerged⟩ := Outcome.bind_eq_ok.mp hmerged
    obtain rfl := Outcome.pure_eq_ok.mp hmerged
    simp only [combining, List.mem_cons, List.not_mem_nil, or_false] at hkeyword
    rcases MergedObject.carries_toSchema hitems with
      hown | ⟨hkey, -⟩ | ⟨hkey, -⟩ | ⟨hkey, -⟩ | hkey
    · exact hown
    all_goals
      subst hkey
      simp at hkeyword

end SchemaTypes
