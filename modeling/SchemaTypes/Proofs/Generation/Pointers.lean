import SchemaTypes.Proofs.Generation.Origin

/-!
# Pointers of a run

Requests, failures and warnings carry pointers.  A pointer is passed on next to the node that it
belongs to, and every step from a node to a part of it adds the keys of this step.  So long as
nothing is merged, the pointer leads back to the node.

Of the requests a run starts from this is known by construction.  It is kept by each step:

* from a request to the nodes of its properties, whatever their keys are,
* from a node to the parts that are resolved with it, and
* from a node to the struct that is requested for it.

* `Generation.isIn_site_of_realizes`: requests carry the pointers of their schemas.
* `Generation.Truthful`: every pointer of a run leads to the node that it was given for.
* `Generation.truthful`: runs on documents without `allOf` are of this kind.
-/

namespace SchemaTypes

open Outcome

namespace Generation

variable {generation : Generation} {request : ClassRequest} {levels : Nat} {progress : Progress}

/-! ## Requests -/

section

variable [Spelling]

/-- A run starts from schemas of its document. -/
theorem isIn_site_of_mem_requests (hmemory : generation.document.InMemory)
    (hrequest : request ∈ generation.requests) : request.site.IsIn generation.document := by
  rcases List.mem_append.mp hrequest with hdefinition | hroot
  · obtain ⟨definition, hdefinition, hrequest⟩ := List.mem_filterMap.mp hdefinition
    obtain ⟨path, hdeclared, hat⟩ :=
      Definition.exists_isAt_of_mem_collect hmemory.distinct hdefinition
    have hschema := Json.HasSchema.root.of_declared hdeclared.keyword hat.schema
    unfold definitionRequest? at hrequest
    dsimp only at hrequest
    split at hrequest
    · cases hrequest
      exact ⟨_, hschema, hat.pointer⟩
    · cases hrequest
  · split at hroot
    · obtain rfl := List.mem_singleton.mp hroot
      exact ⟨[], .root, rfl⟩
    · cases hroot

/-- Without `allOf`, the schema of a request is taken as it is. -/
theorem mergedSchema_eq (hunmerged : generation.document.Unmerged)
    (hrequest : request.site.IsIn generation.document) :
    generation.generator.mergedSchema request = .ok request.schema := by
  obtain ⟨keys, hschema, -⟩ := hrequest
  have hallOf : request.schema.allOf? = none := hunmerged keys _ hschema
  rw [Generator.mergedSchema, hallOf]
  rfl

omit [Spelling] in
/-- Properties are schemas at the positions that their pointers tell. -/
theorem isIn_propertySite (hmemory : generation.document.InMemory)
    (hrequest : request.site.IsIn generation.document) {key : String} {node : Json}
    (hentry : (key, node) ∈ request.schema.properties?.getD []) :
    (request.propertySite key node).IsIn generation.document := by
  have hproperty : (key, node) ∈ request.site.node.entries "properties" := hentry
  have hin := hrequest.entry hmemory (by decide) hproperty
  exact hin

/-- Preparing a struct leaves its schema as it is. -/
theorem prepared_eq (hunmerged : generation.document.Unmerged)
    (hrequest : request.site.IsIn generation.document) {prepared : ClassRequest}
    {fields : List ResolvedField}
    (hprepare : generation.generator.prepare request = .ok (.struct prepared fields)) :
    prepared = request ∧ ∀ field ∈ fields, field.IsOf generation.generator.context request := by
  obtain ⟨-, merged, hmerged, hprepared, hfields⟩ := Generator.prepare_struct hprepare
  rw [mergedSchema_eq hunmerged hrequest] at hmerged
  obtain rfl := Except.ok.inj hmerged
  obtain rfl : prepared = request := hprepared
  exact ⟨rfl, (Generator.ends_resolveFields prepared).ok fields hfields⟩

/-- **Requests carry the pointers of their schemas.** -/
theorem isIn_site_of_realizes (hmemory : generation.document.InMemory)
    (hunmerged : generation.document.Unmerged)
    (hrequest : generation.Realizes levels request progress) :
    request.site.IsIn generation.document := by
  induction hrequest with
  | start hrequests => exact isIn_site_of_mem_requests hmemory (by simp [hrequests])
  | @nested levels request progress emission _ before nested after _ _ hprepare _ hneeded _ ih =>
      have hmem : .struct nested ∈ emission.needed := by simp [hneeded]
      rcases Generator.prepare_cases hprepare with ⟨own, rfl⟩ | ⟨prepared, fields, rfl⟩
      · cases hmem
      · obtain ⟨-, hfields⟩ := prepared_eq hunmerged ih hprepare
        obtain ⟨field, hfield, hneeds⟩ := List.mem_flatMap.mp hmem
        obtain ⟨origin, hreaches, hrequests⟩ := (hfields field hfield).yields nested hneeds
        have hproperty := isIn_propertySite hmemory ih (hfields field hfield).entry
        exact hproperty.of_requests hmemory hunmerged hreaches hrequests

/-! ## Failures and warnings -/

/-- Failures carry the pointers of the nodes that they are raised for. -/
theorem isIn_of_raises (hmemory : generation.document.InMemory)
    (hunmerged : generation.document.Unmerged) {site : Site} {error : GenerationError}
    (hraises : generation.Raises site error) :
    site.IsIn generation.document ∧ error.pointer? = some site.pointer := by
  cases hraises with
  | depth hrequest => exact ⟨isIn_site_of_realizes hmemory hunmerged hrequest, rfl⟩
  | enumeration hrequest hfault => exact ⟨isIn_site_of_realizes hmemory hunmerged hrequest, rfl⟩
  | merging hrequest herror =>
      rw [mergedSchema_eq hunmerged (isIn_site_of_realizes hmemory hunmerged hrequest)] at herror
      cases herror
  | shape hrequest hmerged hshape =>
      exact ⟨isIn_site_of_realizes hmemory hunmerged hrequest, rfl⟩
  | property hresolves hrefuses =>
      obtain ⟨hrequest, hmerged, hentry, hreaches⟩ := hresolves
      have hschema := isIn_site_of_realizes hmemory hunmerged hrequest
      rw [mergedSchema_eq hunmerged hschema] at hmerged
      obtain rfl := Except.ok.inj hmerged
      exact (isIn_propertySite hmemory hschema hentry).of_refuses hmemory hunmerged hreaches
        hrefuses

/-- Warnings carry the pointers of the properties whose defaults are ignored. -/
theorem isIn_of_ignores (hmemory : generation.document.InMemory)
    (hunmerged : generation.document.Unmerged) {site : Site} {default : Json}
    (hignores : generation.Ignores site default) :
    site.IsIn generation.document ∧ site.node.defaultValue? = some default := by
  cases hignores with
  | intro hrequest hprepare hfield hignored =>
      have hschema := isIn_site_of_realizes hmemory hunmerged hrequest
      obtain ⟨-, hfields⟩ := prepared_eq hunmerged hschema hprepare
      have hfield := hfields _ hfield
      exact ⟨isIn_propertySite hmemory hschema hfield.entry, hfield.ignored _ hignored⟩

/-- Every pointer of a run leads to the node that it was given for. -/
structure Truthful (generation : Generation) : Prop where
  /-- The pointer of a request that a run comes to names the schema of the request. -/
  requests : ∀ levels request progress, generation.Realizes levels request progress →
    generation.document.named? request.pointer = some request.schema
  /-- The pointer of a failure names a node that the failure is raised for. -/
  failures : ∀ error pointer, generation.run = .error error → error.pointer? = some pointer →
    ∃ node, generation.document.named? pointer = some node ∧
      generation.Raises ⟨node, pointer⟩ error
  /-- The pointer of a warning names a property that declares the default. -/
  warnings : ∀ output pointer default, generation.run = .ok output →
    .defaultIgnored pointer default ∈ output.stats.warnings →
    ∃ node, generation.document.named? pointer = some node ∧
      generation.Ignores ⟨node, pointer⟩ default ∧ node.defaultValue? = some default

/-- **Pointers stay truthful.**  In a run on a document without `allOf`, the pointers of requests,
failures and warnings lead to the nodes that they were given for. -/
theorem truthful (hmemory : generation.document.InMemory)
    (hunmerged : generation.document.Unmerged) : generation.Truthful where
  requests _ request _ hrequest :=
    (isIn_site_of_realizes hmemory hunmerged hrequest).named?_eq hmemory
  failures error pointer hrun hpointer := by
    rcases ends_run.error error hrun with hnone | ⟨site, hraises⟩
    · rw [hnone] at hpointer
      cases hpointer
    · obtain ⟨hsite, hown⟩ := isIn_of_raises hmemory hunmerged hraises
      obtain rfl := Option.some.inj (hown.symm.trans hpointer)
      exact ⟨site.node, hsite.named?_eq hmemory, hraises⟩
  warnings output pointer default hrun hwarning := by
    obtain ⟨site, hignores, rfl⟩ := ends_run.ok output hrun pointer default hwarning
    obtain ⟨hsite, hdefault⟩ := isIn_of_ignores hmemory hunmerged hignores
    exact ⟨site.node, hsite.named?_eq hmemory, hignores, hdefault⟩

end

attribute [local instance] Spelling.plain

/-- A list of which the items are objects or `null`, with a property that cannot be resolved. -/
def nestedPointers : Generation where
  document := .object [("properties", .object [
    ("a/b", .object [
      ("type", .string "array"),
      ("items", .object [("oneOf", .array [
        .object [("type", .string "null")],
        .object [("properties", .object [("~", .object [("enum", .array [])])])]])])])])]
  rootName := "Root"

theorem inMemory_nestedPointers : nestedPointers.document.InMemory := by
  constructor
  · simp [nestedPointers]
  · simp [nestedPointers, Json.forall_within_object, Json.forall_within_array,
      -Json.within_object, Json.items?]

theorem unmerged_nestedPointers : nestedPointers.document.Unmerged := by
  refine Json.unmerged_of_within ?_
  simp [nestedPointers, Json.forall_within_object, Json.forall_within_array, -Json.within_object,
    Json.allOf?, Json.get?, Json.members?, Members.get?_cons]

set_option maxRecDepth 10000 in
theorem run_nestedPointers : nestedPointers.run =
    .error (.enumeration "#/properties/a~1b/items/oneOf/1/properties/~0" .empty) := by
  have hcheck : (match nestedPointers.run with
      | .ok _ => false
      | .error error => decide (error =
          .enumeration "#/properties/a~1b/items/oneOf/1/properties/~0" .empty)) = true := by
    decide +kernel
  split at hcheck
  · cases hcheck
  · rw [‹nestedPointers.run = _›, of_decide_eq_true hcheck]

theorem truthful_nestedPointers :
    nestedPointers.document.InMemory ∧ nestedPointers.document.Unmerged ∧
      nestedPointers.Truthful ∧
      nestedPointers.run =
        .error (.enumeration "#/properties/a~1b/items/oneOf/1/properties/~0" .empty) :=
  ⟨inMemory_nestedPointers, unmerged_nestedPointers,
    truthful inMemory_nestedPointers unmerged_nestedPointers, run_nestedPointers⟩

end Generation

end SchemaTypes
