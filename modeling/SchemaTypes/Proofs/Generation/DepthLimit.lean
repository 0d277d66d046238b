import SchemaTypes.Proofs.Generation.Parts
import SchemaTypes.Proofs.Generation.Units
import SchemaTypes.Proofs.Schema.DepthLimit

/-!
# The depth limit of a run

Structs nest in one another, and a request for a nested struct is one level deeper than the request
for the struct around it.  This file carries independence of the limit from merging through
resolving and realizing to whole runs.

* `Generation.Terminates`: the three recursions that the limit bounds come to an end.
* `Generation.run_of_maxDepth_le`: they do, and a run that is not cut off has the same result under
  every larger limit.
-/

namespace SchemaTypes

open Merge Resolve

/-! ## Resolving -/

section

variable [Spelling]

section

variable {context : Context} {shallow deep : Nat} (request : ClassRequest) (key : String)

theorem agrees_resolveAlternatives {suffix pointer : String} {nodes : List Json}
    (hnodes : ∀ node ∈ nodes, ∀ suffix pointer,
      Agrees (resolveNode (context.withMaxDepth shallow) request key suffix node pointer)
        (resolveNode (context.withMaxDepth deep) request key suffix node pointer)) (index : Nat) :
    Agrees
      (resolveAlternatives (context.withMaxDepth shallow) request key suffix pointer index nodes)
      (resolveAlternatives (context.withMaxDepth deep) request key suffix pointer index nodes) := by
  induction nodes generalizing index with
  | nil => rw [resolveAlternatives, resolveAlternatives]
  | cons node rest ih =>
      rw [List.forall_mem_cons] at hnodes
      rw [resolveAlternatives, resolveAlternatives]
      by_cases hnull : node.isNullSchema
      · rw [if_pos hnull, if_pos hnull]
        exact ih hnodes.2 (index + 1)
      · rw [if_neg hnull, if_neg hnull]
        apply Agrees.bind (hnodes.1 _ _)
        intro property
        apply Agrees.bind (ih hnodes.2 (index + 1))
        intro others
        exact .refl _

theorem agrees_resolveBranches {suffix pointer : String} {entries : Members}
    (hentries : ∀ entry ∈ entries, ∀ suffix pointer,
      Agrees (resolveNode (context.withMaxDepth shallow) request key suffix entry.2 pointer)
        (resolveNode (context.withMaxDepth deep) request key suffix entry.2 pointer))
    (number : Nat) :
    Agrees
      (resolveBranches (context.withMaxDepth shallow) request key suffix pointer number entries)
      (resolveBranches (context.withMaxDepth deep) request key suffix pointer number entries) := by
  induction entries generalizing number with
  | nil => rw [resolveBranches, resolveBranches]
  | cons entry rest ih =>
      obtain ⟨pattern, node⟩ := entry
      rw [List.forall_mem_cons] at hentries
      rw [resolveBranches, resolveBranches]
      apply Agrees.bind (hentries.1 _ _)
      intro property
      apply Agrees.bind (ih hentries.2 (number + 1))
      intro others
      exact .refl _

/-- Only merging needs the limit. -/
theorem agrees_resolveNode (hle : shallow ≤ deep) (suffix : String) (node : Json)
    (pointer : String) :
    Agrees (resolveNode (context.withMaxDepth shallow) request key suffix node pointer)
      (resolveNode (context.withMaxDepth deep) request key suffix node pointer) := by
  induction hsize : sizeOf node using Nat.strong_induction_on generalizing suffix pointer node with
  | _ size ih =>
  subst hsize
  -- the recursion goes into items, further keys, alternatives and patterns; the limit is only read
  -- where branches are merged
  have hitems : ∀ {container items}, node.collection? = some (container, items) →
      ∀ suffix pointer,
        Agrees (resolveNode (context.withMaxDepth shallow) request key suffix items pointer)
          (resolveNode (context.withMaxDepth deep) request key suffix items pointer) :=
    fun hcollection suffix pointer => ih _ (Json.sizeOf_lt_of_collection? hcollection) _ _ _ rfl
  have hadditional : ∀ {additional}, node.additionalProperties? = some additional →
      ∀ suffix pointer,
        Agrees (resolveNode (context.withMaxDepth shallow) request key suffix additional pointer)
          (resolveNode (context.withMaxDepth deep) request key suffix additional pointer) :=
    fun hfound suffix pointer => ih _ (Json.sizeOf_lt_of_additionalProperties? hfound) _ _ _ rfl
  rw [resolveNode, resolveNode]
  cases hkind : node.kind with
  | intersection =>
      apply Agrees.bind (agrees_mergeAllOf hle node pointer)
      intro merged
      exact .refl _
  | union =>
      dsimp only
      split
      · rename_i nodes hnodes
        apply Agrees.bind
        · apply agrees_resolveAlternatives
          intro part hpart suffix pointer
          have hmem : part ∈ node.alternatives?.getD [] := by rwa [hnodes]
          exact ih _ (Json.sizeOf_lt_of_mem_alternatives hmem) _ _ _ rfl
        · intro alternatives
          exact .refl _
      · exact .refl _
  | objectArray | primitiveArray =>
      dsimp only
      split
      · rename_i container items hcollection
        apply Agrees.bind (hitems hcollection _ _)
        intro item
        exact .refl _
      · exact .refl _
  | dynamic =>
      dsimp only
      split
      · rename_i entries hentries
        apply Agrees.bind
        · apply agrees_resolveBranches
          intro entry hentry suffix pointer
          have hmem : entry ∈ node.patternProperties?.getD [] := by rwa [hentries]
          exact ih _ (Json.sizeOf_lt_of_mem_patternProperties hmem) _ _ _ rfl
        · intro patterned
          split
          · rename_i additional hfound
            apply Agrees.bind (hadditional hfound _ _)
            intro property
            exact .refl _
          · exact .refl _
      · apply Agrees.bind (.refl _)
        intro patterned
        split
        · rename_i additional hfound
          apply Agrees.bind (hadditional hfound _ _)
          intro property
          exact .refl _
        · exact .refl _
  | reference | enumeration | dateTime | string | primitive | nestedObject | mixed => exact .refl _

end

/-! ## Realizing -/

/-- The same generator with another limit. -/
def Generator.withMaxDepth (generator : Generator) (limit : Nat) : Generator :=
  { generator with context := generator.context.withMaxDepth limit }

namespace Generator

variable {generator : Generator} {shallow deep : Nat}

theorem agrees_resolveFields (hle : shallow ≤ deep) (request : ClassRequest) :
    Agrees ((generator.withMaxDepth shallow).resolveFields request)
      ((generator.withMaxDepth deep).resolveFields request) := by
  apply Agrees.mapM
  intro entry hentry
  have hfield : Agrees
      (resolveField (generator.withMaxDepth shallow).context request entry.1 entry.2
        (request.schema.requiredKeys.contains entry.1))
      (resolveField (generator.withMaxDepth deep).context request entry.1 entry.2
        (request.schema.requiredKeys.contains entry.1)) := by
    apply Agrees.bind (agrees_resolveNode request entry.1 hle "" entry.2 _)
    intro property
    exact .refl _
  apply Agrees.bind hfield
  intro property
  exact .refl _

theorem agrees_prepare (hle : shallow ≤ deep) (request : ClassRequest) :
    Agrees ((generator.withMaxDepth shallow).prepare request)
      ((generator.withMaxDepth deep).prepare request) := by
  unfold prepare
  by_cases henum : request.schema.enumValues?.isSome
  · rw [if_pos henum, if_pos henum]
    exact .refl _
  · rw [if_neg henum, if_neg henum]
    have hmerged : Agrees ((generator.withMaxDepth shallow).mergedSchema request)
        ((generator.withMaxDepth deep).mergedSchema request) := by
      unfold mergedSchema
      by_cases hallOf : request.schema.allOf?.isSome
      · rw [if_pos hallOf, if_pos hallOf]
        exact agrees_mergeAllOf hle request.schema request.pointer
      · rw [if_neg hallOf, if_neg hallOf]
    apply Agrees.bind hmerged
    intro merged
    by_cases hshape : merged.isObjectShaped
    · rw [if_neg (by simp [hshape]), if_neg (by simp [hshape])]
      apply Agrees.bind (agrees_resolveFields hle _)
      intro fields
      exact .refl _
    · rw [if_pos (by simp [hshape]), if_pos (by simp [hshape])]
      exact .refl (.error (.resolution request.pointer .notObjectShaped))

/-- What a type adds to the progress does not depend on the limit. -/
theorem collect_withMaxDepth (limit : Nat) :
    (generator.withMaxDepth limit).collect = generator.collect := by
  funext pointer progress emission
  cases emission <;> rfl

theorem agrees_realize (hle : shallow ≤ deep) {levels levels' : Nat} (hlevels : levels ≤ levels')
    (request : ClassRequest) (progress : Progress) :
    Agrees ((generator.withMaxDepth shallow).realize levels request progress)
      ((generator.withMaxDepth deep).realize levels' request progress) := by
  induction levels generalizing levels' request progress with
  | zero => exact .of_error request.pointer shallow _
  | succ levels ih =>
      obtain ⟨more, rfl⟩ : ∃ more, levels' = more + 1 := ⟨levels' - 1, by omega⟩
      have hmore : levels ≤ more := by omega
      rw [realize_succ, realize_succ]
      apply Agrees.bind (agrees_prepare hle request)
      intro emission
      rw [collect_withMaxDepth, collect_withMaxDepth]
      apply Agrees.bind (.refl _)
      intro middle
      apply Agrees.foldlM
      intro minted hminted state
      cases minted with
      | struct nested => exact ih hmore nested state
      | enumeration | union | dynamic => exact .refl _

/-! ### Counting levels -/

/-- How a request is realized: each nested request is one level deeper. -/
def realizeNext (generator : Generator) (realizeStruct : StructRealizer) : StructRealizer :=
  fun request progress =>
    if generator.context.options.maxDepth < request.depth then
      .error (.resolution request.pointer (.depthExceeded generator.context.options.maxDepth))
    else generator.realizeStep realizeStruct request progress

/-- Requests for nested structs are one level deeper. -/
theorem depth_of_mem_needed {request nested : ClassRequest} {emission : Emission}
    (hprepare : generator.prepare request = .ok emission)
    (hnested : .struct nested ∈ emission.needed) : nested.depth = request.depth + 1 := by
  rcases prepare_cases hprepare with ⟨target, rfl⟩ | ⟨prepared, fields, rfl⟩
  · cases hnested
  · obtain ⟨-, merged, -, rfl, hfields⟩ := prepare_struct hprepare
    have hcases : NodeCases generator.context { request with schema := merged } (fun _ => True)
        (fun _ => True) (fun own => own.depth = request.depth + 1) (fun _ => True) := {
      reference := fun _ _ _ _ => trivial
      items := fun _ _ _ _ _ => trivial
      alternatives := fun _ _ _ _ => trivial
      patterns := fun _ _ _ _ => trivial
      additional := fun _ _ _ _ => trivial
      path := fun _ _ => trivial
      nested := fun _ _ _ _ _ => rfl
      merged := fun _ _ _ _ _ _ _ => rfl }
    obtain ⟨field, hfield, hneeded⟩ := List.mem_flatMap.mp hnested
    obtain ⟨entry, -, hresolved⟩ := exists_of_resolveFields
      (fun key => hcases.resolutionCases key)
      (fun node inner hinner hgood => (hinner hgood).inner) hfields hfield
    exact ((hresolved trivial).of_mem_needed hneeded).1

/-- One level only depends on how requests of the next level are realized. -/
theorem realizeStep_congr {first second : StructRealizer} {request : ClassRequest}
    (hsame : ∀ nested : ClassRequest, nested.depth = request.depth + 1 →
      first nested = second nested) (progress : Progress) :
    generator.realizeStep first request progress =
      generator.realizeStep second request progress := by
  unfold realizeStep
  cases hprepare : generator.prepare request with
  | error fault => rfl
  | ok emission =>
      have hneeded : ∀ minted ∈ emission.needed, ∀ state,
          generator.realizeNeeded first request.pointer state minted =
            generator.realizeNeeded second request.pointer state minted := by
        intro minted hminted state
        cases minted with
        | struct nested =>
            rw [realizeNeeded, realizeNeeded, hsame nested (depth_of_mem_needed hprepare hminted)]
        | enumeration | union | dynamic => rfl
      show generator.collect request.pointer progress emission >>= _ =
        generator.collect request.pointer progress emission >>= _
      exact bind_congr fun middle => Outcome.foldlM_congr hneeded middle

/-- Realizing comes to an end. -/
theorem onlySolution_realizeNext (generator : Generator) :
    OnlySolution generator.realizeNext fun request =>
      generator.realize (generator.context.options.maxDepth + 1 - request.depth) request := by
  let limit := generator.context.options.maxDepth
  intro other
  constructor
  · intro hother
    funext request progress
    induction hleft : limit + 1 - request.depth generalizing request progress with
    | zero =>
        have hbeyond : limit < request.depth := by omega
        rw [← hother]
        exact if_pos hbeyond
    | succ left ih =>
        have hwithin : ¬limit < request.depth := by omega
        rw [← hother, realizeNext, if_neg hwithin, realize_succ]
        apply realizeStep_congr
        intro nested hnested
        funext progress
        exact ih nested progress (by omega)
  · rintro rfl
    funext request progress
    rw [realizeNext]
    by_cases hbeyond : limit < request.depth
    · have hleft : limit + 1 - request.depth = 0 := by omega
      rw [if_pos hbeyond, hleft]
      rfl
    · have hleft : limit + 1 - request.depth = limit + 1 - (request.depth + 1) + 1 := by omega
      rw [if_neg hbeyond, hleft, realize_succ]
      apply realizeStep_congr
      intro nested hnested
      rw [hnested]

end Generator

/-! ## Whole runs -/

namespace Generation

/-- The same generation with another limit. -/
def withMaxDepth (generation : Generation) (limit : Nat) : Generation :=
  { generation with options := { generation.options with maxDepth := limit } }

/-- The recursions that the limit bounds come to an end: following references, merging, and
realizing, which starts at the depth of the root. -/
structure Terminates (generation : Generation) : Prop where
  follow : OnlySolution (followNext generation.generator.context) fun hops pointer node =>
    dereference generation.generator.context pointer (generation.options.maxDepth - hops) node
  merge : OnlySolution (mergeNext generation.generator.context) fun depth =>
    mergeLevels generation.generator.context (generation.options.maxDepth + 1 - depth)
  realize : OnlySolution generation.generator.realizeNext fun request =>
    generation.generator.realize (generation.options.maxDepth + 1 - request.depth) request
  start : ∀ request ∈ generation.requests, request.depth = 0

theorem depth_of_mem_requests {generation : Generation} {request : ClassRequest}
    (hrequest : request ∈ generation.requests) : request.depth = 0 := by
  rcases List.mem_append.mp hrequest with hdefinition | hroot
  · obtain ⟨definition, -, hrequest⟩ := List.mem_filterMap.mp hdefinition
    unfold definitionRequest? at hrequest
    dsimp only at hrequest
    split at hrequest
    · exact Option.some.inj hrequest ▸ rfl
    · cases hrequest
  · split at hroot
    · exact List.mem_singleton.mp hroot ▸ rfl
    · cases hroot

theorem terminates (generation : Generation) : generation.Terminates where
  follow := onlySolution_followNext generation.generator.context
  merge := onlySolution_mergeNext generation.generator.context
  realize := Generator.onlySolution_realizeNext generation.generator
  start := fun _ => depth_of_mem_requests

/-- All requests are realized with the same number of levels. -/
theorem realizeAll_withMaxDepth (generation : Generation) (limit : Nat) :
    (generation.withMaxDepth limit).realizeAll generation.targets generation.definitions =
      generation.requests.foldlM
        (fun progress request =>
          (generation.generator.withMaxDepth limit).realize (limit + 1) request progress) .empty :=
  @realizeAll_eq _ (generation.withMaxDepth limit)

theorem agrees_run (generation : Generation) {shallow deep : Nat} (hle : shallow ≤ deep) :
    Agrees (generation.withMaxDepth shallow).run (generation.withMaxDepth deep).run := by
  have hall : Agrees
      ((generation.withMaxDepth shallow).realizeAll generation.targets generation.definitions)
      ((generation.withMaxDepth deep).realizeAll generation.targets generation.definitions) := by
    rw [realizeAll_withMaxDepth, realizeAll_withMaxDepth]
    apply Agrees.foldlM
    intro request _ progress
    exact Generator.agrees_realize hle (Nat.succ_le_succ hle) request progress
  apply Agrees.bind hall
  intro progress
  exact .refl _

/-- **The limit is only a guard.**  Every run comes to an end, and a run that is not cut off has the
same result under every larger limit. -/
theorem run_of_maxDepth_le (generation : Generation) :
    (∀ limit, (generation.withMaxDepth limit).Terminates) ∧
      ∀ limit larger, limit ≤ larger → ¬CutOff (generation.withMaxDepth limit).run →
        (generation.withMaxDepth larger).run = (generation.withMaxDepth limit).run := by
  constructor
  · exact fun limit => terminates _
  · intro limit larger hle hfinished
    exact (generation.agrees_run hle).resolve_left hfinished

end Generation

end

namespace Generation

attribute [local instance] Spelling.plain

/-- A property that merges what another property is. -/
def boundedReference : Generation where
  document := .object [("type", .string "object"),
    ("properties", .object [
      ("p", .object [("allOf", .array [.object [("$ref", .string "#/properties/q")]])]),
      ("q", .object [])])]
  rootName := "Root"

set_option maxRecDepth 10000 in
/-- One nested struct and one reference are within a limit of one. -/
theorem run_boundedReference :
    (boundedReference.withMaxDepth 1).run.toOption.isSome ∧
      1 ≤ 5 ∧ ¬CutOff (boundedReference.withMaxDepth 1).run ∧
        (boundedReference.withMaxDepth 5).run = (boundedReference.withMaxDepth 1).run := by
  have hsome : (boundedReference.withMaxDepth 1).run.toOption.isSome := by decide +kernel
  have hfinished : ¬CutOff (boundedReference.withMaxDepth 1).run := by
    rintro ⟨pointer, limit, hcut⟩
    rw [hcut] at hsome
    cases hsome
  exact ⟨hsome, by decide, hfinished,
    (run_of_maxDepth_le boundedReference).2 1 5 (by decide) hfinished⟩

end Generation

end SchemaTypes
