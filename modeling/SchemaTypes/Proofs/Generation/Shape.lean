import SchemaTypes.Proofs.Generation.Closure
import SchemaTypes.Proofs.Generation.Origin
import SchemaTypes.Proofs.Schema.MergedMembers

/-!
# Schemas that are refused for their shape

A struct is made of a schema that describes an object, and realizing a request refuses any other
schema.  Requests come from three places, and each of them has looked at the shape of the schema
before:

* a nested object is requested for a node of this kind,
* a merged `allOf` has the type of objects, and
* a definition is requested when references to it stand for the type that it becomes.

The last one can be misled.  A reference may be mapped to an existing type, and when this has the
path of the type that the definition itself would become, then the definition is taken for one that
becomes a type, whatever its schema is.

* `Generator.realize_eq_notObjectShaped_iff`: a request is refused for its own shape, never for that
  of a struct nested in it.
* `Generation.run_eq_notObjectShaped_iff`: what makes a run fail for the shape of a schema.
* `Generation.onlyRootUnshaped_iff`: when it is the root and nothing else.
-/

namespace SchemaTypes

open Outcome

/-- A schema that gives neither a struct nor an enumeration: it has no properties and not the type
of objects, and neither `allOf` nor `enum`. -/
structure Json.IsUnshaped (schema : Json) : Prop where
  properties : schema.properties? = none
  type : schema.schemaType? ≠ some "object"
  allOf : schema.allOf? = none
  enumeration : schema.enumValues? = none

namespace Json

variable {schema : Json}

theorem isObjectShaped_eq_false :
    schema.isObjectShaped = false ↔
      schema.properties? = none ∧ schema.schemaType? ≠ some "object" := by
  simp [isObjectShaped, isType]

theorem IsUnshaped.not_isObjectShaped (hschema : schema.IsUnshaped) :
    schema.isObjectShaped = false :=
  isObjectShaped_eq_false.mpr ⟨hschema.properties, hschema.type⟩

theorem IsUnshaped.not_isClassShaped (hschema : schema.IsUnshaped) :
    schema.isClassShaped = false := by
  simp [isClassShaped, isType, hschema.properties, hschema.type]

end Json

/-! ## Merged schemas are objects -/

namespace Members

variable {members : Members} {key other : String}

theorem get?_substitute_of_ne {substitute : String × Json} (hkey : other ≠ key)
    (hsubstitute : other ≠ substitute.1) :
    get? (Members.substitute members key substitute) other = get? members other := by
  induction members with
  | nil => rfl
  | cons entry rest ih =>
      rw [Members.substitute, List.map_cons, ← Members.substitute]
      by_cases hsame : entry.1 = key
      · rw [if_pos (beq_iff_eq.mpr hsame), get?_cons, get?_cons, if_neg hsubstitute,
          if_neg (hsame ▸ hkey), ih]
      · rw [if_neg (by simpa using hsame), get?_cons, get?_cons, ih]

/-- Removing a key moves the last member only. -/
theorem get?_erase_of_ne_last (hkey : other ≠ key)
    (hlast : ∀ last, members.getLast? = some last → other ≠ last.1) :
    get? (erase members key) other = get? members other := by
  unfold erase
  cases hfinal : members.getLast? with
  | none => rw [List.getLast?_eq_none_iff.mp hfinal]
  | some last =>
      have hother := hlast last hfinal
      have hsplit : members = members.dropLast ++ [last] :=
        (List.dropLast_append_getLast? last hfinal).symm
      have hdropped : get? members.dropLast other = get? members other := by
        conv_rhs => rw [hsplit, get?_append, get?_cons, if_neg hother, get?_nil, Option.or_none]
      dsimp only
      split_ifs
      · rfl
      · exact hdropped
      · rw [get?_substitute_of_ne hkey hother, hdropped]

/-- Of two keys, one at most stands last, so that the other stays where it is. -/
theorem get?_erase_of_get? {first second : String} {one two : Json} (hfirst : first ≠ key)
    (hsecond : second ≠ key) (hdistinct : first ≠ second)
    (hone : get? members first = some one) (htwo : get? members second = some two) :
    get? (erase members key) first = some one ∨ get? (erase members key) second = some two := by
  by_cases hlast : ∀ last, members.getLast? = some last → first ≠ last.1
  · exact .inl ((get?_erase_of_ne_last hfirst hlast).trans hone)
  · push Not at hlast
    obtain ⟨last, hlast, hkey⟩ := hlast
    refine .inr ((get?_erase_of_ne_last hsecond fun other hother => ?_).trans htwo)
    obtain rfl := Option.some.inj (hlast.symm.trans hother)
    exact hkey ▸ hdistinct.symm

end Members

/-- **Merged schemas are objects.**  Of `type` and `properties`, which are set last but one, at most
one is moved when `required` is removed. -/
theorem MergedObject.isObjectShaped_toSchema (merged : MergedObject) (base : Json) :
    (merged.toSchema base).isObjectShaped = true := by
  let members := base.members?.getD []
  have hproperties : Members.get? (merged.described members) "properties" =
      some (.object merged.properties) := by
    rw [described, Members.get?_insert, if_pos rfl]
  have htype : Members.get? (merged.described members) "type" = some (.string "object") := by
    rw [described, Members.get?_insert, if_neg (by decide), Members.get?_insert, if_pos rfl]
  have hbounded :
      Members.get? (merged.bounded members) "properties" = some (.object merged.properties) ∨
        Members.get? (merged.bounded members) "type" = some (.string "object") := by
    unfold bounded
    split
    · exact Members.get?_erase_of_get? (by decide) (by decide) (by decide) hproperties htype
    · left
      rw [Members.get?_insert, if_neg (by decide), hproperties]
  rw [Json.isObjectShaped, Bool.or_eq_true]
  rcases hbounded with hfound | hfound
  · left
    rw [Json.properties?, get?_toSchema_eq, get?_written_of_ne (by decide), hfound]
    rfl
  · right
    rw [Json.isType, Json.schemaType?, get?_toSchema_eq, get?_written_of_ne (by decide), hfound]
    rfl

/-! ## Failures of another kind -/

/-- A schema is refused for its shape. -/
def GenerationError.IsShapeless (error : GenerationError) : Prop :=
  ∃ pointer, error = .resolution pointer .notObjectShaped

namespace Merge

variable {context : Context} {nested : NestedMerge} {pointer : String}

theorem not_isShapeless_tooDeep : ¬(tooDeep context pointer).IsShapeless := by
  rintro ⟨other, hother⟩
  cases hother

theorem ends_dereference (hops : Nat) (node : Json) :
    Ends (dereference context pointer hops node) (fun _ => True) (¬·.IsShapeless) := by
  induction hops generalizing node with
  | zero =>
      unfold dereference
      split
      · exact .of_ok trivial
      · exact .of_error not_isShapeless_tooDeep
  | succ hops ih =>
      unfold dereference
      split
      · exact .of_ok trivial
      · dsimp only
        split
        · exact ih _
        · exact .of_error nofun

section

variable (hnested : ∀ node place,
  Ends (nested node place) (fun _ => True) (¬·.IsShapeless))
include hnested

theorem ends_reduceAlternatives (index : Nat) (alternatives : List Json) (reduction : Reduction) :
    Ends (reduceAlternatives context nested pointer index alternatives reduction) (fun _ => True)
      (¬·.IsShapeless) := by
  induction alternatives generalizing index reduction with
  | nil => exact .of_ok trivial
  | cons alternative rest ih =>
      rw [reduceAlternatives]
      refine (ends_dereference _ _).bind fun target _ _ => ?_
      split
      · exact (hnested _ _).bind fun merged _ _ => ih _ _
      · exact ih _ _

theorem ends_branchSchema (index : Nat) (branch : Json) :
    Ends (branchSchema context nested pointer index branch) (fun _ => True) (¬·.IsShapeless) := by
  refine (ends_dereference _ _).bind fun target _ _ => ?_
  have hunsupported : ∀ index, ¬(GenerationError.resolution pointer
      (.unsupportedBranch index)).IsShapeless := fun _ => nofun
  split
  · exact .of_ok trivial
  · split
    · exact hnested _ _
    · split
      · exact (ends_reduceAlternatives hnested _ _ _).bind fun _ _ _ => .of_ok trivial
      · split
        · exact .of_ok trivial
        · exact .of_error (hunsupported _)
  · exact .of_error (hunsupported _)

theorem ends_mergeBranches (index : Nat) (branches : List Json) (merged : MergedObject) :
    Ends (mergeBranches context nested pointer index branches merged) (fun _ => True)
      (¬·.IsShapeless) := by
  induction branches generalizing index merged with
  | nil => exact .of_ok trivial
  | cons branch rest ih =>
      rw [mergeBranches]
      exact (ends_branchSchema hnested _ _).bind fun schema _ _ => ih _ _

end

theorem ends_mergeLevels (levels : Nat) (node : Json) (pointer : String) :
    Ends (mergeLevels context levels node pointer) (·.isObjectShaped = true) (¬·.IsShapeless) := by
  induction levels generalizing node pointer with
  | zero => exact .of_error not_isShapeless_tooDeep
  | succ levels ih =>
      rw [mergeLevels]
      have hnested : ∀ node place,
          Ends (mergeLevels context levels node place) (fun _ => True) (¬·.IsShapeless) :=
        fun node place => (ih node place).mono (fun _ _ => trivial) (fun _ => id)
      exact (ends_mergeBranches hnested _ _ _).bind fun merged _ _ =>
        .of_ok (MergedObject.isObjectShaped_toSchema _ _)

end Merge

/-- What is merged is an object, and merging never fails for the shape of a schema. -/
theorem ends_mergeAllOf (context : Context) (node : Json) (pointer : String) :
    Ends (mergeAllOf context node pointer) (·.isObjectShaped = true) (¬·.IsShapeless) :=
  Merge.ends_mergeLevels _ _ _

section

variable [Spelling]

namespace Site

variable {context : Context} {site origin : Site}

omit [Spelling] in
/-- **Structs are requested for objects.** -/
theorem Requests.isObjectShaped {request : ClassRequest}
    (hrequests : site.Requests context request) :
    request.schema.isObjectShaped = true := by
  cases hrequests with
  | nestedObject hkind hschema =>
      rw [hschema]
      exact Json.isObjectShaped_of_nestedObject hkind
  | intersection hkind hschema => exact (ends_mergeAllOf _ _ _).ok _ hschema

theorem Refuses.not_isShapeless {error : GenerationError} (hrefuses : site.Refuses context error) :
    ¬error.IsShapeless := by
  cases hrefuses with
  | enumeration hkind hfault => exact nofun
  | intersection hkind herror => exact (ends_mergeAllOf _ _ _).error _ herror

end Site

/-! ## Realizing a request -/

/-- The structs that an emission needs are objects. -/
def Emission.NeedsObjects (emission : Emission) : Prop :=
  ∀ nested, .struct nested ∈ emission.needed → nested.schema.isObjectShaped = true

namespace Generator

variable {generator : Generator} {request : ClassRequest}

/-- A failure for the shape of a schema is that of the request itself. -/
def BlamesRequest (request : ClassRequest) (error : GenerationError) : Prop :=
  error.IsShapeless →
    request.schema.IsUnshaped ∧ error = .resolution request.pointer .notObjectShaped

omit [Spelling] in
theorem blamesRequest_of_not {error : GenerationError} (herror : ¬error.IsShapeless) :
    BlamesRequest request error :=
  fun hshapeless => absurd hshapeless herror

theorem ends_prepare :
    Ends (generator.prepare request) Emission.NeedsObjects (BlamesRequest request) := by
  unfold prepare
  by_cases henum : request.schema.enumValues?.isSome
  · rw [if_pos henum]
    split
    · exact .of_error (blamesRequest_of_not nofun)
    · exact .of_ok nofun
  · rw [if_neg henum]
    -- a merged schema is that of an object; without `allOf` the schema is what it was
    have hmerged : Ends (generator.mergedSchema request)
        (fun merged => merged.isObjectShaped = true ∨
          merged = request.schema ∧ request.schema.allOf? = none)
        (BlamesRequest request) := by
      unfold mergedSchema
      split
      · exact (ends_mergeAllOf _ _ _).mono (fun _ => .inl) (fun _ => blamesRequest_of_not)
      · rename_i hallOf
        exact .of_ok (.inr ⟨rfl, by simpa using hallOf⟩)
    refine hmerged.bind fun merged _ hmerged => ?_
    split
    · rename_i hshape
      rw [Bool.not_eq_true'] at hshape
      -- only a schema that is not merged can be without the shape of an object
      rcases hmerged with hobject | ⟨rfl, hallOf⟩
      · rw [hobject] at hshape
        cases hshape
      · obtain ⟨hproperties, htype⟩ := Json.isObjectShaped_eq_false.mp hshape
        exact .of_error fun _ => ⟨⟨hproperties, htype, hallOf, by simpa using henum⟩, rfl⟩
    · refine ((ends_resolveFields _).mono (fun _ => id) ?_).bind fun fields _ hfields => .of_ok ?_
      · rintro error ⟨entry, -, origin, -, hrefuses⟩
        exact blamesRequest_of_not hrefuses.not_isShapeless
      · intro nested hnested
        obtain ⟨field, hfield, hneeds⟩ := List.mem_flatMap.mp hnested
        obtain ⟨origin, -, hrequests⟩ := (hfields field hfield).yields nested hneeds
        exact hrequests.isObjectShaped

omit [Spelling] in
/-- Names that are no identifiers are no failure of a schema. -/
theorem ends_checkIdentifiers (code : Code) :
    Ends (checkIdentifiers code) (fun _ => True) (¬·.IsShapeless) := by
  unfold checkIdentifiers
  split
  · refine .of_error ?_
    rintro ⟨pointer, hsame⟩
    cases hsame
  · exact .of_ok trivial

theorem ends_collect (pointer : String) (progress : Progress) (emission : Emission) :
    Ends (generator.collect pointer progress emission) (fun _ => True) (BlamesRequest request) := by
  cases emission with
  | enumeration target => exact .of_ok trivial
  | struct | union | entry =>
      exact ((ends_checkIdentifiers _).mono (fun _ => id) fun _ => blamesRequest_of_not).bind
        fun _ _ _ => .of_ok trivial

/-- Realizing a request fails for the shape of a schema only if it is the one of the request. -/
theorem ends_realize (levels : Nat) (request : ClassRequest) (progress : Progress) :
    Ends (generator.realize levels request progress) (fun _ => True) (BlamesRequest request) := by
  induction levels generalizing request progress with
  | zero => exact .of_error (blamesRequest_of_not Merge.not_isShapeless_tooDeep)
  | succ levels ih =>
      rw [realize_succ]
      refine ends_prepare.bind fun emission _ hneeds =>
        (ends_collect _ _ emission).bind fun middle _ _ => ?_
      refine Ends.foldlM trivial fun before minted after later hneeded _ _ => ?_
      cases minted with
      | enumeration target => exact ends_collect _ _ (.enumeration target)
      | union path docs alternatives => exact ends_collect _ _ (.union path docs alternatives)
      | dynamic entry branches => exact ends_collect _ _ (.entry entry branches)
      | struct nested =>
          refine (ih nested later).mono (fun _ => id) fun error hblames hshapeless => ?_
          -- nested structs have been requested for objects
          have hobject := hneeds nested (by simp [hneeded])
          rw [(hblames hshapeless).1.not_isObjectShaped] at hobject
          cases hobject

/-- **Refused requests.**  A request is refused for its own shape, and whatever is nested in it is
not. -/
theorem realize_eq_notObjectShaped_iff {levels : Nat} {progress : Progress} {pointer : String} :
    generator.realize (levels + 1) request progress =
        .error (.resolution pointer .notObjectShaped) ↔
      request.schema.IsUnshaped ∧ request.pointer = pointer := by
  constructor
  · intro hrealize
    obtain ⟨hschema, hsame⟩ := (ends_realize _ _ _).error _ hrealize ⟨pointer, rfl⟩
    cases hsame
    exact ⟨hschema, rfl⟩
  · rintro ⟨hschema, rfl⟩
    have hmerged : generator.mergedSchema request = .ok request.schema := by
      rw [mergedSchema, hschema.allOf]
      rfl
    have hprepare : generator.prepare request =
        .error (.resolution request.pointer .notObjectShaped) := by
      have hshape : (!request.schema.isObjectShaped) = true := by
        rw [hschema.not_isObjectShaped]
        rfl
      rw [prepare, hschema.enumeration, hmerged]
      exact if_pos hshape
    rw [realize_succ, realizeStep, hprepare]
    rfl

end Generator

/-! ## Definitions -/

/-- The pointer of a definition tells its schema. -/
theorem Definition.schema_eq_of_pointer_eq {document : Json} (hdistinct : document.KeysDistinct)
    {definition other : Definition} (hdefinition : definition ∈ collect document)
    (hother : other ∈ collect document) (hpointer : definition.pointer = other.pointer) :
    definition.schema = other.schema := by
  let lookup : Lookup := { (default : Lookup) with root := document, external := [] }
  obtain ⟨path, -, hat⟩ := exists_isAt_of_mem_collect hdistinct hdefinition
  obtain ⟨otherPath, -, hotherAt⟩ := exists_isAt_of_mem_collect hdistinct hother
  have hschema : lookup.schema? definition.pointer = some definition.schema :=
    hat.schema?_eq rfl rfl
  have hotherSchema : lookup.schema? other.pointer = some other.schema :=
    hotherAt.schema?_eq rfl rfl
  rw [hpointer, hotherSchema] at hschema
  exact (Option.some.inj hschema).symm

theorem Definition.pointer_ne_root {document : Json} {definition : Definition}
    (hdefinition : definition ∈ collect document) : definition.pointer ≠ Pointer.root := by
  intro hroot
  obtain ⟨-, -, hpath⟩ := at?_eq_some (declared_of_mem_collect hdefinition).named
  rw [hroot] at hpath
  cases hpath

/-- A definition of another shape becomes no type. -/
theorem ReferencedType.path?_ofDefinition_of_isUnshaped {schema : Json}
    (hschema : schema.IsUnshaped) (pointer : String) (path : TypePath)
    (enumsSupported boxed : Bool) :
    (ofDefinition pointer path schema enumsSupported boxed).path? = none := by
  rw [ofDefinition, hschema.enumeration, hschema.not_isClassShaped, hschema.allOf]
  rfl

/-! ## Whole runs -/

namespace Generation

variable {generation : Generation}

variable (generation) in
/-- References to the definition are mapped to an existing type, at the path of the type that the
definition itself would become. -/
def IsMappedToItself (definition : Definition) : Prop :=
  generation.targets.external.lookup definition.pointer =
    some (generation.requestOf definition).path

variable (generation) in
/-- Realizes some of the definitions. -/
def realizeDefinitions (definitions : List Definition) : Except GenerationError Progress :=
  (definitions.filterMap (definitionRequest? generation.targets generation.options)).foldlM
    (fun progress request =>
      generation.generator.realize (generation.options.maxDepth + 1) request progress)
    .empty

theorem definitionRequest?_eq_some {definition : Definition} {request : ClassRequest} :
    definitionRequest? generation.targets generation.options definition = some request ↔
      (generation.targets.find definition.pointer).path? =
          some (generation.requestOf definition).path ∧
        generation.requestOf definition = request := by
  unfold definitionRequest?
  dsimp only
  rw [Option.ite_none_right_eq_some, beq_iff_eq, Option.some.injEq]
  rfl

/-- A definition that is not to become a type is requested only by way of a mapping. -/
theorem path?_find_eq_iff (hdistinct : generation.document.KeysDistinct) {definition : Definition}
    (hdefinition : definition ∈ generation.definitions) (hschema : definition.schema.IsUnshaped) :
    (generation.targets.find definition.pointer).path? =
        some (generation.requestOf definition).path ↔ generation.IsMappedToItself definition := by
  unfold IsMappedToItself Lookup.find
  cases hexternal : generation.targets.external.lookup definition.pointer with
  | some path => exact Iff.rfl
  | none =>
      have hroot : (definition.pointer == Pointer.root) = false := by
        simpa using Definition.pointer_ne_root hdefinition
      -- a definition that is not mapped is found as what it is, and this one is no type
      refine iff_of_false ?_ nofun
      dsimp only
      rw [if_neg (by simp [hroot])]
      cases hlookup : generation.targets.definitions.lookup definition.pointer with
      | none => exact nofun
      | some found =>
          obtain ⟨before, after, hsplit, -⟩ := List.lookup_eq_some_iff.mp hlookup
          have hmember : (definition.pointer, found) ∈ generation.targets.definitions := by
            rw [hsplit]
            simp
          obtain ⟨other, hother, hsame⟩ := List.mem_map.mp hmember
          obtain ⟨hpointer, rfl⟩ := Prod.mk.inj hsame
          rw [Option.getD_some, ReferencedType.path?_ofDefinition_of_isUnshaped]
          · exact nofun
          · rwa [Definition.schema_eq_of_pointer_eq hdistinct hother hdefinition hpointer]

/-- Files that cannot be written are no failure of a schema. -/
theorem run_eq_notObjectShaped_iff_realizeAll {pointer : String} :
    generation.run = .error (.resolution pointer .notObjectShaped) ↔
      generation.realizeAll generation.targets generation.definitions =
        .error (.resolution pointer .notObjectShaped) := by
  have hfile : ∀ file, Ends (writeFile generation.sourcePath file) (fun _ => True)
      (¬·.IsShapeless) := by
    intro file
    refine (Generator.ends_checkIdentifiers file.code).bind fun _ _ _ => ?_
    split
    · exact .of_ok trivial
    · refine .of_error ?_
      rintro ⟨pointer, hsame⟩
      cases hsame
  have hfiles : ∀ progress, Ends
      ((generation.fileUnits progress).mapM (writeFile generation.sourcePath)) (fun _ => True)
      (¬·.IsShapeless) :=
    fun progress => (Ends.mapM fun file _ => hfile file).mono (fun _ _ => trivial) (fun _ => id)
  -- so the failure comes before the files
  constructor
  · intro hrun
    rcases bind_eq_error.mp hrun with hrealize | ⟨progress, -, hlater⟩
    · exact hrealize
    · rcases bind_eq_error.mp hlater with hwrite | ⟨written, -, hdone⟩
      · exact absurd ⟨pointer, rfl⟩ ((hfiles progress).error _ hwrite)
      · cases hdone
  · exact fun hrealize => bind_eq_error.mpr (.inl hrealize)

/-- A definition without the shape of a type is realized, since it is mapped to itself. -/
structure IsMisled (generation : Generation) (definition : Definition) : Prop where
  shape : definition.schema.IsUnshaped
  mapped : generation.IsMappedToItself definition
  /-- The definitions before it are realized. -/
  reached : ∃ earlier later progress,
    generation.definitions = earlier ++ definition :: later ∧
      generation.realizeDefinitions earlier = .ok progress

/-- The root gives no type, and there are no definitions. -/
structure IsBare (generation : Generation) : Prop where
  shape : generation.document.IsUnshaped
  definitions : generation.definitions = []

/-- A definition is refused for its shape when it is mapped to itself. -/
theorem realizeDefinitions_eq_notObjectShaped_iff (hdistinct : generation.document.KeysDistinct)
    {pointer : String} :
    generation.realizeDefinitions generation.definitions =
        .error (.resolution pointer .notObjectShaped) ↔
      ∃ definition, generation.IsMisled definition ∧ pointer = definition.pointer := by
  rw [realizeDefinitions, foldlM_eq_error]
  constructor
  · rintro ⟨before, request, after, progress, hrequests, hbefore, hrefused⟩
    obtain ⟨hschema, rfl⟩ := Generator.realize_eq_notObjectShaped_iff.mp hrefused
    -- the requests before the refused one come from definitions before it, of which those in
    -- between ask for nothing
    obtain ⟨earlier, rest, hdefinitions, hearlier, hrest⟩ :=
      List.filterMap_eq_append_iff.mp hrequests
    obtain ⟨skipped, definition, later, rfl, hskipped, hrequest, -⟩ :=
      List.filterMap_eq_cons_iff.mp hrest
    have hmember : definition ∈ generation.definitions := by
      rw [hdefinitions]
      simp
    obtain ⟨hfind, rfl⟩ := definitionRequest?_eq_some.mp hrequest
    have hdone : generation.realizeDefinitions (earlier ++ skipped) = .ok progress := by
      rw [realizeDefinitions, List.filterMap_append, List.filterMap_eq_nil_iff.mpr hskipped,
        List.append_nil, hearlier]
      exact hbefore
    exact ⟨definition,
      { shape := hschema
        mapped := (path?_find_eq_iff hdistinct hmember hschema).mp hfind
        reached := ⟨earlier ++ skipped, later, progress, by
          rw [hdefinitions, List.append_assoc], hdone⟩ }, rfl⟩
  · rintro ⟨definition, ⟨hschema, hmapped, earlier, later, progress, hdefinitions, hdone⟩, rfl⟩
    have hmember : definition ∈ generation.definitions := by
      rw [hdefinitions]
      simp
    have hrequest := definitionRequest?_eq_some.mpr
      ⟨(path?_find_eq_iff hdistinct hmember hschema).mpr hmapped, rfl⟩
    have hsplit := congrArg
      (List.filterMap (definitionRequest? generation.targets generation.options)) hdefinitions
    rw [List.filterMap_append, List.filterMap_cons_some hrequest] at hsplit
    exact ⟨_, _, _, progress, hsplit, hdone,
      Generator.realize_eq_notObjectShaped_iff.mpr ⟨hschema, rfl⟩⟩

theorem isRealizableRoot_of_isUnshaped (hdocument : generation.document.IsUnshaped) :
    isRealizableRoot generation.document generation.definitions =
      generation.definitions.isEmpty := by
  simp [isRealizableRoot, hdocument.not_isObjectShaped, hdocument.allOf, hdocument.enumeration]

/-- **Schemas that are refused for their shape** are the root of a bare document, and definitions
that are mapped to themselves. -/
theorem run_eq_notObjectShaped_iff (hdistinct : generation.document.KeysDistinct)
    {pointer : String} :
    generation.run = .error (.resolution pointer .notObjectShaped) ↔
      generation.IsBare ∧ pointer = Pointer.root ∨
        ∃ definition, generation.IsMisled definition ∧ pointer = definition.pointer := by
  rw [run_eq_notObjectShaped_iff_realizeAll]
  refine bind_eq_error.trans (or_comm.trans (or_congr ?_
    (realizeDefinitions_eq_notObjectShaped_iff hdistinct)))
  constructor
  · rintro ⟨progress, -, hroot⟩
    split at hroot
    · rename_i hrealizable
      obtain ⟨hdocument, rfl⟩ := Generator.realize_eq_notObjectShaped_iff.mp hroot
      rw [isRealizableRoot_of_isUnshaped hdocument, List.isEmpty_iff] at hrealizable
      exact ⟨⟨hdocument, hrealizable⟩, rfl⟩
    · cases hroot
  · rintro ⟨⟨hdocument, hnone⟩, rfl⟩
    have hrealizable : isRealizableRoot generation.document generation.definitions = true := by
      rw [isRealizableRoot_of_isUnshaped hdocument, hnone]
      rfl
    refine ⟨.empty, by rw [hnone]; rfl, ?_⟩
    rw [if_pos hrealizable]
    exact Generator.realize_eq_notObjectShaped_iff.mpr ⟨hdocument, rfl⟩

/-! ## The root and nothing else -/

/-- No schema is refused for its shape but the root of a bare document, and this one is. -/
def OnlyRootUnshaped (generation : Generation) : Prop :=
  ∀ pointer, generation.run = .error (.resolution pointer .notObjectShaped) ↔
    generation.IsBare ∧ pointer = Pointer.root

/-- **Only the root is refused for its shape** exactly if no definition is mapped to itself that
gives no type. -/
theorem onlyRootUnshaped_iff (hdistinct : generation.document.KeysDistinct) :
    generation.OnlyRootUnshaped ↔ ∀ definition, ¬generation.IsMisled definition := by
  constructor
  · intro honly definition hmisled
    have hrun := (run_eq_notObjectShaped_iff hdistinct).mpr (.inr ⟨definition, hmisled, rfl⟩)
    obtain ⟨⟨-, hnone⟩, -⟩ := (honly definition.pointer).mp hrun
    obtain ⟨earlier, later, -, hdefinitions, -⟩ := hmisled.reached
    rw [hnone] at hdefinitions
    simp at hdefinitions
  · intro hnone pointer
    rw [run_eq_notObjectShaped_iff hdistinct]
    exact or_iff_left fun ⟨definition, hmisled, _⟩ => hnone definition hmisled

end Generation

end

namespace Generation

attribute [local instance] Spelling.plain

/-- A definition of strings that is mapped to an existing type. -/
def mappedStrings (path : TypePath) : Generation where
  document := .object [("definitions", .object [
    ("A", .object [("type", .string "string")])])]
  rootName := "Root"
  external := [("#/definitions/A", path)]

theorem onlyRootUnshaped_mappedStrings :
    (mappedStrings ⟨["crate", "names"], "Name"⟩).document.KeysDistinct ∧
      (∀ definition, ¬(mappedStrings ⟨["crate", "names"], "Name"⟩).IsMisled definition) ∧
      (mappedStrings ⟨["crate", "names"], "Name"⟩).OnlyRootUnshaped := by
  let generation := mappedStrings ⟨["crate", "names"], "Name"⟩
  have hdistinct : generation.document.KeysDistinct := by simp [generation, mappedStrings]
  have hnone : ∀ definition, ¬generation.IsMisled definition := by
    intro definition hmisled
    obtain ⟨earlier, later, -, hdefinitions, -⟩ := hmisled.reached
    have hmember : definition ∈ generation.definitions := by
      rw [hdefinitions]
      simp
    have hunmapped : ∀ definition ∈ generation.definitions,
        generation.targets.external.lookup definition.pointer ≠
          some (generation.requestOf definition).path := by
      decide +kernel
    exact hunmapped definition hmember hmisled.mapped
  exact ⟨hdistinct, hnone, (onlyRootUnshaped_iff hdistinct).mpr hnone⟩

set_option maxRecDepth 10000 in
theorem not_onlyRootUnshaped_mappedStrings :
    ¬(mappedStrings ⟨["crate", "definitions"], "A"⟩).OnlyRootUnshaped := by
  intro honly
  have hcheck : (match (mappedStrings ⟨["crate", "definitions"], "A"⟩).run with
      | .ok _ => false
      | .error error => decide (error =
          .resolution "#/definitions/A" .notObjectShaped)) = true := by
    decide +kernel
  split at hcheck
  · cases hcheck
  · rename_i error hrun
    rw [of_decide_eq_true hcheck] at hrun
    have hroot := ((honly _).mp hrun).2
    exact absurd hroot (by decide)

end Generation

end SchemaTypes
