import SchemaTypes.Proofs.Generation.Closure
import SchemaTypes.Proofs.Generation.Origin
import SchemaTypes.Proofs.Name.Growth
import SchemaTypes.Proofs.Property.Names

/-!
# Types of a property and the struct that has it

The types that a property needs lie next to the struct that has the property, and so do all types
that are emitted along with them.  Their names start with the name of the struct.  Names grow on the
way down, so that the struct is safe from all of them once the first name has grown.

The first name does not grow where the key has no letters and digits, the name of the struct is
finished, and the property stands for a type of its own.  This type takes the place of the struct.

* `NamedBy.exists_word`: how a needed type is named.
* `exists_path_eq_iff`: when a property needs a type with the path of its struct.
* `Generator.growsFrom_of_mem_emissions`: what a request emits has a name that has grown.
* `owner_replaced_iff`: when realizing a property leaves the struct alone.
-/

namespace SchemaTypes

open Outcome Resolve Name

/-! ## Types with the path of the struct -/

namespace Property

/-- The property stands for a type of its own; the types of items and entries do not count. -/
def isOwnType : Property → Bool
  | .nestedObject _ | .intersection _ | .enumeration _ | .union _ _ _ => true
  | .nullable inner => inner.isOwnType
  | .scalar _ | .collection _ _ _ | .reference _ | .dynamic _ _ | .mixed => false

theorem isOwnType_withNull (context : Context) (node : Json) (property : Property) :
    (withNull context node property).isOwnType = property.isOwnType := by
  unfold withNull orNull
  split
  · split
    · rfl
    · rfl
  · rfl

theorem isOwnType_referenceProperty (context : Context) (node : Json) :
    (referenceProperty context node).isOwnType = false := by
  unfold referenceProperty
  split
  · rfl
  · split
    · split
      · rfl
      · rfl
    · rfl

end Property

section

variable [Spelling]

/-- A type of a property that is not called like the property itself. -/
def MintedType.IsInside (request : ClassRequest) (key suffix : String) (minted : MintedType) :
    Prop :=
  ∃ word, word ≠ "" ∧ minted.path = request.pathFor key (suffix ++ word)

theorem NamedBy.exists_word {request : ClassRequest} {key suffix : String}
    {types : List MintedType} {words : List String}
    (htypes : NamedBy request key suffix types words) {minted : MintedType}
    (hminted : minted ∈ types) :
    ∃ word ∈ words, minted.path = request.pathFor key (suffix ++ word) := by
  have hpath : minted.path ∈ types.map MintedType.path := List.mem_map_of_mem hminted
  rw [htypes.paths] at hpath
  obtain ⟨word, hword, hsame⟩ := List.mem_map.mp hpath
  exact ⟨word, hword, hsame.symm⟩

section

variable {context : Context} {request : ClassRequest} {key suffix pointer : String} {node : Json}
  {property : Property}

theorem exists_word_of_resolveNode
    (hresult : resolveNode context request key suffix node pointer = .ok property)
    {minted : MintedType} (hminted : minted ∈ property.needed) :
    ∃ word, minted.path = request.pathFor key (suffix ++ word) := by
  obtain ⟨words, hwords⟩ := isNamed_resolveNode hresult
  obtain ⟨word, -, hpath⟩ := hwords.exists_word hminted
  exact ⟨word, hpath⟩

/-- Below a step, types have longer names. -/
theorem isInside_of_step {step : String} (hstep : step ≠ "")
    (hresult : resolveNode context request key (suffix ++ step) node pointer = .ok property)
    {minted : MintedType} (hminted : minted ∈ property.needed) :
    minted.IsInside request key suffix := by
  obtain ⟨word, hpath⟩ := exists_word_of_resolveNode hresult hminted
  refine ⟨step ++ word, ?_, by rw [hpath, String.append_assoc]⟩
  rw [Ne, String.append_eq_empty_iff, not_and]
  exact fun hnone => absurd hnone hstep

theorem isInside_of_resolveBranches {entries : List (String × Json)}
    {branches : List (Branch Property)}
    (hresult : resolveBranches context request key suffix pointer 1 entries = .ok branches)
    {minted : MintedType} (hminted : minted ∈ neededByBranches branches) :
    minted.IsInside request key suffix := by
  obtain ⟨words, hwords, hnumbered⟩ :=
    namedBy_resolveBranches (fun _ _ _ _ _ => isNamed_resolveNode) hresult
  obtain ⟨word, hword, hpath⟩ := hwords.exists_word hminted
  refine ⟨word, ?_, hpath⟩
  rintro rfl
  exact absurd ((hnumbered _ hword).head? (by simp)) (by simp)

/-- A property that stands for a type needs this type, under the suffix at hand.  All types that
another property needs are inside of it. -/
theorem own_or_inside
    (hresult : resolveNode context request key suffix node pointer = .ok property) :
    if property.isOwnType then
      ∃ minted ∈ property.needed, minted.path = request.pathFor key suffix
    else ∀ minted ∈ property.needed, minted.IsInside request key suffix := by
  obtain ⟨own, hstep, rfl⟩ := resolutionStep_of_resolveNode hresult
  rw [Property.isOwnType_withNull, Property.needed_withNull]
  cases hstep with
  | reference hkind =>
      rw [Property.isOwnType_referenceProperty, needed_referenceProperty]
      exact List.forall_mem_nil _
  | intersection hkind hmerged => exact ⟨_, List.mem_cons_self, rfl⟩
  | union hkind halternatives =>
      unfold unionProperty
      split
      · exact List.forall_mem_nil _
      · split
        · exact List.forall_mem_nil _
        · exact ⟨_, List.mem_cons_self, rfl⟩
  | enumeration hkind hdefinition => exact ⟨_, List.mem_cons_self, rfl⟩
  | collection hkind hcollection hitem =>
      exact fun minted hminted => isInside_of_step (by decide) hitem hminted
  | nestedObject hkind => exact ⟨_, List.mem_cons_self, rfl⟩
  | @dynamic patterned others hkind hpatterned hothers =>
      intro minted hminted
      rw [Property.needed, neededByBranches_eq, List.flatMap_append, ← neededByBranches_eq,
        ← neededByBranches_eq] at hminted
      -- the entry type itself comes first, then the types of branches by pattern, and that of the
      -- branch for other keys last
      rcases List.mem_cons.mp hminted with rfl | hbranch
      · exact ⟨"Entry", by decide, rfl⟩
      · rcases List.mem_append.mp hbranch with hpattern | hother
        · exact isInside_of_resolveBranches hpatterned hpattern
        · rcases hothers with rfl | ⟨additional, own, -, hown, rfl⟩
          · cases hother
          · rw [neededByBranches, neededByBranches, List.append_nil] at hother
            exact isInside_of_step (by decide) hown hother
  | dateTime | string | primitive | mixed => exact List.forall_mem_nil _

end

section

variable {request : ClassRequest} {key suffix : String}

theorem pathFor_eq_path_iff :
    request.pathFor key suffix = request.path ↔
      IsUnlabelled key ∧ suffix = "" ∧ IsFinished request.typeName := by
  rw [← typeNameFor_eq_iff]
  constructor
  · exact congrArg TypePath.name
  · intro hname
    exact congrArg (TypePath.inNamespace request.moduleRoot request.namespace) hname

/-- The key adds nothing to the name of the struct, and the property stands for a type. -/
structure TakesName (request : ClassRequest) (key : String) (property : Property) : Prop where
  key : IsUnlabelled key
  parent : IsFinished request.typeName
  own : property.isOwnType = true

/-- **Types with the path of the struct.** -/
theorem exists_path_eq_iff {context : Context} {node : Json} {pointer : String}
    {property : Property}
    (hresult : resolveNode context request key "" node pointer = .ok property) :
    (∃ minted ∈ property.needed, minted.path = request.path) ↔ TakesName request key property := by
  have hown := own_or_inside hresult
  constructor
  · rintro ⟨minted, hminted, hsame⟩
    obtain ⟨word, hpath⟩ := exists_word_of_resolveNode hresult hminted
    obtain ⟨hkey, -, hparent⟩ := pathFor_eq_path_iff.mp (hpath.symm.trans hsame)
    refine ⟨hkey, hparent, ?_⟩
    by_contra hinside
    rw [if_neg hinside] at hown
    obtain ⟨longer, hlonger, hpath⟩ := hown minted hminted
    obtain ⟨-, hnone, -⟩ := pathFor_eq_path_iff.mp (hpath.symm.trans hsame)
    rw [String.empty_append] at hnone
    exact hlonger hnone
  · rintro ⟨hkey, hparent, hproperty⟩
    rw [if_pos hproperty] at hown
    obtain ⟨minted, hminted, hpath⟩ := hown
    exact ⟨minted, hminted, hpath.trans (pathFor_eq_path_iff.mpr ⟨hkey, rfl, hparent⟩)⟩

end

/-! ## Names grow on the way down -/

namespace TypePath

/-- A path in the same place, with the same name or a longer one. -/
structure GrowsFrom (path base : TypePath) : Prop where
  modules : path.modules = base.modules
  name : path.name = base.name ∨ base.name.length < path.name.length

namespace GrowsFrom

variable {path base root : TypePath}

omit [Spelling] in
theorem refl (path : TypePath) : path.GrowsFrom path := ⟨rfl, .inl rfl⟩

omit [Spelling] in
theorem trans (hpath : path.GrowsFrom base) (hbase : base.GrowsFrom root) :
    path.GrowsFrom root where
  modules := hpath.modules.trans hbase.modules
  name := by
    rcases hpath.name with hsame | hlonger
    · rw [hsame]
      exact hbase.name
    · rcases hbase.name with hsame | hlonger'
      · rw [← hsame]
        exact .inr hlonger
      · exact .inr (hlonger'.trans hlonger)

omit [Spelling] in
/-- **A name that has grown stays apart.** -/
theorem ne (hpath : path.GrowsFrom base) (hbase : base.GrowsFrom root) (hne : base ≠ root) :
    path ≠ root := by
  have hgrown : root.name.length < base.name.length := by
    refine hbase.name.resolve_left fun hsame => hne ?_
    obtain ⟨modules, name⟩ := base
    obtain rfl : modules = root.modules := hbase.modules
    obtain rfl : name = root.name := hsame
    rfl
  rintro rfl
  rcases hpath.name with hsame | hlonger
  · rw [hsame] at hgrown
    omega
  · omega

end GrowsFrom

end TypePath

theorem ClassRequest.growsFrom_pathFor (request : ClassRequest) (key suffix : String) :
    (request.pathFor key suffix).GrowsFrom request.path :=
  ⟨rfl, typeNameFor_eq_or_length_lt request.typeName key suffix⟩

namespace Generator

variable {generator : Generator} {request : ClassRequest} {levels : Nat} {pointer : String}
  {property : Property} {progress result : Progress}

/-- **What a request emits** lies where the request lies, and its name starts from there. -/
theorem growsFrom_of_mem_emissions {emission : Emission}
    (hemission : emission ∈ generator.emissions levels request) :
    emission.path.GrowsFrom request.path := by
  have hcases : ∀ (own : ClassRequest) (schema : Json), own.path.GrowsFrom request.path →
      NodeCases generator.context { own with schema } (fun _ => True) (fun _ => True)
        (fun other => other.path.GrowsFrom request.path) (·.GrowsFrom request.path) := by
    intro own schema hown
    have hname : ∀ key suffix, (own.pathFor key suffix).GrowsFrom request.path :=
      fun key suffix => (own.growsFrom_pathFor key suffix).trans hown
    exact {
      reference := fun _ _ _ _ => trivial
      items := fun _ _ _ _ _ => trivial
      alternatives := fun _ _ _ _ => trivial
      patterns := fun _ _ _ _ => trivial
      additional := fun _ _ _ _ => trivial
      path := hname
      nested := fun _ key suffix _ _ => hname key suffix
      merged := fun _ _ key suffix _ _ _ => hname key suffix }
  rcases (resolved_of_mem_emissions
    (fun _ _ _ => resolved_of_prepare hcases (fun _ _ _ _ _ _ => trivial))
    (.refl request.path) hemission).2 with ⟨own, hown, hprepare⟩ | ⟨-, hplace⟩
  · rw [(prepare_path hprepare).1]
    exact hown
  · exact hplace

/-- Realizing a property inserts a unit for each type that is emitted along with it. -/
theorem realizeProperty_steps
    (hresult : generator.realizeProperty (generator.realize levels) pointer property progress =
      .ok result) :
    Steps generator (property.needed.flatMap (emitNeeded (generator.emissions levels))) progress
      result := by
  rw [realizeProperty_eq] at hresult
  refine Steps.foldlM (fun minted _ earlier later hstep => ?_) hresult
  cases minted with
  | struct nested => exact generator.realize_steps hstep
  | enumeration | union | dynamic => exact generator.collect_steps hstep

/-- Each type that a property needs is emitted. -/
theorem exists_emission_of_realizeProperty
    (hresult : generator.realizeProperty (generator.realize levels) pointer property progress =
      .ok result) {minted : MintedType} (hminted : minted ∈ property.needed) :
    ∃ emission ∈ emitNeeded (generator.emissions levels) minted, emission.path = minted.path := by
  rw [realizeProperty_eq] at hresult
  obtain ⟨earlier, later, hstep⟩ := exists_step_of_foldlM hresult hminted
  cases minted with
  | struct nested =>
      have hrealized : generator.realize levels nested earlier = .ok later := hstep
      cases levels with
      | zero => cases hrealized
      | succ levels =>
          rw [realize_succ, realizeStep_eq_ok] at hrealized
          obtain ⟨emission, hprepare, -⟩ := hrealized
          refine ⟨emission, ?_, (prepare_path hprepare).1⟩
          rw [emitNeeded, emissions, hprepare]
          exact List.mem_cons_self
  | enumeration | union | dynamic => exact ⟨_, List.mem_cons_self, rfl⟩

end Generator

/-! ## The unit of the struct -/

section

variable {generator : Generator} {emissions : List Emission} {progress result : Progress}
  {path : TypePath}

omit [Spelling] in
/-- Replacing what stands at one path leaves what stands at another one alone. -/
theorem lookup_map_of_ne {own : TypePath} (hown : own ≠ path) (unit : TypeUnit)
    (units : List (TypePath × TypeUnit)) :
    (units.map fun (entry : TypePath × TypeUnit) =>
      if entry.1 == own then (own, unit) else entry).lookup path = units.lookup path := by
  have hother : (path == own) = false := beq_eq_false_iff_ne.mpr hown.symm
  induction units with
  | nil => rfl
  | cons entry rest ih =>
      rw [List.map_cons]
      by_cases hsame : entry.1 = own
      · rw [if_pos (beq_iff_eq.mpr hsame), List.lookup_cons, hother, ih, List.lookup_cons, hsame,
          hother]
      · rw [if_neg (by simpa using hsame), List.lookup_cons, ih, List.lookup_cons]

omit [Spelling] in
/-- A unit with another path leaves the unit at a path alone. -/
theorem Progress.lookup_insert_of_ne {unit : TypeUnit} (hpath : unit.path ≠ path)
    (pointer : String) :
    (progress.insert pointer unit).units.lookup path = progress.units.lookup path := by
  by_cases htaken : unit.path ∈ progress.units.map (·.1)
  · rw [insert_of_mem htaken]
    exact lookup_map_of_ne hpath unit progress.units
  · have hother : (path == unit.path) = false := beq_eq_false_iff_ne.mpr hpath.symm
    rw [insert_of_not_mem htaken]
    change (progress.units ++ [(unit.path, unit)]).lookup path = _
    rw [List.lookup_append, List.lookup_cons, hother, List.lookup_nil, Option.or_none]

theorem Steps.lookup_eq (hsteps : Steps generator emissions progress result)
    (hpaths : ∀ emission ∈ emissions, emission.path ≠ path) :
    result.units.lookup path = progress.units.lookup path := by
  induction hsteps with
  | refl progress => rfl
  | warn pointer default _ ih => exact ih hpaths
  | insert emission pointer _ ih =>
      rw [List.forall_mem_cons] at hpaths
      rw [ih hpaths.2]
      refine Progress.lookup_insert_of_ne ?_ pointer
      rw [Emission.unit_path]
      exact hpaths.1

/-- A type with a path that is taken shows in the warnings. -/
theorem Steps.exists_collision (hsteps : Steps generator emissions progress result)
    (htaken : path ∈ progress.units.map (·.1))
    (hemitted : ∃ emission ∈ emissions, emission.path = path) :
    ∃ pointer, .typeNameCollision path pointer ∈ result.warnings := by
  induction hsteps with
  | refl progress =>
      obtain ⟨emission, hemission, -⟩ := hemitted
      cases hemission
  | warn pointer default _ ih => exact ih htaken hemitted
  | @insert emissions progress result emission pointer hrest ih =>
      by_cases hsame : emission.path = path
      · -- the type comes now, and later steps keep the warning
        subst hsame
        refine ⟨pointer, hrest.collects.warnings.subset ?_⟩
        rw [← Emission.unit_path generator] at htaken
        rw [Progress.insert_of_mem htaken, Emission.unit_path]
        exact List.mem_append_right _ List.mem_cons_self
      · -- paths that are taken stay taken until it comes
        refine ih ?_ ?_
        · rw [Progress.paths_insert]
          split
          · exact htaken
          · exact List.mem_append_left _ htaken
        · obtain ⟨other, hother, hpath⟩ := hemitted
          rcases List.mem_cons.mp hother with rfl | hlater
          · exact absurd hpath hsame
          · exact ⟨other, hlater, hpath⟩

end

/-- What is emitted for a type stays apart from the struct when the type itself does. -/
theorem path_ne_of_mem_emitNeeded {generator : Generator} {levels : Nat} {minted : MintedType}
    {owner : TypePath} (hgrows : minted.path.GrowsFrom owner) (hne : minted.path ≠ owner)
    {emission : Emission}
    (hemission : emission ∈ Generator.emitNeeded (generator.emissions levels) minted) :
    emission.path ≠ owner := by
  cases minted with
  | struct nested =>
      exact (Generator.growsFrom_of_mem_emissions hemission).ne hgrows hne
  | enumeration | union | dynamic =>
      obtain rfl := List.mem_singleton.mp hemission
      exact hne

omit [Spelling] in
theorem FieldProperty.isOwnType_inner_decorate (property : Property) (required : Bool)
    (default : Option Json) (nullableDefaults : Bool) :
    (decorate property required default nullableDefaults).inner.isOwnType =
      property.isOwnType := by
  rcases inner_decorate property required default nullableDefaults with hinner | hinner
  · exact congrArg Property.isOwnType hinner.symm
  · exact (congrArg Property.isOwnType hinner).symm

/-- **Structs and the types of their properties.**  A property needs a type with the path of the
struct that has it exactly if the key has no letters and digits, the name of the struct is finished,
and the property stands for a type of its own.  Then a warning tells that the unit of the struct is
replaced.  Otherwise, realizing the property leaves this unit alone, however deep the types of the
property are nested. -/
theorem owner_replaced_iff {context : Context} {request : ClassRequest} {key : String} {node : Json}
    {required : Bool} {field : FieldProperty}
    (hresult : resolveField context request key node required = .ok field) :
    ((∃ minted ∈ field.inner.needed, minted.path = request.path) ↔
        TakesName request key field.inner) ∧
      ∀ (generator : Generator) (levels : Nat) (pointer : String) (progress result : Progress),
        generator.realizeProperty (generator.realize levels) pointer field.inner progress =
            .ok result →
          (¬TakesName request key field.inner →
            result.units.lookup request.path = progress.units.lookup request.path) ∧
          (TakesName request key field.inner → request.path ∈ progress.units.map (·.1) →
            ∃ replacing, .typeNameCollision request.path replacing ∈ result.warnings) := by
  obtain ⟨property, hproperty, hfield⟩ := bind_eq_ok.mp hresult
  obtain rfl := pure_eq_ok.mp hfield
  set inner := (FieldProperty.decorate property required node.defaultValue?
    context.options.treatDefaultedAsOptional).inner
  -- presence takes null away at most, which changes neither the types that are needed nor the own
  -- one
  have hneeded : inner.needed = property.needed := FieldProperty.needed_inner_decorate ..
  have hown : inner.isOwnType = property.isOwnType := FieldProperty.isOwnType_inner_decorate ..
  have htakes : TakesName request key property ↔ TakesName request key inner := by
    constructor
    · exact fun htakes => ⟨htakes.key, htakes.parent, hown.trans htakes.own⟩
    · exact fun htakes => ⟨htakes.key, htakes.parent, hown.symm.trans htakes.own⟩
  have hiff : (∃ minted ∈ inner.needed, minted.path = request.path) ↔
      TakesName request key inner := by
    rw [hneeded, exists_path_eq_iff hproperty, htakes]
  refine ⟨hiff, fun generator levels pointer progress result hrealized => ?_⟩
  have hsteps := Generator.realizeProperty_steps hrealized
  rw [← hiff]
  constructor
  · intro hfree
    -- names grow on the way down, so what is nested in a minted type is not named like the parent
    -- either
    refine hsteps.lookup_eq fun emission hemission => ?_
    obtain ⟨minted, hminted, hemitted⟩ := List.mem_flatMap.mp hemission
    obtain ⟨word, hpath⟩ := exists_word_of_resolveNode hproperty (hneeded ▸ hminted)
    exact path_ne_of_mem_emitNeeded (hpath ▸ request.growsFrom_pathFor key _)
      (fun hsame => hfree ⟨minted, hminted, hsame⟩) hemitted
  · rintro ⟨minted, hminted, hsame⟩ htaken
    obtain ⟨emission, hemitted, hpath⟩ :=
      Generator.exists_emission_of_realizeProperty hrealized hminted
    exact hsteps.exists_collision htaken
      ⟨emission, List.mem_flatMap.mpr ⟨minted, hminted, hemitted⟩, hpath.trans hsame⟩

end

attribute [local instance] Spelling.plain

set_option maxRecDepth 10000 in
/-- The struct is left alone by the types of a property with a key that has letters. -/
theorem owner_kept_severalTypes :
    ∃ field,
      resolveField severalTypesContext severalTypesOwner "p" severalTypes false = .ok field ∧
        field.inner.needed.length = 6 ∧
        (∀ minted ∈ field.inner.needed, minted.path ≠ severalTypesOwner.path) ∧
        ∀ (generator : Generator) (levels : Nat) (pointer : String) (progress result : Progress),
          generator.realizeProperty (generator.realize levels) pointer field.inner progress =
              .ok result →
            result.units.lookup severalTypesOwner.path =
              progress.units.lookup severalTypesOwner.path := by
  have hcheck : (resolveField severalTypesContext severalTypesOwner "p" severalTypes
      false).toOption.any (fun field => field.inner.needed.length == 6) = true := by
    decide +kernel
  have hkey : ¬IsUnlabelled "p" := by decide
  obtain ⟨field, hresult, hlength⟩ := exists_ok_of_any hcheck
  have hfree : ¬TakesName severalTypesOwner "p" field.inner := fun htakes => hkey htakes.key
  obtain ⟨hiff, hrealized⟩ := owner_replaced_iff hresult
  refine ⟨field, hresult, eq_of_beq hlength, fun minted hminted hsame => ?_, ?_⟩
  · exact hfree (hiff.mp ⟨minted, hminted, hsame⟩)
  · intro generator levels pointer progress result hresult
    exact (hrealized generator levels pointer progress result hresult).1 hfree

/-- A property with an empty key and a struct of its own. -/
def emptyKey : Generation where
  document := .object [("type", .string "object"),
    ("properties", .object [("", .object [("type", .string "object")])])]
  rootName := "Root"

/-- The request for the struct that has this property. -/
def emptyKeyOwner : ClassRequest :=
  Generation.rootRequest emptyKey.document emptyKey.rootName emptyKey.options

set_option maxRecDepth 10000 in
/-- The struct of this property takes the place of the struct that has the property. -/
theorem owner_lost_emptyKey :
    ∃ field output,
      resolveField emptyKey.generator.context emptyKeyOwner ""
          (.object [("type", .string "object")]) false = .ok field ∧
        field.inner.needed.map MintedType.path = [emptyKeyOwner.path] ∧
      emptyKey.run = .ok output ∧ output.types.map (·.path) = [emptyKeyOwner.path] ∧
        output.stats.warnings.countP (·.isCollision) = 1 := by
  have hfield : (resolveField emptyKey.generator.context emptyKeyOwner ""
      (.object [("type", .string "object")]) false).toOption.any (fun field =>
        decide (field.inner.needed.map MintedType.path = [emptyKeyOwner.path])) = true := by
    decide +kernel
  have hrun : emptyKey.run.toOption.any (fun output =>
      decide (output.types.map (·.path) = [emptyKeyOwner.path] ∧
        output.stats.warnings.countP (·.isCollision) = 1)) = true := by
    decide +kernel
  obtain ⟨field, hresult, hpaths⟩ := exists_ok_of_any hfield
  obtain ⟨output, hcompleted, htypes⟩ := exists_ok_of_any hrun
  obtain ⟨htypes, hcollision⟩ := of_decide_eq_true htypes
  exact ⟨field, output, hresult, of_decide_eq_true hpaths, hcompleted, htypes, hcollision⟩

end SchemaTypes
