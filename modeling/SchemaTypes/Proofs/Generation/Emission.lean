import SchemaTypes.Generation.Run
import SchemaTypes.Proofs.Generation.Additions
import SchemaTypes.Proofs.Outcome

/-!
# What a request emits

A run threads its progress through a recursion over struct requests and property trees.  This file
tells apart what the recursion emits and how the progress collects it: the emissions of a request
do not depend on the progress, and each of them is inserted once, in order.  Without collisions of
names the progress grows by one unit for each emission, with a path of its own.

* `Emission`: a type that is emitted, with the resolved properties it is made of.
* `Generator.emissions`: the emissions of a request.
* `Generator.realize_succ`: one level of the recursion.
* `Generator.realize_steps`: realizing a request inserts one unit for each of its emissions.
-/

namespace SchemaTypes

open Outcome

/-! ## Needed types -/

mutual

/-- The types that are generated along with a property, those inside its alternatives and branches
included. -/
def Property.needed : Property → List MintedType
  | .collection _ _ item => item.needed
  | .nullable inner => inner.needed
  | .nestedObject request => [.struct request]
  | .intersection request => [.struct request]
  | .enumeration target => [.enumeration target]
  | .union path docs alternatives =>
    .union path docs alternatives :: neededByAlternatives alternatives
  | .dynamic entry branches => .dynamic entry branches :: neededByBranches branches
  | .scalar _ => []
  | .reference _ => []
  | .mixed => []

/-- The types that the alternatives of a union need. -/
def neededByAlternatives : List (Alternative Property) → List MintedType
  | [] => []
  | ⟨_, property⟩ :: rest => property.needed ++ neededByAlternatives rest

/-- The types that the branches of a map by patterns need. -/
def neededByBranches : List (Branch Property) → List MintedType
  | [] => []
  | ⟨_, _, property⟩ :: rest => property.needed ++ neededByBranches rest

end

theorem neededByAlternatives_eq (alternatives : List (Alternative Property)) :
    neededByAlternatives alternatives = alternatives.flatMap (·.property.needed) := by
  induction alternatives with
  | nil => rfl
  | cons alternative rest ih => rw [neededByAlternatives, ih, List.flatMap_cons]

theorem neededByBranches_eq (branches : List (Branch Property)) :
    neededByBranches branches = branches.flatMap (·.property.needed) := by
  induction branches with
  | nil => rfl
  | cons branch rest ih => rw [neededByBranches, ih, List.flatMap_cons]

/-! ## Emissions -/

/-- A type that is emitted. -/
inductive Emission
  /-- A struct whose schema is merged and whose properties are resolved. -/
  | struct (request : ClassRequest) (fields : List ResolvedField)
  | enumeration (target : EnumTarget)
  | union (path : TypePath) (docs : Documentation) (alternatives : List (Alternative Property))
  | entry (path : TypePath) (branches : List (Branch Property))

variable [Spelling]

namespace Emission

/-- The path that the type is inserted at. -/
def path : Emission → TypePath
  | .struct request _ => request.path
  | .enumeration target => target.path
  | .union path _ _ => path
  | .entry path _ => path

/-- The category of the type. -/
def category : Emission → TypeUnit.Category
  | .struct _ _ => .struct
  | .enumeration _ => .enumeration
  | .union _ _ _ => .union
  | .entry _ _ => .entry

/-- The properties of which the fields or variants are made. -/
def properties : Emission → List Property
  | .struct _ fields => fields.map (·.property.inner)
  | .enumeration _ => []
  | .union _ _ alternatives => alternatives.map (·.property)
  | .entry _ branches => branches.map (·.property)

/-- The types that a struct emits after itself.  Unions and entries leave this to their struct. -/
def needed : Emission → List MintedType
  | .struct _ fields => fields.flatMap (·.property.inner.needed)
  | _ => []

/-- The unit of an emission. -/
def unit (generator : Generator) : Emission → TypeUnit
  | .struct request fields =>
    .struct (generator.hooks.applyStruct (.assemble request generator.document fields))
  | .enumeration target => .enumeration (generator.hooks.applyEnum (.assemble target))
  | .union path docs alternatives =>
    .union (generator.hooks.applyUnion (.assemble path docs alternatives))
  | .entry path branches => .union (generator.hooks.applyUnion (.assembleEntry path branches))

end Emission

/-! ## Paths and categories of units -/

namespace Emission

variable (generator : Generator)

@[simp]
theorem unit_path (emission : Emission) : (emission.unit generator).path = emission.path := by
  cases emission with
  | struct request fields =>
      rw [unit, Hooks.applyStruct_eq]
      rfl
  | enumeration target =>
      rw [unit, Hooks.applyEnum_eq]
      rfl
  | union path docs alternatives | entry path branches =>
      rw [unit, Hooks.applyUnion_eq]
      rfl

@[simp]
theorem unit_category (emission : Emission) :
    (emission.unit generator).category = emission.category := by
  cases emission with
  | struct request fields => rfl
  | enumeration target => rfl
  | union path docs alternatives | entry path branches =>
      rw [unit, Hooks.applyUnion_eq]
      rfl

end Emission

/-! ## Collecting units -/

/-- Whether a warning tells of two types with one path. -/
def GenerationWarning.isCollision : GenerationWarning → Bool
  | .typeNameCollision _ _ => true
  | .defaultIgnored _ _ => false

/-- No warning tells of a path that has been generated twice. -/
def CollisionFree (warnings : List GenerationWarning) : Prop :=
  ∀ warning ∈ warnings, warning.isCollision = false

instance (warnings : List GenerationWarning) : Decidable (CollisionFree warnings) :=
  inferInstanceAs (Decidable (∀ warning ∈ warnings, warning.isCollision = false))

namespace Progress

variable {progress : Progress} {unit : TypeUnit}

omit [Spelling] in
theorem any_path_iff :
    (progress.units.any fun entry => entry.1 == unit.path) = true ↔
      unit.path ∈ progress.units.map (·.1) := by
  simp

omit [Spelling] in
/-- A path that is taken: the unit replaces the earlier one, and a warning tells so. -/
theorem insert_of_mem (htaken : unit.path ∈ progress.units.map (·.1)) (pointer : String) :
    progress.insert pointer unit =
      { progress with
        units := progress.units.map fun (entry : TypePath × TypeUnit) =>
          if entry.1 == unit.path then (unit.path, unit) else entry
      }.warn (.typeNameCollision unit.path pointer) :=
  if_pos (any_path_iff.mpr htaken)

omit [Spelling] in
/-- A path that is new: the unit comes last. -/
theorem insert_of_not_mem (hfresh : unit.path ∉ progress.units.map (·.1)) (pointer : String) :
    progress.insert pointer unit =
      { progress with units := progress.units ++ [(unit.path, unit)] } :=
  if_neg fun htaken => hfresh (any_path_iff.mp htaken)

omit [Spelling] in
theorem paths_insert (progress : Progress) (pointer : String) (unit : TypeUnit) :
    (progress.insert pointer unit).units.map (·.1) =
      if unit.path ∈ progress.units.map (·.1) then progress.units.map (·.1)
      else progress.units.map (·.1) ++ [unit.path] := by
  split
  · rename_i htaken
    rw [insert_of_mem htaken]
    show (progress.units.map _).map _ = _
    rw [List.map_map]
    apply List.map_congr_left
    intro entry _
    by_cases hsame : entry.1 = unit.path
    · simp [hsame]
    · simp [hsame]
  · rename_i hfresh
    rw [insert_of_not_mem hfresh, List.map_append, List.map_singleton]

omit [Spelling] in
theorem nodup_paths_insert (hdistinct : (progress.units.map (·.1)).Nodup) (pointer : String)
    (unit : TypeUnit) : ((progress.insert pointer unit).units.map (·.1)).Nodup := by
  rw [paths_insert]
  split
  · exact hdistinct
  · rename_i hfresh
    rw [List.nodup_append]
    refine ⟨hdistinct, List.nodup_singleton _, ?_⟩
    rintro path hpath other hother rfl
    exact hfresh (List.mem_singleton.mp hother ▸ hpath)

omit [Spelling] in
/-- An insertion adds a unit or a warning about a collision. -/
theorem balance_insert (progress : Progress) (pointer : String) (unit : TypeUnit) :
    (progress.insert pointer unit).units.length +
        (progress.insert pointer unit).warnings.countP (·.isCollision) =
      progress.units.length + progress.warnings.countP (·.isCollision) + 1 := by
  by_cases htaken : unit.path ∈ progress.units.map (·.1)
  · simp [insert_of_mem htaken, warn, GenerationWarning.isCollision]
    omega
  · simp [insert_of_not_mem htaken]
    omega

omit [Spelling] in
/-- The unit has taken the place of all others with its path. -/
theorem mem_units_insert {entry : TypePath × TypeUnit} {pointer : String}
    (hentry : entry ∈ (progress.insert pointer unit).units) :
    entry = (unit.path, unit) ∨ entry ∈ progress.units ∧ entry.1 ≠ unit.path := by
  by_cases htaken : unit.path ∈ progress.units.map (·.1)
  · rw [insert_of_mem htaken] at hentry
    obtain ⟨earlier, hearlier, rfl⟩ := List.mem_map.mp hentry
    by_cases hsame : earlier.1 = unit.path
    · exact .inl (if_pos (beq_iff_eq.mpr hsame))
    · rw [if_neg (by simpa using hsame)]
      exact .inr ⟨hearlier, hsame⟩
  · rw [insert_of_not_mem htaken] at hentry
    rcases List.mem_append.mp hentry with hearlier | hself
    · refine .inr ⟨hearlier, fun hsame => htaken ?_⟩
      exact List.mem_map.mpr ⟨entry, hearlier, hsame⟩
    · exact .inl (List.mem_singleton.mp hself)

end Progress

/-- The second progress has collected some emissions after the first. -/
structure Collects (generator : Generator) (emissions : List Emission)
    (progress result : Progress) : Prop where
  warnings : progress.warnings <+: result.warnings
  units : CollisionFree result.warnings →
    result.units = progress.units ++
      emissions.map fun emission => (emission.path, emission.unit generator)
  distinct : CollisionFree result.warnings → (progress.units.map (·.1)).Nodup →
    (result.units.map (·.1)).Nodup

namespace Collects

variable {generator : Generator} {emissions others : List Emission} {first second third : Progress}

theorem refl (progress : Progress) : Collects generator [] progress progress where
  warnings := List.prefix_rfl
  units := fun _ => by simp
  distinct := fun _ hdistinct => hdistinct

theorem trans (hfirst : Collects generator emissions first second)
    (hsecond : Collects generator others second third) :
    Collects generator (emissions ++ others) first third := by
  have hearlier : CollisionFree third.warnings → CollisionFree second.warnings :=
    fun hfree warning hwarning => hfree warning (hsecond.warnings.subset hwarning)
  refine ⟨hfirst.warnings.trans hsecond.warnings, fun hfree => ?_, fun hfree hdistinct => ?_⟩
  · rw [hsecond.units hfree, hfirst.units (hearlier hfree), List.append_assoc, List.map_append]
  · exact hsecond.distinct hfree (hfirst.distinct (hearlier hfree) hdistinct)

/-- A warning leaves the units alone. -/
theorem warn (warning : GenerationWarning) (progress : Progress) :
    Collects generator [] progress (progress.warn warning) where
  warnings := List.prefix_append _ _
  units := fun _ => by simp [Progress.warn]
  distinct := fun _ hdistinct => hdistinct

theorem insert (emission : Emission) (pointer : String) (progress : Progress) :
    Collects generator [emission] progress
      (progress.insert pointer (emission.unit generator)) := by
  by_cases htaken : (emission.unit generator).path ∈ progress.units.map (·.1)
  · -- a path that is taken shows in the warnings
    have hwarned : ¬CollisionFree (progress.insert pointer (emission.unit generator)).warnings := by
      rw [Progress.insert_of_mem htaken]
      intro hfree
      have := hfree (.typeNameCollision (emission.unit generator).path pointer)
        (by simp [Progress.warn])
      cases this
    exact {
      warnings := by
        rw [Progress.insert_of_mem htaken]
        exact List.prefix_append _ _
      units := fun hfree => absurd hfree hwarned
      distinct := fun hfree => absurd hfree hwarned }
  · exact {
      warnings := by
        rw [Progress.insert_of_not_mem htaken]
      units := fun _ => by
        rw [Progress.insert_of_not_mem htaken, Emission.unit_path, List.map_singleton]
      distinct := fun _ hdistinct => Progress.nodup_paths_insert hdistinct pointer _ }

end Collects

/-- The second progress is the first one after a unit has been inserted for each of some emissions,
in order, with warnings about defaults in between. -/
inductive Steps (generator : Generator) : List Emission → Progress → Progress → Prop
  | refl (progress) : Steps generator [] progress progress
  | warn {emissions progress result} (pointer : String) (default : Json)
      (hrest : Steps generator emissions (progress.warn (.defaultIgnored pointer default)) result) :
      Steps generator emissions progress result
  | insert {emissions progress result} (emission : Emission) (pointer : String)
      (hrest :
        Steps generator emissions (progress.insert pointer (emission.unit generator)) result) :
      Steps generator (emission :: emissions) progress result

namespace Steps

variable {generator : Generator} {emissions others : List Emission} {first second third : Progress}

theorem trans (hfirst : Steps generator emissions first second)
    (hsecond : Steps generator others second third) :
    Steps generator (emissions ++ others) first third := by
  induction hfirst with
  | refl => exact hsecond
  | warn pointer default _ ih => exact .warn pointer default (ih hsecond)
  | insert emission pointer _ ih => exact .insert emission pointer (ih hsecond)

theorem single (emission : Emission) (pointer : String) (progress : Progress) :
    Steps generator [emission] progress (progress.insert pointer (emission.unit generator)) :=
  .insert emission pointer (.refl _)

theorem defaultWarnings (request : ClassRequest) (fields : List ResolvedField)
    (progress : Progress) :
    Steps generator [] progress
      ((Generator.defaultWarnings request fields).foldl Progress.warn progress) := by
  unfold Generator.defaultWarnings
  induction fields generalizing progress with
  | nil => exact .refl progress
  | cons field rest ih =>
      rw [List.filterMap_cons]
      cases field.property.ignoredDefault? with
      | none => exact ih progress
      | some default => exact .warn _ default (ih _)

/-- A loop inserts what each of its steps does. -/
theorem foldlM {α : Type} {step : Progress → α → Except GenerationError Progress}
    {emitted : α → List Emission} {items : List α}
    (hstep : ∀ item ∈ items, ∀ progress result, step progress item = .ok result →
      Steps generator (emitted item) progress result)
    {progress result : Progress} (hresult : items.foldlM step progress = .ok result) :
    Steps generator (items.flatMap emitted) progress result := by
  induction items generalizing progress with
  | nil =>
      obtain rfl := pure_eq_ok.mp hresult
      exact .refl progress
  | cons item rest ih =>
      rw [List.foldlM_cons] at hresult
      obtain ⟨middle, hmiddle, hrest⟩ := bind_eq_ok.mp hresult
      rw [List.flatMap_cons]
      exact (hstep item List.mem_cons_self _ _ hmiddle).trans
        (ih (fun other hother => hstep other (List.mem_cons_of_mem _ hother)) hrest)

theorem collects (hsteps : Steps generator emissions first second) :
    Collects generator emissions first second := by
  induction hsteps with
  | refl progress => exact .refl progress
  | warn pointer default _ ih => exact (Collects.warn _ _).trans ih
  | insert emission pointer _ ih => exact (Collects.insert emission pointer _).trans ih

end Steps

/-! ## Realizing -/

namespace Generator

variable (generator : Generator)

/-- Realizes a needed type. -/
def realizeNeeded (realizeStruct : StructRealizer) (pointer : String) (progress : Progress) :
    MintedType → Except GenerationError Progress
  | .struct request => realizeStruct request progress
  | .enumeration target => .ok (generator.realizeEnum target pointer progress)
  | .union path docs alternatives =>
    generator.realizeUnion (.assemble path docs alternatives) pointer progress
  | .dynamic entry branches =>
    generator.realizeUnion (.assembleEntry entry branches) pointer progress

mutual

theorem realizeProperty_eq (realizeStruct : StructRealizer) (pointer : String)
    (property : Property) (progress : Progress) :
    generator.realizeProperty realizeStruct pointer property progress =
      property.needed.foldlM (generator.realizeNeeded realizeStruct pointer) progress := by
  cases property with
  | collection kind container item =>
      rw [realizeProperty, Property.needed]
      exact realizeProperty_eq realizeStruct pointer item progress
  | nullable inner =>
      rw [realizeProperty, Property.needed]
      exact realizeProperty_eq realizeStruct pointer inner progress
  | union path docs alternatives =>
      rw [realizeProperty, Property.needed, List.foldlM_cons, realizeNeeded]
      exact bind_congr fun middle =>
        realizeAlternatives_eq realizeStruct pointer alternatives middle
  | dynamic entry branches =>
      rw [realizeProperty, Property.needed, List.foldlM_cons, realizeNeeded]
      exact bind_congr fun middle => realizeBranches_eq realizeStruct pointer branches middle
  | nestedObject request => simp [realizeProperty, Property.needed, realizeNeeded]
  | intersection request => simp [realizeProperty, Property.needed, realizeNeeded]
  | enumeration target => simp [realizeProperty, Property.needed, realizeNeeded]
  | scalar kind => rfl
  | reference target => rfl
  | mixed => rfl

theorem realizeAlternatives_eq (realizeStruct : StructRealizer) (pointer : String)
    (alternatives : List (Alternative Property)) (progress : Progress) :
    generator.realizeAlternatives realizeStruct pointer alternatives progress =
      (neededByAlternatives alternatives).foldlM
        (generator.realizeNeeded realizeStruct pointer) progress := by
  cases alternatives with
  | nil => rfl
  | cons alternative rest =>
      obtain ⟨variant, property⟩ := alternative
      rw [realizeAlternatives, neededByAlternatives, List.foldlM_append,
        realizeProperty_eq realizeStruct pointer property progress]
      exact bind_congr fun middle => realizeAlternatives_eq realizeStruct pointer rest middle

theorem realizeBranches_eq (realizeStruct : StructRealizer) (pointer : String)
    (branches : List (Branch Property)) (progress : Progress) :
    generator.realizeBranches realizeStruct pointer branches progress =
      (neededByBranches branches).foldlM (generator.realizeNeeded realizeStruct pointer)
        progress := by
  cases branches with
  | nil => rfl
  | cons branch rest =>
      obtain ⟨variant, pattern, property⟩ := branch
      rw [realizeBranches, neededByBranches, List.foldlM_append,
        realizeProperty_eq realizeStruct pointer property progress]
      exact bind_congr fun middle => realizeBranches_eq realizeStruct pointer rest middle

end

/-- The schema of a request without `allOf`. -/
def mergedSchema (request : ClassRequest) : Except GenerationError Json :=
  if request.schema.allOf?.isSome then
    mergeAllOf generator.context request.schema request.pointer
  else .ok request.schema

/-- The type that a request stands for. -/
def prepare (request : ClassRequest) : Except GenerationError Emission := do
  if request.schema.enumValues?.isSome then
    match EnumDefinition.ofSchema request.schema generator.context.options.enumsSupported with
    | .error fault => throw (.enumeration request.pointer fault)
    | .ok definition =>
      return .enumeration ⟨request.path, definition, Resolve.documentation request.schema⟩
  else
    let merged ← generator.mergedSchema request
    if !merged.isObjectShaped then
      throw (.resolution request.pointer .notObjectShaped)
    let fields ← generator.resolveFields { request with schema := merged }
    return .struct { request with schema := merged } fields

/-- What a needed type emits, given what a struct emits. -/
def emitNeeded (emitStruct : ClassRequest → List Emission) : MintedType → List Emission
  | .struct request => emitStruct request
  | .enumeration target => [.enumeration target]
  | .union path docs alternatives => [.union path docs alternatives]
  | .dynamic entry branches => [.entry entry branches]

/-- The emissions of a request, those of nested requests included; `levels` bounds the nesting. -/
def emissions : (levels : Nat) → ClassRequest → List Emission
  | 0, _ => []
  | levels + 1, request =>
    match generator.prepare request with
    | .ok emission => emission :: emission.needed.flatMap (emitNeeded (emissions levels))
    | .error _ => []

/-- Adds the type of an emission to the progress, after warnings about its defaults. -/
def collect (pointer : String) (progress : Progress) : Emission → Except GenerationError Progress
  | .struct request fields => do
    let unit := StructUnit.assemble request generator.document fields
    checkIdentifiers (.concat (unit.fields.map (·.code)))
    let warned := (defaultWarnings request fields).foldl Progress.warn progress
    return warned.insert pointer (.struct (generator.hooks.applyStruct unit))
  | .enumeration target => .ok (generator.realizeEnum target pointer progress)
  | .union path docs alternatives =>
    generator.realizeUnion (.assemble path docs alternatives) pointer progress
  | .entry path branches =>
    generator.realizeUnion (.assembleEntry path branches) pointer progress

/-- One level of realizing, where `realizeStruct` realizes nested structs. -/
def realizeStep (realizeStruct : StructRealizer) : StructRealizer := fun request progress => do
  let emission ← generator.prepare request
  let middle ← generator.collect request.pointer progress emission
  emission.needed.foldlM (generator.realizeNeeded realizeStruct request.pointer) middle

/-- The level of a struct whose schema is merged. -/
theorem realizeStep_merged (request : ClassRequest) (realizeStruct : StructRealizer)
    (progress : Progress) :
    (do
      if !request.schema.isObjectShaped then
        throw (.resolution request.pointer .notObjectShaped)
      let fields ← generator.resolveFields request
      let unit := StructUnit.assemble request generator.document fields
      checkIdentifiers (.concat (unit.fields.map (·.code)))
      let warned := (defaultWarnings request fields).foldl Progress.warn progress
      let inserted := warned.insert request.pointer (.struct (generator.hooks.applyStruct unit))
      generator.realizeFields realizeStruct request.pointer fields inserted :
        Except GenerationError Progress) = (do
      let emission ← (do
        if !request.schema.isObjectShaped then
          throw (.resolution request.pointer .notObjectShaped)
        let fields ← generator.resolveFields request
        return Emission.struct request fields : Except GenerationError Emission)
      let middle ← generator.collect request.pointer progress emission
      emission.needed.foldlM (generator.realizeNeeded realizeStruct request.pointer) middle) := by
  by_cases hshape : request.schema.isObjectShaped
  · rw [if_neg (by simp [hshape]), if_neg (by simp [hshape]), bind_assoc]
    refine bind_congr fun fields => ?_
    simp only [collect, Emission.needed, realizeFields, realizeProperty_eq, foldlM_flatMap_eq,
      bind_assoc, pure_bind]
  · rw [if_pos (by simp [hshape]), if_pos (by simp [hshape])]
    rfl

/-- **One level.**  Realizing a request adds the type that it stands for, and then what this one
needs. -/
theorem realize_succ (levels : Nat) :
    generator.realize (levels + 1) = generator.realizeStep (generator.realize levels) := by
  funext request progress
  rw [realize]
  unfold realizeStep prepare mergedSchema
  dsimp only
  -- `enum` is looked for first, whatever else the schema has
  by_cases henum : request.schema.enumValues?.isSome
  · rw [if_pos henum, if_pos henum]
    cases EnumDefinition.ofSchema request.schema generator.context.options.enumsSupported with
    | error fault => rfl
    | ok definition => rfl
  · rw [if_neg henum, if_neg henum]
    by_cases hallOf : request.schema.allOf?.isSome
    · rw [if_pos hallOf, if_pos hallOf, bind_assoc]
      exact bind_congr fun merged =>
        generator.realizeStep_merged { request with schema := merged } _ progress
    · rw [if_neg hallOf, if_neg hallOf]
      exact generator.realizeStep_merged request _ progress

theorem realizeStep_eq_ok {realizeStruct : StructRealizer} {request : ClassRequest}
    {progress result : Progress} :
    generator.realizeStep realizeStruct request progress = .ok result ↔
      ∃ emission, generator.prepare request = .ok emission ∧
        ∃ middle, generator.collect request.pointer progress emission = .ok middle ∧
          emission.needed.foldlM (generator.realizeNeeded realizeStruct request.pointer) middle =
            .ok result := by
  unfold realizeStep
  simp only [bind_eq_ok]

theorem collect_steps {pointer : String} {emission : Emission} {progress result : Progress}
    (hresult : generator.collect pointer progress emission = .ok result) :
    Steps generator [emission] progress result := by
  cases emission with
  | struct request fields =>
      obtain ⟨-, -, hresult⟩ := bind_eq_ok.mp hresult
      obtain rfl := pure_eq_ok.mp hresult
      exact (Steps.defaultWarnings request fields progress).trans
        (.single (.struct request fields) _ _)
  | enumeration target =>
      obtain rfl := pure_eq_ok.mp hresult
      exact .single (.enumeration target) _ _
  | union path docs alternatives =>
      obtain ⟨-, -, hresult⟩ := bind_eq_ok.mp hresult
      obtain rfl := pure_eq_ok.mp hresult
      exact .single (.union path docs alternatives) _ _
  | entry path branches =>
      obtain ⟨-, -, hresult⟩ := bind_eq_ok.mp hresult
      obtain rfl := pure_eq_ok.mp hresult
      exact .single (.entry path branches) _ _

/-- **Realizing inserts.**  What realizing a request adds to the progress are units for its
emissions, in order. -/
theorem realize_steps {levels : Nat} {request : ClassRequest} {progress result : Progress}
    (hresult : generator.realize levels request progress = .ok result) :
    Steps generator (generator.emissions levels request) progress result := by
  induction levels generalizing request progress result with
  | zero => cases hresult
  | succ levels ih =>
      rw [realize_succ, realizeStep_eq_ok] at hresult
      obtain ⟨emission, hemission, middle, hmiddle, hneeded⟩ := hresult
      rw [emissions, hemission]
      refine (generator.collect_steps hmiddle).trans
        (Steps.foldlM (fun minted _ earlier later hstep => ?_) hneeded)
      -- only structs are realized with the remaining levels
      cases minted with
      | struct nested => exact ih hstep
      | enumeration | union | dynamic => exact generator.collect_steps hstep

end Generator

end SchemaTypes
