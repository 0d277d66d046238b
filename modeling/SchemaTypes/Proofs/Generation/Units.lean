import SchemaTypes.Proofs.Generation.Files

/-!
# The units of a run

A run realizes the definitions of its document and then the root.  Its units, and the types that
it reports, are those of the emissions of these requests.

* `Generation.emissions`: everything that a run emits.
* `Generation.Completed`: how the output of a run comes from its progress.
* `Generation.units_eq`: the units of a run without collisions.
* `Generation.exists_type_iff`: the types that such a run reports.
-/

namespace SchemaTypes

open Outcome

/-! ## Whole runs -/

namespace Generation

variable [Spelling] (generation : Generation)

/-- The definitions of the document. -/
def definitions : List Definition := Definition.collect generation.document

/-- The targets of references, as a run looks them up. -/
def targets : Lookup :=
  lookup generation.document generation.rootName generation.options generation.external
    generation.definitions (referenceCycles generation.document generation.definitions)

/-- What the run hands to all its steps. -/
def generator : Generator :=
  ⟨⟨generation.options, generation.targets⟩, generation.document, generation.hooks⟩

/-- The requests that a run starts from: the definitions, and the root when it is to be
generated. -/
def requests : List ClassRequest :=
  generation.definitions.filterMap (definitionRequest? generation.targets generation.options) ++
    if isRealizableRoot generation.document generation.definitions then
      [rootRequest generation.document generation.rootName generation.options]
    else []

/-- What a request of a run emits. -/
def emissionsOf (request : ClassRequest) : List Emission :=
  generation.generator.emissions (generation.options.maxDepth + 1) request

/-- Everything that a run emits. -/
def emissions : List Emission := generation.requests.flatMap generation.emissionsOf

/-- The units of a run. -/
def units : List TypeUnit :=
  match generation.realizeAll generation.targets generation.definitions with
  | .ok progress => progress.units.map (·.2)
  | .error _ => []

variable {generation}

theorem realizeAll_eq :
    generation.realizeAll generation.targets generation.definitions =
      generation.requests.foldlM
        (fun progress request =>
          generation.generator.realize (generation.options.maxDepth + 1) request progress)
        .empty := by
  rw [requests, List.foldlM_append]
  refine bind_congr fun middle => ?_
  by_cases hroot : isRealizableRoot generation.document generation.definitions
  · rw [if_pos hroot, if_pos hroot, List.foldlM_cons]
    exact (bind_pure _).symm
  · rw [if_neg hroot, if_neg hroot]
    rfl

theorem steps_emissions {progress : Progress}
    (hprogress : generation.realizeAll generation.targets generation.definitions = .ok progress) :
    Steps generation.generator generation.emissions .empty progress := by
  rw [realizeAll_eq] at hprogress
  exact Steps.foldlM (fun request _ _ _ hstep => generation.generator.realize_steps hstep)
    hprogress

theorem collects_emissions {progress : Progress}
    (hprogress : generation.realizeAll generation.targets generation.definitions = .ok progress) :
    Collects generation.generator generation.emissions .empty progress :=
  (steps_emissions hprogress).collects

/-! ## Types of the output -/

omit [Spelling] in
theorem writeFile_eq_ok {sourcePath : String} {file : FileUnit} {written : GeneratedFile}
    (hwritten : writeFile sourcePath file = .ok written) :
    written.path = file.path ∧ written.code = file.code := by
  obtain ⟨-, -, hwritten⟩ := bind_eq_ok.mp hwritten
  split at hwritten
  · obtain rfl := pure_eq_ok.mp hwritten
    exact ⟨rfl, rfl⟩
  · cases hwritten

/-- The file units of a run. -/
def fileUnits (generation : Generation) (progress : Progress) : List FileUnit :=
  files generation.options.moduleRoot generation.hooks (progress.units.map (·.2))

/-- How the output of a run comes from its progress. -/
structure Completed (generation : Generation) (output : GenerationOutput) (progress : Progress) :
    Prop where
  realized : generation.realizeAll generation.targets generation.definitions = .ok progress
  written : (generation.fileUnits progress).mapM (writeFile generation.sourcePath) =
    .ok output.files
  types : output.types = (generation.fileUnits progress).flatMap summaries
  categories : output.stats.categories = progress.units.map (·.2.category)
  warnings : output.stats.warnings = progress.warnings

variable {output : GenerationOutput}

theorem run_eq_ok : generation.run = .ok output ↔
    ∃ progress,
      generation.realizeAll generation.targets generation.definitions = .ok progress ∧ ∃ written,
      (generation.fileUnits progress).mapM (writeFile generation.sourcePath) = .ok written ∧
      { files := written
        types := (generation.fileUnits progress).flatMap summaries
        stats := {
          categories := progress.units.map (·.2.category)
          definitions := generation.definitions.length
          files := (generation.fileUnits progress).length
          cycles := referenceCycles generation.document generation.definitions
          warnings := progress.warnings } } = output := by
  unfold run
  simp only [bind_eq_ok, pure_eq_ok, List.map_map]
  rfl

theorem exists_completed (hrun : generation.run = .ok output) :
    ∃ progress, Completed generation output progress := by
  obtain ⟨progress, hprogress, written, hwritten, rfl⟩ := run_eq_ok.mp hrun
  exact ⟨progress, hprogress, hwritten, rfl, rfl, rfl⟩

namespace Completed

variable {progress : Progress}

/-- The types that are reported are those of the units, in the order of the files. -/
theorem types_perm (hcompleted : Completed generation output progress) :
    (output.types.map fun type => (type.path, type.category)).Perm
      (progress.units.map fun entry => (entry.2.path, entry.2.category)) := by
  have hunits := summaries_perm generation.options.moduleRoot generation.hooks
    (progress.units.map (·.2))
  rw [List.map_map] at hunits
  rw [hcompleted.types]
  exact hunits

theorem length_types (hcompleted : Completed generation output progress) :
    output.types.length = progress.units.length := by
  simpa using hcompleted.types_perm.length_eq

theorem paths_perm (hcompleted : Completed generation output progress) :
    (output.types.map (·.path)).Perm (progress.units.map (·.2.path)) := by
  simpa only [List.map_map, Function.comp_def] using hcompleted.types_perm.map Prod.fst

theorem categories_perm (hcompleted : Completed generation output progress) :
    (output.types.map (·.category)).Perm output.stats.categories := by
  rw [hcompleted.categories]
  simpa only [List.map_map, Function.comp_def] using hcompleted.types_perm.map Prod.snd

end Completed

/-- A successful run has realized all its requests. -/
theorem exists_realize (hrun : generation.run = .ok output) {request : ClassRequest}
    (hrequest : request ∈ generation.requests) :
    ∃ before after, generation.generator.realize (generation.options.maxDepth + 1) request before =
      .ok after := by
  obtain ⟨progress, hcompleted⟩ := exists_completed hrun
  have hprogress := hcompleted.realized
  rw [realizeAll_eq] at hprogress
  exact exists_step_of_foldlM hprogress hrequest

/-- **The units of a run.**  Without collisions they are one for each emission, in order. -/
theorem units_eq (hrun : generation.run = .ok output)
    (hfree : CollisionFree output.stats.warnings) :
    generation.units = generation.emissions.map (·.unit generation.generator) := by
  obtain ⟨progress, hcompleted⟩ := exists_completed hrun
  rw [hcompleted.warnings] at hfree
  rw [units, hcompleted.realized]
  simp [(collects_emissions hcompleted.realized).units hfree, Progress.empty, Function.comp_def]

/-- Without collisions, no two emissions share a path. -/
theorem nodup_paths (hrun : generation.run = .ok output)
    (hfree : CollisionFree output.stats.warnings) :
    (generation.emissions.map (·.path)).Nodup := by
  obtain ⟨progress, hcompleted⟩ := exists_completed hrun
  rw [hcompleted.warnings] at hfree
  have hcollects := collects_emissions hcompleted.realized
  have hdistinct := hcollects.distinct hfree List.nodup_nil
  rw [hcollects.units hfree] at hdistinct
  simpa [Progress.empty, Function.comp_def] using hdistinct

/-- The reported types are those of the emissions. -/
theorem exists_type_iff (hrun : generation.run = .ok output)
    (hfree : CollisionFree output.stats.warnings) {path : TypePath}
    {category : TypeUnit.Category} :
    (∃ type ∈ output.types, type.path = path ∧ type.category = category) ↔
      ∃ emission ∈ generation.emissions, emission.path = path ∧ emission.category = category := by
  obtain ⟨progress, hcompleted⟩ := exists_completed hrun
  have hunits : progress.units.map (·.2) =
      generation.emissions.map (·.unit generation.generator) := by
    simpa only [units, hcompleted.realized] using units_eq hrun hfree
  rw [hcompleted.types, fileUnits, exists_summary_iff, hunits]
  simp

end Generation

end SchemaTypes
