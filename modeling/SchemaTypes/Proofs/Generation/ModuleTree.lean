import SchemaTypes.Proofs.Generation.Accounting
import SchemaTypes.Proofs.Generation.Closure
import SchemaTypes.Proofs.Name.Module

/-!
# The module tree

The files of a run are modules of each other.  This file shows that they form a tree: every file but
the root is declared by the file of the namespace above it, nothing else is declared, and no two
modules share a file.  Each type lies in the file of the module that its path tells.

* `ModuleTree`: files that form a tree of modules.
* `Generation.moduleTree_files`: files of units that are mounted below one module form a tree.
* `Generation.mounted_units`: the units of a run are mounted below the module root.
* `Generation.exists_arranged`: the files and types of a successful run.
-/

namespace SchemaTypes

open Outcome

/-- Files that declare each other as modules, from the root on. -/
structure ModuleTree (files : List FileUnit) : Prop where
  located : ∀ file ∈ files, file.path = Namespace.filePath file.namespace
  distinct : (files.map (·.path)).Nodup
  root : ∃ file ∈ files, file.namespace = [] ∧ file.path = "mod.rs"
  /-- The file above declares a file, once. -/
  declared : ∀ file ∈ files, file.namespace ≠ [] → ∃ parent ∈ files, ∃ name,
    file.namespace = parent.namespace ++ [name] ∧ parent.submodules.count name = 1
  /-- What is declared is there. -/
  emitted : ∀ file ∈ files, ∀ name ∈ file.submodules, ∃ child ∈ files,
    child.namespace = file.namespace ++ [name]

namespace Generation

/-! ## Files of mounted units -/

section

variable [Spelling]

/-- Units in namespaces below the module that generated code is mounted at. -/
def Mounted (moduleRoot : List String) (units : List TypeUnit) : Prop :=
  ∀ unit ∈ units, ∃ tokens name, unit.path = .inNamespace moduleRoot tokens name

section

variable {moduleRoot : List String} {hooks : Hooks} {units : List TypeUnit}

theorem Mounted.modules (hunits : Mounted moduleRoot units) {unit : TypeUnit}
    (hunit : unit ∈ units) :
    unit.path.modules = moduleRoot ++ Namespace.ofPath moduleRoot unit.path := by
  obtain ⟨tokens, name, hpath⟩ := hunits unit hunit
  rw [hpath, Namespace.ofPath_inNamespace]
  rfl

/-- The modules of all files are named after segments of a schema. -/
theorem Mounted.isModuleName (hunits : Mounted moduleRoot units)
    (hsnake : Name.WritesSnakeCase Spelling.snake) {segments : List String}
    (hsegments : segments ∈ fileNamespaces moduleRoot units) :
    ∀ segment ∈ segments, Name.IsModuleName segment := by
  intro segment hsegment
  rcases Namespace.mem_tree_iff.mp hsegments with rfl | ⟨own, hown, hinside⟩
  · cases hsegment
  · obtain ⟨unit, hunit, rfl⟩ := List.mem_map.mp hown
    obtain ⟨tokens, name, hpath⟩ := hunits unit hunit
    rw [hpath, Namespace.ofPath_inNamespace] at hinside
    obtain ⟨token, -, rfl⟩ := List.mem_map.mp (hinside.subset hsegment)
    exact Name.isModuleName_moduleName hsnake token

omit [Spelling] in
theorem mem_files {file : FileUnit} :
    file ∈ files moduleRoot hooks units ↔
      ∃ segments ∈ fileNamespaces moduleRoot units,
        fileOf moduleRoot hooks units segments = file := by
  rw [files_eq, List.mem_map]

omit [Spelling] in
/-- The modules that a file declares have files. -/
theorem mem_submodules_iff {segments : List String} {name : String} :
    name ∈ (fileOf moduleRoot hooks units segments).submodules ↔
      segments ++ [name] ∈ fileNamespaces moduleRoot units := by
  rw [fileOf_submodules, Namespace.mem_children_iff, List.mem_filter]
  simp

omit [Spelling] in
theorem nodup_submodules (segments : List String) :
    (fileOf moduleRoot hooks units segments).submodules.Nodup := by
  rw [fileOf_submodules]
  exact Namespace.nodup_children ((Namespace.nodup_tree _).filter _)

/-- **Module tree.**  The files of mounted units form a tree of modules. -/
theorem moduleTree_files (hunits : Mounted moduleRoot units)
    (hsnake : Name.WritesSnakeCase Spelling.snake) :
    ModuleTree (files moduleRoot hooks units) where
  located := by
    intro file hfile
    obtain ⟨segments, -, rfl⟩ := mem_files.mp hfile
    rw [fileOf_path, fileOf_namespace]
  distinct := by
    have hpaths : (files moduleRoot hooks units).map (·.path) =
        (fileNamespaces moduleRoot units).map Namespace.filePath := by
      rw [files_eq, List.map_map]
      exact List.map_congr_left fun segments _ => fileOf_path segments
    rw [hpaths]
    -- the tree has each namespace once, and two of them lie in one file only if they are the same
    refine (Namespace.nodup_tree _).map_on ?_
    intro segments hsegments others hothers hsame
    exact Namespace.filePath_injective (hunits.isModuleName hsnake hsegments)
      (hunits.isModuleName hsnake hothers) hsame
  root := by
    have hroot : [] ∈ fileNamespaces moduleRoot units := Namespace.mem_tree_iff.mpr (.inl rfl)
    refine ⟨fileOf moduleRoot hooks units [], mem_files.mpr ⟨[], hroot, rfl⟩, ?_, ?_⟩
    · exact fileOf_namespace []
    · rw [fileOf_path]
      rfl
  declared := by
    intro file hfile hbelow
    obtain ⟨segments, hsegments, rfl⟩ := mem_files.mp hfile
    rw [fileOf_namespace] at hbelow
    have hparent : segments.dropLast ∈ fileNamespaces moduleRoot units :=
      Namespace.prefix_mem_tree (List.dropLast_prefix segments) hsegments
    -- the file above declares the last segment
    have hsplit : segments.dropLast ++ [segments.getLast hbelow] = segments :=
      List.dropLast_append_getLast hbelow
    refine ⟨fileOf moduleRoot hooks units segments.dropLast, mem_files.mpr ⟨_, hparent, rfl⟩,
      segments.getLast hbelow, ?_, ?_⟩
    · rw [fileOf_namespace, fileOf_namespace, hsplit]
    · apply List.count_eq_one_of_mem (nodup_submodules _)
      rw [mem_submodules_iff, hsplit]
      exact hsegments
  emitted := by
    intro file hfile name hname
    obtain ⟨segments, -, rfl⟩ := mem_files.mp hfile
    refine ⟨fileOf moduleRoot hooks units (segments ++ [name]), ?_, ?_⟩
    · exact mem_files.mpr ⟨_, mem_submodules_iff.mp hname, rfl⟩
    · rw [fileOf_namespace, fileOf_namespace]

/-- A type lies in the file of its modules, and in no other one. -/
theorem exists_file_of_mem (hunits : Mounted moduleRoot units) {type : TypeSummary}
    (htype : type ∈ (files moduleRoot hooks units).flatMap summaries) :
    ∃ file ∈ files moduleRoot hooks units, type.file = file.path ∧
      type.path.modules = moduleRoot ++ file.namespace ∧
        ∀ other ∈ files moduleRoot hooks units,
          type.path ∈ other.types.map (·.path) ↔ other = file := by
  obtain ⟨file, hfile, hsummary⟩ := List.mem_flatMap.mp htype
  obtain ⟨unit, hunit, rfl⟩ := List.mem_map.mp hsummary
  obtain ⟨segments, hsegments, rfl⟩ := mem_files.mp hfile
  have hplaced := hunit
  rw [fileOf_types, List.mem_filter, beq_iff_eq] at hplaced
  obtain ⟨hmember, hown⟩ := hplaced
  refine ⟨_, hfile, rfl, ?_, ?_⟩
  · rw [fileOf_namespace, hunits.modules hmember, hown]
  · intro other hother
    constructor
    · intro hpath
      obtain ⟨others, -, rfl⟩ := mem_files.mp hother
      obtain ⟨twin, htwin, hsame⟩ := List.mem_map.mp hpath
      rw [fileOf_types, List.mem_filter, beq_iff_eq, hsame] at htwin
      rw [← htwin.2, hown]
    · rintro rfl
      exact List.mem_map.mpr ⟨unit, hunit, rfl⟩

end

/-! ## Whole runs -/

variable {generation : Generation} {output : GenerationOutput}

/-- The units of a run lie in the namespaces of their requests. -/
theorem mounted_units {progress : Progress} (hcompleted : Completed generation output progress) :
    Mounted generation.options.moduleRoot (progress.units.map (·.2)) := by
  intro unit hunit
  obtain ⟨entry, hentry, rfl⟩ := List.mem_map.mp hunit
  have haccounts : SchemaTypes.Accounts generation.generator generation.emissions progress :=
    Accounts.empty.steps (steps_emissions hcompleted.realized)
  obtain ⟨before, emission, after, hemissions, rfl, -⟩ := haccounts.last entry hentry
  have hemission : emission ∈ generation.emissions := by
    rw [hemissions]
    exact List.mem_append_right _ List.mem_cons_self
  obtain ⟨request, hrequest, hown⟩ := mem_emissions.mp hemission
  obtain ⟨name, hpath⟩ := inside_of_mem_emissionsOf hrequest hown
  exact ⟨request.namespace, name, (emission.unit_path _).trans hpath⟩

/-- The output of a run consists of files that form a tree, and of the types in them. -/
structure Arranged (generation : Generation) (output : GenerationOutput)
    (files : List FileUnit) : Prop where
  paths : output.files.map (·.path) = files.map (·.path)
  codes : output.files.map (·.code) = files.map (·.code)
  reported : output.types = files.flatMap summaries
  tree : ModuleTree files
  /-- The path of a type tells the file that holds it. -/
  placed : ∀ type ∈ output.types, ∃ file ∈ files, type.file = file.path ∧
    type.path.modules = generation.options.moduleRoot ++ file.namespace ∧
      ∀ other ∈ files, type.path ∈ other.types.map (·.path) ↔ other = file

/-- **Files and types.**  A successful run writes a tree of modules, and each type that it reports
lies in the file of its module. -/
theorem exists_arranged (hsnake : Name.WritesSnakeCase Spelling.snake)
    (hrun : generation.run = .ok output) :
    ∃ files, Arranged generation output files := by
  obtain ⟨progress, hcompleted⟩ := exists_completed hrun
  have hmounted := mounted_units hcompleted
  refine ⟨generation.fileUnits progress, ?_⟩
  refine {
    paths := map_eq_of_mapM (fun _ _ hstep => (writeFile_eq_ok hstep).1) hcompleted.written
    codes := map_eq_of_mapM (fun _ _ hstep => (writeFile_eq_ok hstep).2) hcompleted.written
    reported := hcompleted.types
    tree := moduleTree_files hmounted hsnake
    placed := ?_ }
  intro type htype
  rw [hcompleted.types] at htype
  exact exists_file_of_mem hmounted htype

end

attribute [local instance] Spelling.plain

/-- A definition below one that has the name of a keyword. -/
def keywordModule : Generation where
  document := .object [("definitions", .object [("type", .object [
    ("properties", .object []),
    ("definitions", .object [("A", .object [("properties", .object [])])])])])]
  rootName := "Root"

set_option maxRecDepth 10000 in
/-- The module of the keyword has a file without the mark of raw identifiers and without types. -/
theorem arranged_keywordModule :
    Name.WritesSnakeCase Spelling.snake ∧ ∃ output, keywordModule.run = .ok output ∧
      output.files.map (·.path) = ["mod.rs", "definitions/mod.rs", "definitions/type/mod.rs",
        "definitions/type/definitions/mod.rs"] ∧
      output.types.map (·.path) = [⟨["crate", "definitions"], "Type"⟩,
        ⟨["crate", "definitions", "r#type", "definitions"], "A"⟩] ∧
      ∃ files, Arranged keywordModule output files := by
  have hcheck : keywordModule.run.toOption.any (fun output => decide (
      output.files.map (·.path) = ["mod.rs", "definitions/mod.rs", "definitions/type/mod.rs",
        "definitions/type/definitions/mod.rs"] ∧
      output.types.map (·.path) = [⟨["crate", "definitions"], "Type"⟩,
        ⟨["crate", "definitions", "r#type", "definitions"], "A"⟩])) = true := by
    unfold run files
    simp only [Namespace.tree_eq_insertionSort]
    decide +kernel
  obtain ⟨output, hrun, hchecked⟩ := exists_ok_of_any hcheck
  obtain ⟨hpaths, htypes⟩ := of_decide_eq_true hchecked
  have hsnake := Name.writesSnakeCase_snakeCase
  exact ⟨hsnake, output, hrun, hpaths, htypes, exists_arranged hsnake hrun⟩

end Generation

end SchemaTypes
