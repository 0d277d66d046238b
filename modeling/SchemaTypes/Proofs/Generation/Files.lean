import Mathlib.Data.List.Lex
import Mathlib.Data.List.Sort
import Mathlib.Data.String.Basic
import SchemaTypes.Proofs.Generation.Emission

/-!
# Units and files

The units of a run are grouped by namespace, and every namespace gets a file, those without units of
their own included.  This file describes the groups: no unit is left out or doubled, and the
namespaces form a tree.

* `Namespace.mem_tree_iff`, `Namespace.nodup_tree`: the namespaces of the files.
* `Namespace.mem_children_iff`: the modules that a file declares.
* `Generation.files_eq`: one file for each namespace.
* `Generation.types_perm`: the files hold the units, each once.
-/

namespace SchemaTypes

/-! ## Grouping -/

theorem nodup_eraseDups {α : Type} [BEq α] [LawfulBEq α] (items : List α) :
    items.eraseDups.Nodup := by
  induction items using List.reverseRecOn with
  | nil => exact List.nodup_nil
  | append_singleton earlier item ih =>
      rw [List.eraseDups_append]
      by_cases hitem : item ∈ earlier
      · simpa [List.removeAll, hitem] using ih
      · have hlast : ([item].removeAll earlier).eraseDups = [item] := by
          simp [List.removeAll, hitem, List.eraseDups_cons]
        rw [hlast, List.nodup_append]
        refine ⟨ih, List.nodup_singleton item, ?_⟩
        rintro own hown other hother rfl
        rw [List.mem_eraseDups] at hown
        exact hitem (List.mem_singleton.mp hother ▸ hown)

/-- Grouping by a key neither drops nor doubles an item. -/
theorem filter_groups_perm {α κ : Type} [BEq κ] [LawfulBEq κ] {key : α → κ} {groups : List κ}
    (hgroups : groups.Nodup) {items : List α} (hitems : ∀ item ∈ items, key item ∈ groups) :
    (groups.flatMap fun group => items.filter fun item => key item == group).Perm items := by
  induction items with
  | nil => simp
  | cons item rest ih =>
      rw [List.forall_mem_cons] at hitems
      obtain ⟨before, after, rfl⟩ := List.append_of_mem hitems.1
      rw [List.nodup_append, List.nodup_cons] at hgroups
      -- the item shows up in the group of its key only
      have hother : ∀ {part : List κ}, key item ∉ part →
          (part.flatMap fun group => (item :: rest).filter fun own => key own == group) =
            part.flatMap fun group => rest.filter fun own => key own == group := by
        intro part hpart
        refine List.flatMap_congr fun group hgroup => List.filter_cons_of_neg ?_
        have hne : key item ≠ group := fun hsame => hpart (hsame ▸ hgroup)
        simpa using hne
      have hbefore : key item ∉ before :=
        fun hmember => hgroups.2.2 _ hmember _ List.mem_cons_self rfl
      have hown : (item :: rest).filter (fun own => key own == key item) =
          item :: rest.filter fun own => key own == key item :=
        List.filter_cons_of_pos (by simp)
      specialize ih hitems.2
      rw [List.flatMap_append, List.flatMap_cons] at ih ⊢
      rw [hother hbefore, hother hgroups.2.1.1, hown, List.cons_append]
      exact List.perm_middle.trans (ih.cons item)

/-! ## Namespaces -/

namespace Namespace

variable {segments parent : List String} {namespaces : List (List String)} {name : String}

theorem mem_beginnings_iff {inner : List String} :
    inner ∈ beginnings segments ↔ inner <+: segments := by
  induction segments generalizing inner with
  | nil => simp [beginnings]
  | cons segment rest ih =>
      rw [beginnings, List.mem_cons, List.mem_map]
      cases inner with
      | nil => simp
      | cons first later => simp [List.cons_prefix_cons, ih, and_comm, eq_comm]

/-- The namespaces of the files are those above the namespaces of units. -/
theorem mem_tree_iff :
    segments ∈ tree namespaces ↔ segments = [] ∨ ∃ own ∈ namespaces, segments <+: own := by
  rw [tree, List.mem_mergeSort, List.mem_eraseDups, List.mem_cons, List.mem_flatMap]
  simp only [mem_beginnings_iff]

/-- The namespaces by a sort that the kernel evaluates. -/
theorem tree_eq_insertionSort (namespaces : List (List String)) :
    tree namespaces =
      ([] :: namespaces.flatMap beginnings).eraseDups.insertionSort fun a b => ¬b < a := by
  have hantisymm : Std.Antisymm fun a b : List String => ¬b < a :=
    ⟨fun _ _ hab hba => le_antisymm (not_lt.mp hab) (not_lt.mp hba)⟩
  have htotal : Std.Total fun a b : List String => ¬b < a :=
    ⟨fun a b => (le_total a b).imp not_lt.mpr not_lt.mpr⟩
  have htrans : IsTrans (List String) fun a b => ¬b < a :=
    ⟨fun _ _ _ hab hbc => not_lt.mpr ((not_lt.mp hab).trans (not_lt.mp hbc))⟩
  exact List.mergeSort_eq_insertionSort _ _

theorem mem_tree (hsegments : segments ∈ namespaces) : segments ∈ tree namespaces :=
  mem_tree_iff.mpr (.inr ⟨segments, hsegments, List.prefix_rfl⟩)

theorem nodup_tree (namespaces : List (List String)) : (tree namespaces).Nodup :=
  (List.mergeSort_perm _ _).nodup_iff.mpr (nodup_eraseDups _)

theorem prefix_mem_tree {inner : List String} (hinner : inner <+: segments)
    (hsegments : segments ∈ tree namespaces) : inner ∈ tree namespaces := by
  rcases mem_tree_iff.mp hsegments with rfl | ⟨own, hown, hprefix⟩
  · exact mem_tree_iff.mpr (.inl (List.prefix_nil.mp hinner))
  · exact mem_tree_iff.mpr (.inr ⟨own, hown, hinner.trans hprefix⟩)

@[simp]
theorem ofPath_inNamespace [Spelling] (moduleRoot tokens : List String) (name : String) :
    ofPath moduleRoot (.inNamespace moduleRoot tokens name) = tokens.map Name.moduleName :=
  List.drop_left

/-- A namespace gives its last segment to its parent. -/
theorem childOf_eq_some :
    (if segments.dropLast == parent then segments.getLast? else none) = some name ↔
      segments = parent ++ [name] := by
  constructor
  · intro hname
    split at hname
    · rename_i hparent
      rw [← beq_iff_eq.mp hparent, List.dropLast_append_getLast? name hname]
    · cases hname
  · rintro rfl
    simp

theorem mem_children_iff : name ∈ children namespaces parent ↔ parent ++ [name] ∈ namespaces := by
  unfold children
  simp only [List.mem_filterMap, childOf_eq_some, exists_eq_right]

/-- No module is declared twice. -/
theorem nodup_children (hnamespaces : namespaces.Nodup) : (children namespaces parent).Nodup := by
  apply hnamespaces.filterMap
  intro first second name hfirst hsecond
  exact (childOf_eq_some.mp hfirst).trans (childOf_eq_some.mp hsecond).symm

end Namespace

/-! ## Files -/

namespace Generation

variable {moduleRoot : List String} {hooks : Hooks} {units : List TypeUnit}

/-- The namespaces of the files for some units. -/
def fileNamespaces (moduleRoot : List String) (units : List TypeUnit) : List (List String) :=
  Namespace.tree (units.map fun unit => Namespace.ofPath moduleRoot unit.path)

/-- The file of a namespace. -/
def fileOf (moduleRoot : List String) (hooks : Hooks) (units : List TypeUnit)
    (segments : List String) : FileUnit :=
  hooks.applyFile {
    path := Namespace.filePath segments
    «namespace» := segments
    submodules :=
      Namespace.children ((fileNamespaces moduleRoot units).filter (!·.isEmpty)) segments
    types := units.filter fun unit => Namespace.ofPath moduleRoot unit.path == segments }

theorem files_eq :
    files moduleRoot hooks units =
      (fileNamespaces moduleRoot units).map (fileOf moduleRoot hooks units) := by
  have hplaced : (units.map fun unit => (Namespace.ofPath moduleRoot unit.path, unit)).map (·.1) =
      units.map fun unit => Namespace.ofPath moduleRoot unit.path := by
    rw [List.map_map]
    rfl
  have htypes : ∀ segments,
      ((units.map fun unit => (Namespace.ofPath moduleRoot unit.path, unit)).filter
        (·.1 == segments)).map (·.2) =
        units.filter fun unit => Namespace.ofPath moduleRoot unit.path == segments := by
    intro segments
    rw [List.filter_map, List.map_map]
    exact List.map_id' _
  unfold files
  simp only [hplaced, htypes]
  rfl

section

variable (segments : List String)

@[simp]
theorem fileOf_path :
    (fileOf moduleRoot hooks units segments).path = Namespace.filePath segments := by
  rw [fileOf, Hooks.applyFile_eq]

@[simp]
theorem fileOf_namespace : (fileOf moduleRoot hooks units segments).namespace = segments := by
  rw [fileOf, Hooks.applyFile_eq]

@[simp]
theorem fileOf_submodules :
    (fileOf moduleRoot hooks units segments).submodules =
      Namespace.children ((fileNamespaces moduleRoot units).filter (!·.isEmpty)) segments := by
  rw [fileOf, Hooks.applyFile_eq]

@[simp]
theorem fileOf_types :
    (fileOf moduleRoot hooks units segments).types =
      units.filter fun unit => Namespace.ofPath moduleRoot unit.path == segments := by
  rw [fileOf, Hooks.applyFile_eq]

end

/-- **Files hold the units.**  Each unit lies in one file, once. -/
theorem types_perm : ((files moduleRoot hooks units).flatMap (·.types)).Perm units := by
  rw [files_eq, List.flatMap_map]
  simp only [fileOf_types]
  apply filter_groups_perm (Namespace.nodup_tree _)
  intro unit hunit
  exact Namespace.mem_tree (List.mem_map.mpr ⟨unit, hunit, rfl⟩)

/-- Every unit lies in a file, and files hold nothing but units. -/
theorem mem_files_types {unit : TypeUnit} :
    (∃ file ∈ files moduleRoot hooks units, unit ∈ file.types) ↔ unit ∈ units :=
  List.mem_flatMap.symm.trans types_perm.mem_iff

/-- The reported types are the units. -/
theorem summaries_perm (moduleRoot : List String) (hooks : Hooks) (units : List TypeUnit) :
    (((files moduleRoot hooks units).flatMap summaries).map fun type =>
      (type.path, type.category)).Perm (units.map fun unit => (unit.path, unit.category)) := by
  have hsummaries : ∀ file : FileUnit,
      (summaries file).map (fun type => (type.path, type.category)) =
        file.types.map fun unit => (unit.path, unit.category) := by
    intro file
    rw [summaries, List.map_map]
    rfl
  rw [List.map_flatMap]
  simp only [hsummaries]
  rw [← List.map_flatMap]
  exact types_perm.map _

theorem exists_summary_iff {path : TypePath} {category : TypeUnit.Category} :
    (∃ type ∈ (files moduleRoot hooks units).flatMap summaries,
        type.path = path ∧ type.category = category) ↔
      ∃ unit ∈ units, unit.path = path ∧ unit.category = category := by
  have hmember : (path, category) ∈ ((files moduleRoot hooks units).flatMap summaries).map
        (fun type => (type.path, type.category)) ↔
      (path, category) ∈ units.map fun unit => (unit.path, unit.category) :=
    (summaries_perm moduleRoot hooks units).mem_iff
  simpa only [List.mem_map, Prod.mk.injEq] using hmember

end Generation

end SchemaTypes
