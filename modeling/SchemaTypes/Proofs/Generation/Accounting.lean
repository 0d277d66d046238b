import SchemaTypes.Proofs.Generation.Units

/-!
# No type is lost silently

When two types have the same path, the later unit takes the place of the earlier one.  This file
balances the account of a run: what has been inserted is either reported or has been replaced with a
warning, and what is reported for a path is what has been inserted last.

## Strategy

`Accounts` is kept by each step of a run: a warning about a default changes neither side of the
balance, a fresh path adds a unit, and a path that is taken adds a warning.  The regrouping of the
units by namespace changes their order only (`Generation.types_perm`).
-/

namespace SchemaTypes

open Outcome

/-! ## The balance -/

section

variable [Spelling]

/-- The units and warnings that are left of some emissions, which have been inserted in order. -/
structure Accounts (generator : Generator) (emissions : List Emission) (progress : Progress) :
    Prop where
  balance : emissions.length = progress.units.length + progress.warnings.countP (·.isCollision)
  distinct : (progress.units.map (·.1)).Nodup
  kept : ∀ emission ∈ emissions, emission.path ∈ progress.units.map (·.1)
  last : ∀ entry ∈ progress.units, ∃ before emission after,
    emissions = before ++ emission :: after ∧
      entry = (emission.path, emission.unit generator) ∧ ∀ later ∈ after, later.path ≠ emission.path

namespace Accounts

variable {generator : Generator} {emissions others : List Emission} {progress result : Progress}

theorem empty : Accounts generator [] .empty where
  balance := rfl
  distinct := List.nodup_nil
  kept := nofun
  last := nofun

theorem warn (haccounts : Accounts generator emissions progress) (pointer : String)
    (default : Json) :
    Accounts generator emissions (progress.warn (.defaultIgnored pointer default)) where
  balance := by
    have hcount : ((progress.warn (.defaultIgnored pointer default)).warnings.countP
        fun warning => warning.isCollision) = progress.warnings.countP (·.isCollision) := by
      simp [Progress.warn, GenerationWarning.isCollision]
    rw [hcount]
    exact haccounts.balance
  distinct := haccounts.distinct
  kept := haccounts.kept
  last := haccounts.last

/-- An emission of another path comes after those that are kept. -/
theorem last_append (haccounts : Accounts generator emissions progress)
    {entry : TypePath × TypeUnit} (hentry : entry ∈ progress.units) {emission : Emission}
    (hother : entry.1 ≠ emission.path) :
    ∃ before own after, emissions ++ [emission] = before ++ own :: after ∧
      entry = (own.path, own.unit generator) ∧ ∀ later ∈ after, later.path ≠ own.path := by
  obtain ⟨before, own, after, rfl, rfl, hlast⟩ := haccounts.last entry hentry
  refine ⟨before, own, after ++ [emission], by simp, rfl, ?_⟩
  intro later hlater
  rcases List.mem_append.mp hlater with hlater | hlater
  · exact hlast later hlater
  · rw [List.mem_singleton.mp hlater]
    exact Ne.symm hother

/-- What has just been inserted comes last. -/
theorem last_self (emission : Emission) :
    ∃ before own after, emissions ++ [emission] = before ++ own :: after ∧
      (emission.path, emission.unit generator) = (own.path, own.unit generator) ∧
        ∀ later ∈ after, later.path ≠ own.path :=
  ⟨emissions, emission, [], rfl, rfl, nofun⟩

theorem insert (haccounts : Accounts generator emissions progress) (emission : Emission)
    (pointer : String) :
    Accounts generator (emissions ++ [emission])
      (progress.insert pointer (emission.unit generator)) where
  balance := by
    rw [Progress.balance_insert, List.length_append, haccounts.balance, List.length_singleton]
  distinct := Progress.nodup_paths_insert haccounts.distinct pointer _
  kept := by
    intro other hother
    rw [Progress.paths_insert, Emission.unit_path]
    rcases List.mem_append.mp hother with hearlier | hself
    · have hkept := haccounts.kept other hearlier
      split
      · exact hkept
      · exact List.mem_append_left _ hkept
    · rw [List.mem_singleton.mp hself]
      split
      · assumption
      · exact List.mem_append_right _ (List.mem_singleton_self _)
  last := by
    intro entry hentry
    -- the new unit is the last one at its path, units at other paths stay the last ones
    rcases Progress.mem_units_insert hentry with rfl | ⟨hearlier, hother⟩
    · rw [Emission.unit_path]
      exact last_self emission
    · rw [Emission.unit_path] at hother
      exact haccounts.last_append hearlier hother

/-- A run keeps the account. -/
theorem steps (haccounts : Accounts generator emissions progress)
    (hsteps : Steps generator others progress result) :
    Accounts generator (emissions ++ others) result := by
  induction hsteps generalizing emissions with
  | refl => exact (List.append_nil emissions).symm ▸ haccounts
  | warn pointer default _ ih => exact ih (haccounts.warn pointer default)
  | insert emission pointer _ ih =>
      rw [List.append_cons]
      exact ih (haccounts.insert emission pointer)

/-- Units are kept at their own paths. -/
theorem paths_eq (haccounts : Accounts generator emissions progress) :
    progress.units.map (·.2.path) = progress.units.map (·.1) := by
  apply List.map_congr_left
  intro entry hentry
  obtain ⟨-, emission, -, -, rfl, -⟩ := haccounts.last entry hentry
  exact emission.unit_path _

end Accounts

/-! ## Whole runs -/

omit [Spelling] in
/-- Every type has one of four categories. -/
theorem GenerationStats.types_eq_sum (stats : GenerationStats) :
    stats.types =
      stats.count .struct + stats.count .enumeration + stats.count .union + stats.count .entry := by
  unfold types count
  induction stats.categories with
  | nil => rfl
  | cons category rest ih =>
      rw [List.length_cons, ih]
      cases category with
      | struct | enumeration | union | entry =>
          simp only [List.count_cons_self, List.count_cons_of_ne, ne_eq, reduceCtorEq,
            not_false_eq_true]
          omega

namespace Generation

/-- A unit that has been inserted, and after which no other one of its path has been. -/
def InsertedLast (generation : Generation) (unit : TypeUnit) : Prop :=
  ∃ before emission after, generation.emissions = before ++ emission :: after ∧
    emission.unit generation.generator = unit ∧ ∀ later ∈ after, later.path ≠ unit.path

/-- The output of a run accounts for everything that has been inserted. -/
structure Accounted (generation : Generation) (output : GenerationOutput)
    (files : List FileUnit) : Prop where
  /-- One unit is inserted for each emission of the definitions and of the root. -/
  inserted : ∃ progress,
    generation.realizeAll generation.targets generation.definitions = .ok progress ∧
      Steps generation.generator generation.emissions .empty progress
  written : files.mapM (writeFile generation.sourcePath) = .ok output.files
  reported : output.types = files.flatMap summaries
  balance : generation.emissions.length =
    output.types.length + output.stats.warnings.countP (·.isCollision)
  distinct : (output.types.map (·.path)).Nodup
  kept : ∀ emission ∈ generation.emissions, emission.path ∈ output.types.map (·.path)
  last : ∀ file ∈ files, ∀ unit ∈ file.types, generation.InsertedLast unit
  total : output.stats.types = output.types.length
  count : ∀ category, output.stats.count category =
    output.types.countP fun type => type.category == category
  sum : output.stats.types = output.stats.count .struct + output.stats.count .enumeration +
    output.stats.count .union + output.stats.count .entry

variable {generation : Generation} {output : GenerationOutput}

/-- **No type is lost silently.**  Every unit that a successful run inserts is reported, unless a
warning tells that another one has taken its place. -/
theorem exists_accounted (hrun : generation.run = .ok output) :
    ∃ files, Accounted generation output files := by
  obtain ⟨progress, hcompleted⟩ := exists_completed hrun
  have hsteps := steps_emissions hcompleted.realized
  have haccounts : Accounts generation.generator generation.emissions progress :=
    Accounts.empty.steps hsteps
  have htypes : (output.types.map (·.path)).Perm (progress.units.map (·.1)) :=
    haccounts.paths_eq ▸ hcompleted.paths_perm
  have hcategories := hcompleted.categories_perm
  refine ⟨generation.fileUnits progress, ?_⟩
  refine {
    inserted := ⟨progress, hcompleted.realized, hsteps⟩
    written := hcompleted.written
    reported := hcompleted.types
    balance := ?_
    distinct := htypes.nodup_iff.mpr haccounts.distinct
    kept := fun emission hemission => htypes.mem_iff.mpr (haccounts.kept emission hemission)
    last := ?_
    total := ?_
    count := ?_
    sum := output.stats.types_eq_sum }
  · rw [hcompleted.length_types, hcompleted.warnings]
    exact haccounts.balance
  · intro file hfile unit hunit
    have hmember : unit ∈ progress.units.map (·.2) := mem_files_types.mp ⟨file, hfile, hunit⟩
    obtain ⟨entry, hentry, rfl⟩ := List.mem_map.mp hmember
    obtain ⟨before, emission, after, hemissions, rfl, hlast⟩ := haccounts.last entry hentry
    refine ⟨before, emission, after, hemissions, rfl, ?_⟩
    rw [Emission.unit_path]
    exact hlast
  · have hsame := hcategories.length_eq
    rw [List.length_map] at hsame
    exact hsame.symm
  · intro category
    have hsame := hcategories.count_eq category
    rw [List.count, List.countP_map] at hsame
    exact hsame.symm

end Generation

end

namespace Generation

attribute [local instance] Spelling.plain

/-- Two properties whose structs have the same name. -/
def sharedName : Generation where
  document := .object [("type", .string "object"),
    ("properties", .object [
      ("a-b", .object [("properties", .object [])]),
      ("a_b", .object [("properties", .object [])])])]
  rootName := "Root"

set_option maxRecDepth 10000 in
/-- Three units have been inserted, and one of them has been replaced. -/
theorem accounted_sharedName :
    ∃ output, sharedName.run = .ok output ∧
      output.stats.warnings.countP (·.isCollision) = 1 ∧
        ∃ files, Accounted sharedName output files := by
  have hcheck : sharedName.run.toOption.any (fun output =>
      decide (output.stats.warnings.countP (·.isCollision) = 1)) = true := by
    decide +kernel
  obtain ⟨output, hrun, hcollision⟩ := exists_ok_of_any hcheck
  exact ⟨output, hrun, of_decide_eq_true hcollision, exists_accounted hrun⟩

end Generation

end SchemaTypes
