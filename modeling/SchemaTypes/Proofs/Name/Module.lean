import Mathlib
import SchemaTypes.Generation.Run
import SchemaTypes.Proofs.Name.FieldName

/-!
# Module names and file paths

A module is declared under its name and stored under its bare name, without the mark of raw
identifiers.  Two modules must not end up in one file, although a name may differ from another one
in that mark only.  This file shows that this cannot happen to names that come from a schema: a name
is marked exactly when it is a keyword.

* `Name.IsModuleName`: what a module name looks like; all names from a schema are of that kind.
* `Name.bare_injective`: such names are told apart by their bare names.
* `Namespace.filePath_injective`: namespaces are told apart by their files.
-/

namespace SchemaTypes

namespace Name

/-! ## Module names -/

/-- A keyword that is marked as a raw identifier, or a plain name that is no keyword. -/
def IsModuleName (name : String) : Prop :=
  (∃ word ∈ forbiddenWords, name = "r#" ++ word) ∨ IsPlain name.toList ∧ name ∉ forbiddenWords

theorem IsFieldName.isModuleName {name : String} (hname : IsFieldName name) :
    IsModuleName name := by
  obtain ⟨⟨first, rest, hchars, -, hsnake⟩, hmark, -⟩ := hname
  by_cases hkeyword : bare name ∈ forbiddenWords
  · rw [if_pos hkeyword] at hmark
    exact .inl ⟨bare name, hkeyword, hmark⟩
  · rw [if_neg hkeyword] at hmark
    rw [← hmark] at hchars hkeyword
    exact .inr ⟨hchars ▸ hsnake.isPlain, hkeyword⟩

/-- Names from a schema are module names. -/
theorem isModuleName_moduleName [Spelling] (hsnake : WritesSnakeCase Spelling.snake)
    (segment : String) : IsModuleName (moduleName segment) :=
  (isFieldName_moduleNameBy hsnake _ segment).isModuleName

/-- **Bare names tell modules apart.** -/
theorem bare_injective {name other : String} (hname : IsModuleName name)
    (hother : IsModuleName other) (hbare : bare name = bare other) : name = other := by
  rcases hname with ⟨word, hword, rfl⟩ | ⟨hplain, hfree⟩
  · rw [bare_raw] at hbare
    rcases hother with ⟨word', -, rfl⟩ | ⟨hplain', hfree'⟩
    · rw [bare_raw] at hbare
      rw [hbare]
    · -- a plain name is no keyword
      rw [bare_plain hplain'] at hbare
      exact absurd (hbare ▸ hword) hfree'
  · rw [bare_plain hplain] at hbare
    rcases hother with ⟨word', hword', rfl⟩ | ⟨hplain', -⟩
    · rw [bare_raw] at hbare
      exact absurd (hbare ▸ hword') hfree
    · rw [bare_plain hplain'] at hbare
      exact hbare

theorem slash_not_mem_bare {name : String} (hname : IsModuleName name) :
    '/' ∉ (bare name).toList := by
  rcases hname with ⟨word, hword, rfl⟩ | ⟨hplain, -⟩
  · rw [bare_raw]
    have hwords : ∀ word ∈ forbiddenWords, '/' ∉ word.toList := by decide
    exact hwords word hword
  · rw [bare_plain hplain]
    intro hslash
    exact absurd (hplain '/' hslash) (by decide)

end Name

namespace Namespace

/-- The file of a namespace lies in one directory for each module. -/
theorem splitOn_filePath {segments : List String}
    (hsegments : ∀ segment ∈ segments, Name.IsModuleName segment) :
    (filePath segments).toList.splitOn '/' =
      (segments.map Name.bare ++ ["mod.rs"]).map String.toList := by
  rw [filePath, String.toList_intercalate]
  apply List.splitOn_intercalate
  · intro piece hpiece
    obtain ⟨text, htext, rfl⟩ := List.mem_map.mp hpiece
    rcases List.mem_append.mp htext with hmodule | hfile
    · obtain ⟨segment, hsegment, rfl⟩ := List.mem_map.mp hmodule
      exact Name.slash_not_mem_bare (hsegments segment hsegment)
    · rw [List.mem_singleton.mp hfile]
      decide
  · simp

theorem bare_map_injective {segments others : List String}
    (hsegments : ∀ segment ∈ segments, Name.IsModuleName segment)
    (hothers : ∀ segment ∈ others, Name.IsModuleName segment)
    (hbare : segments.map Name.bare = others.map Name.bare) : segments = others := by
  induction segments generalizing others with
  | nil => exact (List.map_eq_nil_iff.mp hbare.symm).symm
  | cons segment rest ih =>
      cases others with
      | nil => cases hbare
      | cons other more =>
          rw [List.map_cons, List.map_cons, List.cons.injEq] at hbare
          rw [List.forall_mem_cons] at hsegments hothers
          rw [Name.bare_injective hsegments.1 hothers.1 hbare.1,
            ih hsegments.2 hothers.2 hbare.2]

/-- **Files tell namespaces apart.** -/
theorem filePath_injective {segments others : List String}
    (hsegments : ∀ segment ∈ segments, Name.IsModuleName segment)
    (hothers : ∀ segment ∈ others, Name.IsModuleName segment)
    (hpath : filePath segments = filePath others) : segments = others := by
  have hpieces := splitOn_filePath hsegments
  rw [hpath, splitOn_filePath hothers] at hpieces
  have htexts := List.map_injective_iff.mpr (fun _ _ => String.toList_injective) hpieces
  exact (bare_map_injective hothers hsegments (List.append_cancel_right htexts)).symm

end Namespace

end SchemaTypes
