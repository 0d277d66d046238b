import Mathlib.Tactic
import SchemaTypes.Name.Identifier

/-!
# Type names grow

The name of a type that is generated for a property starts with the name of the struct that has the
property.  What is done to a name in the end only makes it longer, so a name comes back in one case:
the key and the suffix add nothing to it, and it is finished already.

* `Name.capitalize_camelCase_eq_nil_iff`: the keys that add nothing.
* `Name.typeNameFor_eq_or_length_lt`: a name is kept, or it grows.
* `Name.typeNameFor_eq_iff`: when a name is kept.
-/

namespace SchemaTypes.Name

/-! ## Keys that add nothing -/

/-- A key without letters and digits. -/
def IsUnlabelled [Spelling] (key : String) : Prop :=
  ∀ c ∈ Spelling.ascii key.toList, isAlphanumeric c = false

instance [Spelling] : DecidablePred IsUnlabelled := fun key =>
  List.decidableBAll (fun c => isAlphanumeric c = false) (Spelling.ascii key.toList)

theorem isAlphanumeric_of_isKeySeparator {c : Char} (hc : isKeySeparator c = true) :
    isAlphanumeric c = false := by
  simp only [isKeySeparator, Bool.or_eq_true, beq_iff_eq] at hc
  rcases hc with ((rfl | rfl) | rfl) | rfl <;> rfl

theorem camelCaseFrom_eq_nil_iff (capital begun : Bool) (text : List Char) :
    camelCaseFrom capital begun text = [] ↔ ∀ c ∈ text, isAlphanumeric c = false := by
  fun_induction camelCaseFrom capital begun text with
  | case1 capital begun => simp
  | case2 capital begun c rest hseparator ih =>
      rw [ih, List.forall_mem_cons,
        and_iff_right (isAlphanumeric_of_isKeySeparator hseparator)]
  | case3 capital begun c rest hseparator hother ih =>
      rw [ih, List.forall_mem_cons, and_iff_right (by simpa using hother)]
  | case4 capital begun c rest hseparator hlabel ih =>
      refine iff_of_false (List.cons_ne_nil _ _) fun hnone => hlabel ?_
      rw [hnone c List.mem_cons_self]
      rfl

theorem upperCase_ne_nil (c : Char) : Text.upperCase c ≠ [] := by
  have hlong : ∀ entry ∈ Text.longUpperCases, entry.2 ≠ [] := by decide
  unfold Text.upperCase
  split
  · exact List.cons_ne_nil _ _
  · split
    · rename_i codes hcodes
      obtain ⟨before, after, htable, -⟩ := List.lookup_eq_some_iff.mp hcodes
      have hmem : (c.toNat, codes) ∈ Text.longUpperCases := by simp [htable]
      simpa using hlong _ hmem
    · split
      · exact List.cons_ne_nil _ _
      · exact List.cons_ne_nil _ _

theorem capitalize_eq_nil_iff {name : List Char} : capitalize name = [] ↔ name = [] := by
  cases name with
  | nil => rfl
  | cons c rest => simp [capitalize, upperCase_ne_nil c]

/-- **Keys that add nothing** to a name are those without letters and digits. -/
theorem capitalize_camelCase_eq_nil_iff [Spelling] (key : String) :
    capitalize (camelCase key.toList) = [] ↔ IsUnlabelled key := by
  rw [capitalize_eq_nil_iff, camelCase, camelCaseBy, camelCaseFrom_eq_nil_iff, IsUnlabelled]

/-! ## Finished names -/

/-- A name that is left as it is in the end. -/
def IsFinished (name : String) : Prop := finishTypeName name.toList = name

/-- Finishing a name only adds to it, at either end. -/
theorem exists_finishTypeName_eq (name : List Char) :
    ∃ start ending, (finishTypeName name).toList = start ++ name ++ ending := by
  have hmark : ∃ start, markLeadingDigit 'T' name = start ++ name := by
    unfold markLeadingDigit
    split
    · exact ⟨['T'], rfl⟩
    · exact ⟨[], rfl⟩
  obtain ⟨start, hstart⟩ := hmark
  unfold finishTypeName
  split
  · rename_i hempty
    rw [List.isEmpty_iff.mp hempty]
    exact ⟨[], "Unnamed".toList, rfl⟩
  · dsimp only
    split
    · exact ⟨start, "Type".toList, by rw [String.toList_append, String.toList_ofList, hstart]⟩
    · exact ⟨start, [], by rw [String.toList_ofList, hstart, List.append_nil]⟩

section

variable [Spelling] {parent key suffix : String}

theorem typeNameFor_eq (parent key suffix : String) :
    typeNameFor parent key suffix =
      finishTypeName (parent.toList ++ capitalize (camelCase key.toList) ++ suffix.toList) :=
  rfl

/-- The name of the struct stands in the name of the type, and the key and the suffix after it. -/
theorem exists_typeNameFor_eq (parent key suffix : String) :
    ∃ start ending, (typeNameFor parent key suffix).toList =
      start ++ parent.toList ++
        (capitalize (camelCase key.toList) ++ suffix.toList ++ ending) := by
  obtain ⟨start, ending, hname⟩ := exists_finishTypeName_eq
    (parent.toList ++ capitalize (camelCase key.toList) ++ suffix.toList)
  refine ⟨start, ending, hname.trans ?_⟩
  simp only [List.append_assoc]

/-- **A name is kept, or it grows.** -/
theorem typeNameFor_eq_or_length_lt (parent key suffix : String) :
    typeNameFor parent key suffix = parent ∨
      parent.length < (typeNameFor parent key suffix).length := by
  obtain ⟨start, ending, hname⟩ := exists_typeNameFor_eq parent key suffix
  set added := capitalize (camelCase key.toList) ++ suffix.toList ++ ending
  have hlength := congrArg List.length hname
  rw [List.length_append, List.length_append, String.length_toList, String.length_toList]
    at hlength
  by_cases hnone : start.length + added.length = 0
  · left
    have hstart : start = [] := List.length_eq_zero_iff.mp (by omega)
    have hadded : added = [] := List.length_eq_zero_iff.mp (by omega)
    rw [hstart, hadded, List.nil_append, List.append_nil] at hname
    exact String.toList_injective hname
  · right
    omega

/-- **When a name is kept.**  Neither the key nor the suffix adds to it, and it is finished. -/
theorem typeNameFor_eq_iff :
    typeNameFor parent key suffix = parent ↔
      IsUnlabelled key ∧ suffix = "" ∧ IsFinished parent := by
  constructor
  · intro hkept
    obtain ⟨start, ending, hname⟩ := exists_typeNameFor_eq parent key suffix
    have hlength := congrArg List.length hname
    simp only [hkept, List.length_append] at hlength
    have hkey : capitalize (camelCase key.toList) = [] :=
      List.length_eq_zero_iff.mp (by omega)
    have hsuffix : suffix = "" := by
      apply String.toList_injective
      exact List.length_eq_zero_iff.mp (by omega)
    subst hsuffix
    refine ⟨(capitalize_camelCase_eq_nil_iff key).mp hkey, rfl, ?_⟩
    rwa [typeNameFor_eq, hkey, String.toList_empty, List.append_nil, List.append_nil] at hkept
  · rintro ⟨hkey, rfl, hparent⟩
    rw [typeNameFor_eq, (capitalize_camelCase_eq_nil_iff key).mpr hkey, String.toList_empty,
      List.append_nil, List.append_nil]
    exact hparent

end

end SchemaTypes.Name
