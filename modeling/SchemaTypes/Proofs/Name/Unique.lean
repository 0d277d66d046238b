import Mathlib.Tactic
import SchemaTypes.Name.Unique

/-!
# Unique names are unique

Numbers are tried one after the other, and there are more of them than names in use, so one of the
candidates is free.

* `Name.exists_numbered`: the number that is chosen, and those before it.
* `Name.count_le_length`: no more numbers are taken than there are names in use.
* `Name.ensureUnique_not_mem`: the name that is chosen is not in use.
* `Name.nodup_ensureAllUnique`: names that are made unique are distinct.
-/

namespace SchemaTypes.Name

variable {base : String} {used : List String}

theorem numbered_injective (base : String) :
    Function.Injective fun number : Nat => base ++ toString number := by
  intro number other hsame
  have hdigits : Nat.toDigits 10 number = Nat.toDigits 10 other := by
    have htexts := congrArg String.toList hsame
    simpa [Nat.toString_eq_repr, Nat.toList_repr] using htexts
  calc
    number = Nat.ofDigitChars 10 (Nat.toDigits 10 number) 0 := Nat.ofDigitChars_ten_toDigits.symm
    _ = Nat.ofDigitChars 10 (Nat.toDigits 10 other) 0 := by rw [hdigits]
    _ = other := Nat.ofDigitChars_ten_toDigits

/-- **Which number is chosen.**  All numbers before it are in use, and it is itself in use only when
no attempts are left. -/
theorem exists_numbered (base : String) (used : List String) (attempts number : Nat) :
    ∃ chosen, number ≤ chosen ∧ numbered base used attempts number = base ++ toString chosen ∧
      (∀ smaller, number ≤ smaller → smaller < chosen → base ++ toString smaller ∈ used) ∧
      (base ++ toString chosen ∈ used → chosen = number + attempts) := by
  induction attempts generalizing number with
  | zero =>
      exact ⟨number, le_rfl, rfl, fun smaller hle hlt => absurd hlt (not_lt.mpr hle), fun _ => rfl⟩
  | succ attempts ih =>
      rw [numbered]
      by_cases htaken : used.contains (base ++ toString number)
      · rw [if_pos htaken]
        obtain ⟨chosen, hchosen, hnumbered, hsmaller, hlast⟩ := ih (number + 1)
        refine ⟨chosen, by omega, hnumbered, fun smaller hle hlt => ?_, fun hmem => ?_⟩
        · rcases hle.eq_or_lt with rfl | hlater
          · exact List.contains_iff_mem.mp htaken
          · exact hsmaller smaller hlater hlt
        · have := hlast hmem
          omega
      · rw [if_neg htaken]
        exact ⟨number, le_rfl, rfl, fun smaller hle hlt => absurd hlt (not_lt.mpr hle),
          fun hmem => absurd (List.contains_iff_mem.mpr hmem) htaken⟩

/-- Different numbers take different names, so there are not more of them in use than names. -/
theorem count_le_length {first count : Nat}
    (htaken : ∀ step < count, base ++ toString (first + step) ∈ used) : count ≤ used.length := by
  have hcandidates : ∀ name ∈ (List.range count).map
      fun step => base ++ toString (first + step), name ∈ used := by
    intro name hname
    obtain ⟨step, hstep, rfl⟩ := List.mem_map.mp hname
    exact htaken step (List.mem_range.mp hstep)
  have hdistinct : ((List.range count).map
      fun step => base ++ toString (first + step)).Nodup :=
    List.nodup_range.map ((numbered_injective base).comp (add_right_injective first))
  have hlength := (hdistinct.subperm hcandidates).length_le
  rwa [List.length_map, List.length_range] at hlength

theorem numbered_not_mem {attempts number : Nat} (hattempts : used.length ≤ attempts) :
    numbered base used attempts number ∉ used := by
  intro hmem
  obtain ⟨chosen, -, hnumbered, hsmaller, hlast⟩ := exists_numbered base used attempts number
  rw [hnumbered] at hmem
  obtain rfl := hlast hmem
  -- one candidate more than there are names in use
  have hcandidates : ∀ step < attempts + 1, base ++ toString (number + step) ∈ used := by
    intro step hstep
    rcases (Nat.lt_succ_iff.mp hstep).eq_or_lt with rfl | hearlier
    · exact hmem
    · exact hsmaller (number + step) (by omega) (by omega)
  have hcount := count_le_length hcandidates
  omega

/-- **The chosen name is free.** -/
theorem ensureUnique_not_mem : ensureUnique base used ∉ used := by
  rw [ensureUnique]
  by_cases htaken : used.contains base
  · rw [if_pos htaken]
    exact numbered_not_mem le_rfl
  · rw [if_neg htaken]
    exact fun hmem => htaken (List.contains_iff_mem.mpr hmem)

theorem ensureAllUnique_cons (used : List String) (name : String) (rest : List String) :
    ensureAllUnique used (name :: rest) =
      ensureUnique name used :: ensureAllUnique (ensureUnique name used :: used) rest := rfl

theorem length_ensureAllUnique (used names : List String) :
    (ensureAllUnique used names).length = names.length := by
  induction names generalizing used with
  | nil => rfl
  | cons name rest ih => rw [ensureAllUnique_cons, List.length_cons, ih, List.length_cons]

theorem ensureAllUnique_not_mem {names : List String} {name : String}
    (hname : name ∈ ensureAllUnique used names) : name ∉ used := by
  induction names generalizing used with
  | nil => cases hname
  | cons first rest ih =>
      rw [ensureAllUnique_cons] at hname
      rcases List.mem_cons.mp hname with rfl | hlater
      · exact ensureUnique_not_mem
      · intro hused
        exact ih hlater (List.mem_cons_of_mem _ hused)

/-- **Names that are made unique are distinct.** -/
theorem nodup_ensureAllUnique (used names : List String) : (ensureAllUnique used names).Nodup := by
  induction names generalizing used with
  | nil => exact List.nodup_nil
  | cons name rest ih =>
      rw [ensureAllUnique_cons, List.nodup_cons]
      refine ⟨fun hlater => ?_, ih _⟩
      exact ensureAllUnique_not_mem hlater List.mem_cons_self

end SchemaTypes.Name
