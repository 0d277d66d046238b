import SchemaTypes.Proofs.Name.Numbering

/-!
# The search for a free number ends

A name that is taken gets a number: 2, 3 and so on are tried until one of them makes the name free.
`ensureUnique` counts its attempts, one for each name in use, and ends by construction.  The search
itself has no bound.  Here it is a relation with one constructor for each outcome of a turn, so that
a search without an end would end nowhere.

* `Name.endsAt_iff_isLeast`: the search ends at the least free number, and nowhere else.
* `Name.exists_endsAt`: it ends, from whatever number it starts.
* `Name.EndsAt.le_length_succ`: how far it goes at most.
* `Name.returns_ensureUnique_least`: it returns what `ensureUnique` gives.
-/

namespace SchemaTypes.Name

variable {base name : String} {used : List String} {number chosen : Nat}

/-! ## One number after the other -/

/-- The search that tries `number` next ends at `chosen`.  A turn stops at a number that makes the
name free, and goes on to the next number otherwise. -/
inductive EndsAt (base : String) (used : List String) : (number chosen : Nat) → Prop
  | free {number : Nat} (hfree : base ++ toString number ∉ used) : EndsAt base used number number
  | taken {number chosen : Nat} (htaken : base ++ toString number ∈ used)
      (hends : EndsAt base used (number + 1) chosen) : EndsAt base used number chosen

/-- The numbers from `first` on that make the name free. -/
def freeNumbers (base : String) (used : List String) (first : Nat) : Set Nat :=
  {number | first ≤ number ∧ base ++ toString number ∉ used}

/-- **One turn.**  A number that is taken is left behind, and no free number with it. -/
theorem freeNumbers_succ (htaken : base ++ toString number ∈ used) :
    freeNumbers base used (number + 1) = freeNumbers base used number := by
  ext candidate
  refine ⟨fun ⟨hle, hfree⟩ => ⟨by omega, hfree⟩, fun ⟨hle, hfree⟩ => ⟨?_, hfree⟩⟩
  have hne : number ≠ candidate := by
    rintro rfl
    exact hfree htaken
  omega

theorem EndsAt.isLeast (hends : EndsAt base used number chosen) :
    IsLeast (freeNumbers base used number) chosen := by
  induction hends with
  | free hfree => exact ⟨⟨le_rfl, hfree⟩, fun candidate hcandidate => hcandidate.1⟩
  | taken htaken _ ih => rwa [freeNumbers_succ htaken] at ih

theorem endsAt_of_isLeast (hleast : IsLeast (freeNumbers base used number) chosen) :
    EndsAt base used number chosen := by
  obtain ⟨turns, hturns⟩ := Nat.exists_eq_add_of_le hleast.1.1
  induction turns generalizing number with
  | zero =>
      obtain rfl : chosen = number := hturns
      exact .free hleast.1.2
  | succ turns ih =>
      have htaken : base ++ toString number ∈ used := by
        by_contra hfree
        have hle : chosen ≤ number := hleast.2 ⟨le_rfl, hfree⟩
        omega
      rw [← freeNumbers_succ htaken] at hleast
      exact .taken htaken (ih hleast (by omega))

/-- **Where the search ends**: at the least free number from its start on. -/
theorem endsAt_iff_isLeast :
    EndsAt base used number chosen ↔ IsLeast (freeNumbers base used number) chosen :=
  ⟨EndsAt.isLeast, endsAt_of_isLeast⟩

/-- **The search ends**, at the number that the bounded one chooses. -/
theorem exists_endsAt (base : String) (used : List String) (number : Nat) :
    ∃ chosen, EndsAt base used number chosen ∧
      numbered base used used.length number = base ++ toString chosen := by
  obtain ⟨chosen, hle, hnumbered, hsmaller, -⟩ := exists_numbered base used used.length number
  have hfree : base ++ toString chosen ∉ used := by
    rw [← hnumbered]
    exact numbered_not_mem le_rfl
  refine ⟨chosen, endsAt_of_isLeast ⟨⟨hle, hfree⟩, fun candidate hcandidate => ?_⟩, hnumbered⟩
  by_contra hlt
  exact hcandidate.2 (hsmaller candidate hcandidate.1 (by omega))

theorem append_number_ne_self (base : String) (number : Nat) : base ++ toString number ≠ base := by
  intro hsame
  have hnone := congrArg String.toList hsame
  rw [String.toList_append, toList_toString, List.append_right_eq_self] at hnone
  exact Nat.toDigits_ne_nil hnone

/-- **How far the search goes.**  The name itself is one of the names in use, and each number that
is passed over takes another one.  So a counter that holds one more than the number of names in use
does not overflow. -/
theorem EndsAt.le_length_succ (hbase : base ∈ used) (hends : EndsAt base used 2 chosen) :
    chosen ≤ used.length + 1 := by
  have hpassed : ∀ step < chosen - 2, base ++ toString (2 + step) ∈ used.erase base := by
    intro step hstep
    rw [List.mem_erase_of_ne (append_number_ne_self base (2 + step))]
    by_contra hfree
    have hle : chosen ≤ 2 + step := hends.isLeast.2 ⟨by omega, hfree⟩
    omega
  have hcount := count_le_length hpassed
  have hsome : 0 < used.length := List.length_pos_of_mem hbase
  rw [List.length_erase_of_mem hbase] at hcount
  omega

/-! ## The name that is returned -/

/-- A name is returned as it is when it is free, else with the number at which the search from 2 on
ends. -/
inductive Returns (base : String) (used : List String) : String → Prop
  | free (hfree : base ∉ used) : Returns base used base
  | numbered {chosen : Nat} (htaken : base ∈ used) (hends : EndsAt base used 2 chosen) :
      Returns base used (base ++ toString chosen)

theorem returns_ensureUnique (base : String) (used : List String) :
    Returns base used (ensureUnique base used) := by
  rw [ensureUnique]
  by_cases htaken : used.contains base
  · obtain ⟨chosen, hends, hnumbered⟩ := exists_endsAt base used 2
    rw [if_pos htaken, hnumbered]
    exact .numbered (List.contains_iff_mem.mp htaken) hends
  · rw [if_neg htaken]
    exact .free fun hmem => htaken (List.contains_iff_mem.mpr hmem)

theorem Returns.unique {other : String} (hname : Returns base used name)
    (hother : Returns base used other) : name = other := by
  cases hname with
  | free hfree =>
      cases hother with
      | free => rfl
      | numbered htaken => exact absurd htaken hfree
  | numbered htaken hends =>
      cases hother with
      | free hfree => exact absurd htaken hfree
      | numbered _ hother => rw [hends.isLeast.unique hother.isLeast]

theorem Returns.congr {used' : List String} (hsame : ∀ name, name ∈ used ↔ name ∈ used')
    (hname : Returns base used name) : Returns base used' name := by
  have hnumbers : freeNumbers base used 2 = freeNumbers base used' 2 := by
    simp only [freeNumbers, hsame]
  cases hname with
  | free hfree => exact .free fun hmem => hfree ((hsame base).mpr hmem)
  | numbered htaken hends =>
      rw [endsAt_iff_isLeast, hnumbers, ← endsAt_iff_isLeast] at hends
      exact .numbered ((hsame base).mp htaken) hends

/-- The names in use are a set: neither their order matters nor how often one of them comes. -/
theorem ensureUnique_congr {used' : List String} (hsame : ∀ name, name ∈ used ↔ name ∈ used') :
    ensureUnique base used = ensureUnique base used' :=
  ((returns_ensureUnique base used).congr hsame).unique (returns_ensureUnique base used')

/-- **The search ends with the least free name.**  Exactly one name is returned, and it is not in
use: the name itself when that is free, else the name with the least number from 2 on that makes it
free.  This number is at most one more than there are names in use. -/
theorem returns_ensureUnique_least (base : String) (used : List String) :
    (∀ name, Returns base used name ↔ name = ensureUnique base used) ∧
      ensureUnique base used ∉ used ∧
      (base ∉ used ∧ ensureUnique base used = base ∨
        base ∈ used ∧ ∃ number ≤ used.length + 1, IsLeast (freeNumbers base used 2) number ∧
          ensureUnique base used = base ++ toString number) := by
  have hreturns := returns_ensureUnique base used
  refine ⟨fun name => ⟨fun hname => hname.unique hreturns, ?_⟩, ensureUnique_not_mem, ?_⟩
  · rintro rfl
    exact hreturns
  · generalize ensureUnique base used = unique at hreturns
    cases hreturns with
    | free hfree => exact .inl ⟨hfree, rfl⟩
    | @numbered chosen htaken hends =>
        exact .inr ⟨htaken, chosen, hends.le_length_succ htaken, hends.isLeast, rfl⟩

example : ensureUnique "VALUE_A" ["VALUE_A", "VALUE_A2"] = "VALUE_A3" := by decide

end SchemaTypes.Name
