import Mathlib.Data.List.DropRight
import SchemaTypes.Proofs.Name.Suffix

/-!
# Which numbers names get

A name that is taken gets the least number that makes it free.  So when a name comes again and
again, and no other name gets in between, its numbers are used up one after the other.

* `Name.ensureUnique_cases`: what a name becomes.
* `Name.append_number_inj`: a number is told from a name that does not end in a digit.
* `Name.mem_ensureAllUnique_iff`: the numbers of a name that comes several times.
-/

namespace SchemaTypes.Name

variable {base name : String} {used names : List String}

/-! ## One name -/

/-- **What a name becomes.**  A free name stays; one that is taken gets the least free number. -/
theorem ensureUnique_cases (base : String) (used : List String) :
    (base ∉ used ∧ ensureUnique base used = base) ∨
      base ∈ used ∧ ∃ number, 2 ≤ number ∧ ensureUnique base used = base ++ toString number ∧
        ∀ smaller, 2 ≤ smaller → smaller < number → base ++ toString smaller ∈ used := by
  rw [ensureUnique]
  by_cases htaken : used.contains base
  · rw [if_pos htaken]
    obtain ⟨number, hle, hnumbered, hsmaller, -⟩ := exists_numbered base used used.length 2
    exact .inr ⟨List.contains_iff_mem.mp htaken, number, hle, hnumbered, hsmaller⟩
  · rw [if_neg htaken]
    exact .inl ⟨fun hmem => htaken (List.contains_iff_mem.mpr hmem), rfl⟩

/-- A name as it is, or with a number that tells it from the first one. -/
def IsVariant (base name : String) : Prop :=
  name = base ∨ ∃ number : Nat, 2 ≤ number ∧ name = base ++ toString number

theorem isVariant_ensureUnique (base : String) (used : List String) :
    IsVariant base (ensureUnique base used) := by
  rcases ensureUnique_cases base used with ⟨-, hsame⟩ | ⟨-, number, hnumber, hsame, -⟩
  · exact .inl hsame
  · exact .inr ⟨number, hnumber, hsame⟩

/-- **Each unique name** is the name in its place, as it is or with a number. -/
theorem forall₂_ensureAllUnique (used names : List String) :
    List.Forall₂ IsVariant names (ensureAllUnique used names) := by
  induction names generalizing used with
  | nil => exact .nil
  | cons first rest ih => exact .cons (isVariant_ensureUnique first used) (ih _)

theorem exists_of_mem_of_forall₂ {α β : Type} {relation : α → β → Prop} {items : List α}
    {others : List β} (hrelated : List.Forall₂ relation items others) {other : β}
    (hother : other ∈ others) : ∃ item ∈ items, relation item other := by
  induction hrelated with
  | nil => cases hother
  | cons hfirst _ ih =>
      rcases List.mem_cons.mp hother with rfl | hlater
      · exact ⟨_, List.mem_cons_self, hfirst⟩
      · obtain ⟨item, hitem, hrelation⟩ := ih hlater
        exact ⟨item, List.mem_cons_of_mem _ hitem, hrelation⟩

theorem exists_of_mem_ensureAllUnique (hname : name ∈ ensureAllUnique used names) :
    ∃ base ∈ names, IsVariant base name :=
  exists_of_mem_of_forall₂ (forall₂_ensureAllUnique used names) hname

/-- A name is in use after its turn, if not before. -/
theorem mem_ensureAllUnique_of_mem (hname : name ∈ names) (hfree : name ∉ used) :
    name ∈ ensureAllUnique used names := by
  induction names generalizing used with
  | nil => cases hname
  | cons first rest ih =>
      rw [ensureAllUnique_cons, List.mem_cons]
      by_cases hfirst : name = ensureUnique first used
      · exact .inl hfirst
      · rcases List.mem_cons.mp hname with rfl | hlater
        · rcases ensureUnique_cases name used with ⟨-, hsame⟩ | ⟨htaken, -⟩
          · exact .inl hsame.symm
          · exact absurd htaken hfree
        · refine .inr (ih hlater ?_)
          rw [List.mem_cons, not_or]
          exact ⟨hfirst, hfree⟩

/-! ## Names and numbers -/

/-- A name that does not end in a digit. -/
def IsUnnumbered (name : String) : Prop := ∀ c ∈ name.toList.getLast?, c.isDigit = false

instance : DecidablePred IsUnnumbered := fun name =>
  decidable_of_iff ((name.toList.getLast?.all fun c => !c.isDigit) = true) <| by
    unfold IsUnnumbered
    cases name.toList.getLast? <;> simp

theorem rdropWhile_append_number (hname : IsUnnumbered name) (number : Nat) :
    (name ++ toString number).toList.rdropWhile Char.isDigit = name.toList := by
  have hdigits : ∀ c ∈ (Nat.toDigits 10 number).reverse, c.isDigit = true := fun c hc =>
    Nat.isDigit_of_mem_toDigits (by decide) le_rfl (List.mem_reverse.mp hc)
  rw [String.toList_append, toList_toString, List.rdropWhile, List.reverse_append,
    List.dropWhile_append_of_pos hdigits, ← List.rdropWhile]
  apply List.rdropWhile_eq_self_iff.mpr
  intro hsome
  simpa using hname _ (List.getLast?_eq_some_getLast hsome)

/-- **Numbers of names.**  Names that do not end in a digit are told apart from their numbers. -/
theorem append_number_inj {other : String} {number number' : Nat} (hname : IsUnnumbered name)
    (hother : IsUnnumbered other)
    (hsame : name ++ toString number = other ++ toString number') :
    name = other ∧ number = number' := by
  have hnames : name = other := by
    apply String.toList_injective
    rw [← rdropWhile_append_number hname number, hsame, rdropWhile_append_number hother]
  subst hnames
  exact ⟨rfl, numbered_injective name hsame⟩

theorem IsUnnumbered.ne_append (hname : IsUnnumbered name) (base : String) (number : Nat) :
    name ≠ base ++ toString number := by
  rintro rfl
  have hdigits : Nat.toDigits 10 number ≠ [] := Nat.toDigits_ne_nil
  have hlast : (base ++ toString number).toList.getLast? =
      some ((Nat.toDigits 10 number).getLast hdigits) := by
    rw [String.toList_append, toList_toString, List.getLast?_append_of_ne_nil _ hdigits,
      List.getLast?_eq_some_getLast hdigits]
  have hdigit := Nat.isDigit_of_mem_toDigits (b := 10) (by decide) le_rfl
    (List.getLast_mem hdigits)
  rw [hname _ hlast] at hdigit
  cases hdigit

/-- A name that does not end in a digit is used exactly when it is one of the names. -/
theorem IsUnnumbered.mem_ensureAllUnique_iff (hname : IsUnnumbered name) :
    name ∈ ensureAllUnique [] names ↔ name ∈ names := by
  constructor
  · intro hmem
    obtain ⟨base, hbase, rfl | ⟨number, -, rfl⟩⟩ := exists_of_mem_ensureAllUnique hmem
    · exact hbase
    · exact absurd rfl (hname.ne_append base number)
  · exact fun hmem => mem_ensureAllUnique_of_mem hmem List.not_mem_nil

/-! ## A name that comes several times -/

/-- A name and its numbers are in use up to a count. -/
structure InUseUpTo (base : String) (used : List String) (count : Nat) : Prop where
  self : base ∈ used ↔ 1 ≤ count
  numbers : ∀ number, 2 ≤ number → (base ++ toString number ∈ used ↔ number ≤ count)

/-- A name that is never mistaken for the base or one of its numbers, whatever number it gets. -/
structure KeepsClear (base name : String) : Prop where
  self : ∀ number : Nat, name ≠ base ++ toString number
  numbers : ∀ number number' : Nat, name ++ toString number ≠ base ++ toString number'

namespace InUseUpTo

variable {count : Nat}

/-- The next time the base comes, it gets the next number. -/
theorem step_self (hused : InUseUpTo base used count) (hbase : IsUnnumbered base) :
    InUseUpTo base (ensureUnique base used :: used) (count + 1) := by
  rcases ensureUnique_cases base used with ⟨hfree, hsame⟩ | ⟨htaken, chosen, hchosen, hsame, hleast⟩
  · have hcount : count = 0 := by
      by_contra hsome
      exact hfree (hused.self.mpr (by omega))
    subst hcount
    rw [hsame]
    refine ⟨iff_of_true List.mem_cons_self le_rfl, fun number hnumber => ?_⟩
    refine iff_of_false ?_ (by omega)
    rw [List.mem_cons, hused.numbers number hnumber, not_or]
    exact ⟨(hbase.ne_append base number).symm, by omega⟩
  · have hcount : 1 ≤ count := hused.self.mp htaken
    -- the numbers in use have no gap, and the one that is chosen comes right after them
    have hnext : chosen = count + 1 := by
      have hbeyond : ¬chosen ≤ count := by
        rw [← hused.numbers chosen hchosen, ← hsame]
        exact ensureUnique_not_mem
      by_contra hgap
      have hskipped := hleast (count + 1) (by omega) (by omega)
      rw [hused.numbers (count + 1) (by omega)] at hskipped
      omega
    rw [hsame, hnext]
    refine ⟨iff_of_true (List.mem_cons_of_mem _ htaken) (by omega), fun number hnumber => ?_⟩
    rw [List.mem_cons, hused.numbers number hnumber]
    constructor
    · rintro (hlast | hearlier)
      · have := numbered_injective base hlast
        omega
      · omega
    · intro hle
      rcases hle.eq_or_lt with rfl | hlt
      · exact .inl rfl
      · exact .inr (by omega)

/-- Other names leave the numbers alone. -/
theorem step_other (hused : InUseUpTo base used count) (hbase : IsUnnumbered base)
    (hne : name ≠ base) (hclear : KeepsClear base name) :
    InUseUpTo base (ensureUnique name used :: used) count := by
  have hself : base ≠ ensureUnique name used := by
    rcases ensureUnique_cases name used with ⟨-, hsame⟩ | ⟨-, number, -, hsame, -⟩
    · rw [hsame]
      exact hne.symm
    · rw [hsame]
      exact hbase.ne_append name number
  have hnumbers : ∀ number : Nat, base ++ toString number ≠ ensureUnique name used := by
    intro number
    rcases ensureUnique_cases name used with ⟨-, hsame⟩ | ⟨-, own, -, hsame, -⟩
    · rw [hsame]
      exact (hclear.self number).symm
    · rw [hsame]
      exact (hclear.numbers own number).symm
  refine ⟨?_, fun number hnumber => ?_⟩
  · rw [List.mem_cons, or_iff_right hself, hused.self]
  · rw [List.mem_cons, or_iff_right (hnumbers number), hused.numbers number hnumber]

/-- What is in use after a run over some names. -/
theorem run (hused : InUseUpTo base used count) (hbase : IsUnnumbered base)
    (hothers : ∀ name ∈ names, name ≠ base → KeepsClear base name) {number : Nat}
    (hnumber : 2 ≤ number) :
    base ++ toString number ∈ used ∨ base ++ toString number ∈ ensureAllUnique used names ↔
      number ≤ count + names.count base := by
  induction names generalizing used count with
  | nil =>
      rw [hused.numbers number hnumber]
      simp [ensureAllUnique]
  | cons first rest ih =>
      rw [List.forall_mem_cons] at hothers
      have hlater : ∀ count', InUseUpTo base (ensureUnique first used :: used) count' →
          (base ++ toString number ∈ used ∨
            base ++ toString number ∈ ensureAllUnique used (first :: rest) ↔
              number ≤ count' + rest.count base) := by
        intro count' hnext
        rw [ensureAllUnique_cons, List.mem_cons, ← or_assoc, ← ih hnext hothers.2, List.mem_cons,
          or_comm (a := base ++ toString number ∈ used)]
      by_cases hsame : first = base
      · subst hsame
        rw [hlater _ (hused.step_self hbase), List.count_cons_self]
        omega
      · rw [hlater _ (hused.step_other hbase hsame (hothers.1 hsame)),
          List.count_cons_of_ne hsame]

end InUseUpTo

/-- **Numbers of a name that comes several times.**  They go up to the number of times that the name
comes. -/
theorem mem_ensureAllUnique_iff (hbase : IsUnnumbered base)
    (hothers : ∀ name ∈ names, name ≠ base → KeepsClear base name) {number : Nat}
    (hnumber : 2 ≤ number) :
    base ++ toString number ∈ ensureAllUnique [] names ↔ number ≤ names.count base := by
  have hnone : InUseUpTo base [] 0 :=
    ⟨by simp, fun number hnumber => iff_of_false List.not_mem_nil (by omega)⟩
  have hrun := hnone.run hbase hothers hnumber
  rwa [or_iff_right List.not_mem_nil, Nat.zero_add] at hrun

end SchemaTypes.Name
