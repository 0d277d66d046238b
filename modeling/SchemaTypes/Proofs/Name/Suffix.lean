import Mathlib.Tactic
import SchemaTypes.Name.Identifier
import SchemaTypes.Proofs.Name.Unique

/-!
# Suffixes of type names

Types of one property have names that differ in their suffix only.  A suffix is put together from
words, some of which end in a number, and the finished name may have been changed at either end: a
leading digit is marked, a reserved name gets `Type` at its end, and nothing at all becomes
`Unnamed`.

* `Name.IsSuffix`: suffixes that these changes cannot merge; they are closed under concatenation.
* `Name.number_eq_of_append_eq`: a number inside a suffix is read back.
* `Name.suffix_eq_of_typeNameFor_eq`: names with different suffixes differ.
-/

namespace SchemaTypes.Name

/-- A suffix that does not go on with the digits of a number before it, and does not end like
`Unnamed` or `Type`. -/
structure IsSuffix (suffix : String) : Prop where
  head : ∀ c ∈ suffix.toList.head?, c.isDigit = false
  last : ∀ c ∈ suffix.toList.getLast?, c ≠ 'd' ∧ c ≠ 'e'

/-- A keyword, a number that is not less than the first one, and another suffix. -/
def IsNumbered (keyword : String) (first : Nat) (suffix : String) : Prop :=
  ∃ number rest, first ≤ number ∧ IsSuffix rest ∧ suffix = keyword ++ toString number ++ rest

/-! ## Words and numbers -/

section

variable {keyword suffix rest rest' : String} {number other first : Nat}

theorem IsSuffix.append (hsuffix : IsSuffix suffix) (hrest : IsSuffix rest) :
    IsSuffix (suffix ++ rest) where
  head c hc := by
    rw [String.toList_append, List.head?_append, Option.mem_def, Option.or_eq_some_iff] at hc
    rcases hc with hc | ⟨-, hc⟩
    · exact hsuffix.head c hc
    · exact hrest.head c hc
  last c hc := by
    rw [String.toList_append, List.getLast?_append, Option.mem_def, Option.or_eq_some_iff] at hc
    rcases hc with hc | ⟨-, hc⟩
    · exact hrest.last c hc
    · exact hsuffix.last c hc

theorem toList_toString (number : Nat) : (toString number).toList = Nat.toDigits 10 number := by
  rw [Nat.toString_eq_repr, Nat.toList_repr]

/-- A number ends in a digit. -/
theorem isSuffix_number (hkeyword : ∀ c ∈ keyword.toList.head?, c.isDigit = false)
    (hsome : keyword.toList ≠ []) (number : Nat) : IsSuffix (keyword ++ toString number) where
  head c hc := by
    rw [String.toList_append, List.head?_append_of_ne_nil _ hsome] at hc
    exact hkeyword c hc
  last c hc := by
    rw [String.toList_append, toList_toString, Option.mem_def,
      List.getLast?_append_of_ne_nil _ Nat.toDigits_ne_nil] at hc
    have hdigit : c.isDigit = true :=
      Nat.isDigit_of_mem_toDigits (by decide) le_rfl (List.mem_of_getLast? hc)
    constructor
    all_goals
      rintro rfl
      revert hdigit
      decide

theorem takeWhile_digits (hrest : IsSuffix rest) :
    (Nat.toDigits 10 number ++ rest.toList).takeWhile Char.isDigit = Nat.toDigits 10 number := by
  have hnone : rest.toList.takeWhile Char.isDigit = [] := by
    cases hchars : rest.toList with
    | nil => rfl
    | cons c chars =>
        have hc := hrest.head c (by rw [hchars]; rfl)
        exact List.takeWhile_cons_of_neg (by simp [hc])
  rw [List.takeWhile_append_of_pos fun c hc => Nat.isDigit_of_mem_toDigits (by decide) le_rfl hc,
    hnone, List.append_nil]

/-- **A number is read back** as far as its digits go. -/
theorem number_eq_of_append_eq (hrest : IsSuffix rest) (hrest' : IsSuffix rest')
    (hsame : keyword ++ toString number ++ rest = keyword ++ toString other ++ rest') :
    number = other := by
  have hchars := congrArg String.toList hsame
  simp only [String.toList_append, List.append_assoc, List.append_cancel_left_eq,
    toList_toString] at hchars
  have hdigits := congrArg (List.takeWhile Char.isDigit) hchars
  rw [takeWhile_digits hrest, takeWhile_digits hrest'] at hdigits
  apply numbered_injective ""
  apply String.toList_injective
  simpa [toList_toString] using hdigits

theorem IsNumbered.head? (hsome : keyword.toList ≠ []) (hsuffix : IsNumbered keyword first suffix) :
    suffix.toList.head? = keyword.toList.head? := by
  obtain ⟨number, rest, -, -, rfl⟩ := hsuffix
  rw [String.toList_append, String.toList_append, List.append_assoc,
    List.head?_append_of_ne_nil _ hsome]

theorem IsNumbered.mono {later : Nat} (hlater : first ≤ later)
    (hsuffix : IsNumbered keyword later suffix) : IsNumbered keyword first suffix := by
  obtain ⟨number, rest, hnumber, hrest, hsame⟩ := hsuffix
  exact ⟨number, rest, hlater.trans hnumber, hrest, hsame⟩

/-- Later numbers give other suffixes. -/
theorem IsNumbered.ne_of_lt (hrest : IsSuffix rest) (hlater : number < first)
    (hsuffix : IsNumbered keyword first suffix) : keyword ++ toString number ++ rest ≠ suffix := by
  obtain ⟨other, rest', hother, hrest', rfl⟩ := hsuffix
  intro hsame
  have := number_eq_of_append_eq hrest hrest' hsame
  omega

end

/-! ## Finished names -/

section

variable {base : List Char} {suffix suffix' : String}

/-- What is done to a name that is not empty. -/
theorem finishTypeName_append (hsuffix : IsSuffix suffix) (hsome : base ++ suffix.toList ≠ []) :
    ∃ ending : String, (ending = "" ∨ ending = "Type") ∧
      (finishTypeName (base ++ suffix.toList)).toList =
        markLeadingDigit 'T' base ++ (suffix ++ ending).toList := by
  have hmark : markLeadingDigit 'T' (base ++ suffix.toList) =
      markLeadingDigit 'T' base ++ suffix.toList := by
    cases base with
    | nil =>
        cases hchars : suffix.toList with
        | nil => rfl
        | cons c chars =>
            have hc := hsuffix.head c (by rw [hchars]; rfl)
            simp [markLeadingDigit, nextIs, hc]
    | cons c chars =>
        by_cases hdigit : c.isDigit = true
        · simp [markLeadingDigit, nextIs, hdigit]
        · simp [markLeadingDigit, nextIs, hdigit]
  have hopen : ¬(base ++ suffix.toList).isEmpty = true := by
    rwa [List.isEmpty_iff]
  rw [finishTypeName, if_neg hopen]
  dsimp only
  split
  · exact ⟨"Type", .inr rfl, by rw [String.toList_append, String.toList_ofList, hmark,
      List.append_assoc, ← String.toList_append]⟩
  · exact ⟨"", .inl rfl, by rw [String.toList_ofList, hmark, String.append_empty]⟩

theorem IsSuffix.ne_append_type (hsuffix : IsSuffix suffix) : suffix ≠ suffix' ++ "Type" := by
  rintro rfl
  exact (hsuffix.last 'e' (by rw [String.toList_append]; simp)).2 rfl

theorem finishTypeName_ne_unnamed (hsuffix : IsSuffix suffix) (hsome : suffix.toList ≠ []) :
    finishTypeName suffix.toList ≠ "Unnamed" := by
  intro hsame
  obtain ⟨ending, hending, hname⟩ := @finishTypeName_append [] suffix hsuffix hsome
  rw [List.nil_append, hsame] at hname
  have hunnamed : "Unnamed" = suffix ++ ending := String.toList_injective hname
  rcases hending with rfl | rfl
  · rw [String.append_empty] at hunnamed
    exact (hsuffix.last 'd' (by rw [← hunnamed]; rfl)).1 rfl
  · have hlast := congrArg (fun name => name.toList.getLast?) hunnamed
    simp [String.toList_append] at hlast

/-- **Names are told apart by their suffixes.** -/
theorem suffix_eq_of_finishTypeName_eq (hsuffix : IsSuffix suffix) (hsuffix' : IsSuffix suffix')
    (hsame : finishTypeName (base ++ suffix.toList) = finishTypeName (base ++ suffix'.toList)) :
    suffix = suffix' := by
  -- nothing at all is called by a name of its own, which no suffix gives
  by_cases hempty : base ++ suffix.toList = []
  · obtain ⟨rfl, hown⟩ := List.append_eq_nil_iff.mp hempty
    by_contra hdiffer
    have hsome : suffix'.toList ≠ [] := fun hnone =>
      hdiffer (String.toList_injective (hown.trans hnone.symm))
    rw [hown] at hsame
    exact finishTypeName_ne_unnamed hsuffix' hsome hsame.symm
  · by_cases hempty' : base ++ suffix'.toList = []
    · obtain ⟨rfl, hown⟩ := List.append_eq_nil_iff.mp hempty'
      rw [hown] at hsame
      exact absurd hsame (finishTypeName_ne_unnamed hsuffix hempty)
    · obtain ⟨ending, hending, hname⟩ := finishTypeName_append hsuffix hempty
      obtain ⟨ending', hending', hname'⟩ := finishTypeName_append hsuffix' hempty'
      rw [hsame, hname', List.append_cancel_left_eq] at hname
      have hends : suffix' ++ ending' = suffix ++ ending := String.toList_injective hname
      -- a suffix never ends in the word that tells a reserved name apart
      rcases hending with rfl | rfl <;> rcases hending' with rfl | rfl
      · simpa using hends.symm
      · rw [String.append_empty] at hends
        exact absurd hends.symm hsuffix.ne_append_type
      · rw [String.append_empty] at hends
        exact absurd hends hsuffix'.ne_append_type
      · exact (String.append_left_inj _).mp hends.symm

theorem suffix_eq_of_typeNameFor_eq [Spelling] {parent key before : String}
    (hsuffix : IsSuffix suffix) (hsuffix' : IsSuffix suffix')
    (hsame : typeNameFor parent key (before ++ suffix) =
      typeNameFor parent key (before ++ suffix')) :
    suffix = suffix' := by
  unfold typeNameFor typeNameForBy at hsame
  rw [String.toList_append, String.toList_append, ← List.append_assoc, ← List.append_assoc] at hsame
  exact suffix_eq_of_finishTypeName_eq hsuffix hsuffix' hsame

end

end SchemaTypes.Name
