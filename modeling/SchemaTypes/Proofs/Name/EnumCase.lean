import SchemaTypes.Name.EnumCase
import SchemaTypes.Proofs.Name.Numbering
import SchemaTypes.Proofs.Name.TypeName

/-!
# Case identifiers are distinct and uniform

A literal is called after its letters and digits in upper case.  Where one literal is a number,
starts with a digit or spells nothing, a word is put in front of all of them, so either all cases
have this word or none.  Literals that spell the same are told apart by numbers in the end, which
adds digits only and makes no case invalid.

* `Name.caseLabelBy_fst`, `Name.caseLabelBy_snd_iff`: what a literal spells, and whether it needs
  the word.
* `Name.IsCaseName`: the names of cases, closed under numbers.
* `Name.nodup_caseIdentifiersBy`: the cases of an enumeration.
-/

namespace SchemaTypes.Name

/-! ## Labels -/

section

variable (spell : List Char → List Char)

/-- The letters and digits of a literal in upper case, once `spell` has written it in ASCII. -/
def caseLetters (literal : Json) : List Char :=
  ((spell (literal.string?.getD literal.text).toList).filter isAlphanumeric).map Char.toUpper

/-- A literal that is no identifier without a word in front. -/
def NeedsWord (literal : Json) : Prop :=
  literal.number?.isSome ∨ nextIs Char.isDigit (caseLetters spell literal) = true ∨
    caseLetters spell literal = []

/-- What a literal is called after the word in front. -/
def wordedLabel (literal : Json) : String :=
  if caseLetters spell literal = [] then "EMPTY" else String.ofList (caseLetters spell literal)

variable {spell}

theorem caseLabelBy_fst (literal : Json) :
    (caseLabelBy spell literal).1 = wordedLabel spell literal := by
  unfold caseLabelBy wordedLabel
  simp only [List.isEmpty_iff, ← caseLetters.eq_def]
  split
  · rfl
  · rfl

theorem caseLabelBy_snd_iff {literal : Json} :
    (caseLabelBy spell literal).2 = true ↔ NeedsWord spell literal := by
  unfold caseLabelBy NeedsWord
  simp only [List.isEmpty_iff, ← caseLetters.eq_def]
  by_cases hempty : caseLetters spell literal = []
  · simp [hempty]
  · simp [hempty]

end

/-! ## Names of cases -/

/-- A capital letter, a digit or an underscore. -/
def IsCaseCharacter (c : Char) : Prop := c.isUpper = true ∨ c.isDigit = true ∨ c = '_'

/-- A capital letter with capital letters, digits and underscores after it. -/
def IsCaseName (name : String) : Prop :=
  ∃ first rest, name.toList = first :: rest ∧ first.isUpper = true ∧ ∀ c ∈ rest, IsCaseCharacter c

section

variable {spell : List Char → List Char} {literal : Json}

theorem isCaseCharacter_of_mem_caseLetters :
    ∀ c ∈ caseLetters spell literal, c.isUpper = true ∨ c.isDigit = true := by
  intro c hc
  obtain ⟨letter, hletter, rfl⟩ := List.mem_map.mp hc
  have hlabel := isAlphanumeric_toUpper (List.mem_filter.mp hletter).2
  by_cases hdigit : letter.toUpper.isDigit
  · exact .inr hdigit
  · exact .inl (isUpper_of_isAlphanumeric hlabel (Char.isLower_toUpper_eq_false letter)
      (Bool.not_eq_true _ ▸ hdigit))

/-- A literal that needs no word spells the name of a case. -/
theorem isCaseName_caseLetters (hneeds : ¬NeedsWord spell literal) :
    IsCaseName (String.ofList (caseLetters spell literal)) := by
  rw [NeedsWord, not_or, not_or] at hneeds
  obtain ⟨-, hdigit, hsome⟩ := hneeds
  obtain ⟨first, rest, hletters⟩ := List.exists_cons_of_ne_nil hsome
  have hall := @isCaseCharacter_of_mem_caseLetters spell literal
  rw [hletters] at hall hdigit
  obtain ⟨hfirst, hrest⟩ := List.forall_mem_cons.mp hall
  rw [hletters]
  exact ⟨first, rest, String.toList_ofList, hfirst.resolve_right hdigit,
    fun c hc => (hrest c hc).imp_right .inl⟩

/-- With the word in front, every literal spells the name of a case. -/
theorem isCaseName_wordedLabel : IsCaseName ("VALUE_" ++ wordedLabel spell literal) := by
  have hword : ∀ c ∈ "ALUE_".toList, IsCaseCharacter c := by
    have hcapitals : "ALUE_".toList.all (fun c => c.isUpper || c == '_') = true := rfl
    intro c hc
    rcases Bool.or_eq_true_iff.mp (List.all_eq_true.mp hcapitals c hc) with hupper | hscore
    · exact .inl hupper
    · exact .inr (.inr (beq_iff_eq.mp hscore))
  have hlabel : ∀ c ∈ (wordedLabel spell literal).toList, IsCaseCharacter c := by
    unfold wordedLabel
    split
    · have hcapitals : "EMPTY".toList.all Char.isUpper = true := rfl
      exact fun c hc => .inl (List.all_eq_true.mp hcapitals c hc)
    · rw [String.toList_ofList]
      exact fun c hc => (isCaseCharacter_of_mem_caseLetters c hc).imp_right .inl
  refine ⟨'V', "ALUE_".toList ++ (wordedLabel spell literal).toList, ?_, rfl,
    List.forall_mem_append.mpr ⟨hword, hlabel⟩⟩
  rw [String.toList_append]
  rfl

end

/-- A number at its end leaves the name of a case valid. -/
theorem IsCaseName.of_isVariant {base name : String} (hbase : IsCaseName base)
    (hname : IsVariant base name) : IsCaseName name := by
  rcases hname with rfl | ⟨number, -, rfl⟩
  · exact hbase
  · obtain ⟨first, rest, hchars, hfirst, hrest⟩ := hbase
    refine ⟨first, rest ++ (toString number).toList, ?_, hfirst, ?_⟩
    · rw [String.toList_append, hchars, List.cons_append]
    · have hdigits : ∀ c ∈ (toString number).toList, IsCaseCharacter c := by
        rw [toList_toString]
        exact fun c hc => .inr (.inl (Nat.isDigit_of_mem_toDigits (by decide) le_rfl hc))
      exact List.forall_mem_append.mpr ⟨hrest, hdigits⟩

/-! ## Cases of an enumeration -/

section

variable (spell : List Char → List Char) (literals : List Json)

/-- All cases have the word in front as soon as one literal needs it. -/
theorem forall₂_caseIdentifiersBy_of_needsWord
    (hneeds : ∃ literal ∈ literals, NeedsWord spell literal) :
    List.Forall₂ (fun literal ident => IsVariant ("VALUE_" ++ wordedLabel spell literal) ident)
      literals (caseIdentifiersBy spell literals) := by
  have hmarked : (literals.map (caseLabelBy spell)).any (·.2) = true := by
    obtain ⟨literal, hliteral, hneeds⟩ := hneeds
    exact List.any_eq_true.mpr
      ⟨_, List.mem_map_of_mem hliteral, caseLabelBy_snd_iff.mpr hneeds⟩
  have hvariants := forall₂_ensureAllUnique []
    (literals.map fun literal => "VALUE_" ++ wordedLabel spell literal)
  rw [List.forall₂_map_left_iff] at hvariants
  rw [caseIdentifiersBy, hmarked]
  simpa only [List.map_map, Function.comp_def, if_true, caseLabelBy_fst] using hvariants

/-- Without such a literal, cases are called after what their literals spell. -/
theorem forall₂_caseIdentifiersBy_of_not_needsWord
    (hneeds : ∀ literal ∈ literals, ¬NeedsWord spell literal) :
    List.Forall₂ (fun literal ident => IsVariant (String.ofList (caseLetters spell literal)) ident)
      literals (caseIdentifiersBy spell literals) := by
  have hplain : (literals.map (caseLabelBy spell)).any (·.2) = false := by
    rw [List.any_eq_false]
    intro label hlabel
    obtain ⟨literal, hliteral, rfl⟩ := List.mem_map.mp hlabel
    rw [caseLabelBy_snd_iff]
    exact hneeds literal hliteral
  have hlabels : literals.map (fun literal => (caseLabelBy spell literal).1) =
      literals.map fun literal => String.ofList (caseLetters spell literal) := by
    refine List.map_congr_left fun literal hliteral => ?_
    rw [caseLabelBy_fst, wordedLabel, if_neg]
    exact fun hempty => hneeds literal hliteral (.inr (.inr hempty))
  have hvariants := forall₂_ensureAllUnique []
    (literals.map fun literal => String.ofList (caseLetters spell literal))
  rw [List.forall₂_map_left_iff, ← hlabels] at hvariants
  rw [caseIdentifiersBy, hplain]
  simpa only [List.map_map, Function.comp_def, Bool.false_eq_true, if_false] using hvariants

/-- **Cases are distinct and uniform.**  There is one identifier for each literal, in order, no two
are the same, and all are capital letters, digits and underscores with a letter in front.  Where a
literal is a number, starts with a digit or spells nothing, all of them start with one word;
otherwise each is what its literal spells.  A number may follow. -/
theorem nodup_caseIdentifiersBy :
    (caseIdentifiersBy spell literals).Nodup ∧
      (∀ ident ∈ caseIdentifiersBy spell literals, IsCaseName ident) ∧
      ((∃ literal ∈ literals, NeedsWord spell literal) ∧
          List.Forall₂
            (fun literal ident =>
              ∃ label, ident = "VALUE_" ++ label ∧ IsVariant (wordedLabel spell literal) label)
            literals (caseIdentifiersBy spell literals) ∨
        (∀ literal ∈ literals, ¬NeedsWord spell literal) ∧
          List.Forall₂
            (fun literal ident => IsVariant (String.ofList (caseLetters spell literal)) ident)
            literals (caseIdentifiersBy spell literals)) := by
  refine ⟨nodup_ensureAllUnique _ _, ?_⟩
  by_cases hneeds : ∃ literal ∈ literals, NeedsWord spell literal
  · have hforms := forall₂_caseIdentifiersBy_of_needsWord spell literals hneeds
    refine ⟨fun ident hident => ?_, .inl ⟨hneeds, hforms.imp fun literal ident hvariant => ?_⟩⟩
    · obtain ⟨literal, -, hvariant⟩ := exists_of_mem_of_forall₂ hforms hident
      exact isCaseName_wordedLabel.of_isVariant hvariant
    · rcases hvariant with rfl | ⟨number, hnumber, rfl⟩
      · exact ⟨_, rfl, .inl rfl⟩
      · exact ⟨_, String.append_assoc .., .inr ⟨number, hnumber, rfl⟩⟩
  · have hnone : ∀ literal ∈ literals, ¬NeedsWord spell literal :=
      fun literal hliteral hneed => hneeds ⟨literal, hliteral, hneed⟩
    have hforms := forall₂_caseIdentifiersBy_of_not_needsWord spell literals hnone
    refine ⟨fun ident hident => ?_, .inr ⟨hnone, hforms⟩⟩
    obtain ⟨literal, hliteral, hvariant⟩ := exists_of_mem_of_forall₂ hforms hident
    exact (isCaseName_caseLetters (hnone literal hliteral)).of_isVariant hvariant

end

/-- A number marks all cases, and two literals that spell the same are numbered. -/
example : caseIdentifiersBy id [.string "a-b", .number (.integer (-1)), .string "AB"] =
    ["VALUE_AB", "VALUE_1", "VALUE_AB2"] := by decide +kernel

end SchemaTypes.Name
