import SchemaTypes.Proofs.Code.Literal
import SchemaTypes.Proofs.Number.Shortest

/-!
# Floating-point literals

A double is written in full, as a row of digits with a point in it.  Read as a quotient and rounded
to the nearest double, such a literal gives back the double that it was written for, the sign of
zero included.

* `Decimal.shows_pointed`: the digits around the point and the quotient that they stand for.
* `Token.floatLiteral?_pointedText`: a literal without a sign.
* `Token.floatValue?_float`: a literal with or without a minus.
-/

namespace SchemaTypes

namespace Decimal

/-- A row of decimal digits. -/
def IsRow (digits : List Char) : Prop := digits ≠ [] ∧ ∀ c ∈ digits, c.isDigit = true

namespace IsRow

variable {digits more : List Char}

theorem toDigits (number : Nat) : IsRow (Nat.toDigits 10 number) :=
  ⟨Nat.toDigits_ne_nil, fun _ hc => Nat.isDigit_of_mem_toDigits (by decide) (by decide) hc⟩

theorem append (hdigits : IsRow digits) (hmore : ∀ c ∈ more, c.isDigit = true) :
    IsRow (digits ++ more) :=
  ⟨List.append_ne_nil_of_left_ne_nil hdigits.1 more,
    List.forall_mem_append.mpr ⟨hdigits.2, hmore⟩⟩

theorem point_not_mem (hdigits : IsRow digits) : '.' ∉ digits :=
  fun hpoint => absurd (hdigits.2 '.' hpoint) (by decide)

end IsRow

theorem isDigit_of_mem_replicate {count : Nat} {c : Char} (hc : c ∈ List.replicate count '0') :
    c.isDigit = true := by
  rw [List.eq_of_mem_replicate hc]
  decide

/-- A row of digits, a point and another row, which stand for a quotient. -/
def Shows (text : String) (value : ℚ) : Prop :=
  ∃ whole fraction, text.toList = whole ++ '.' :: fraction ∧ IsRow whole ∧ IsRow fraction ∧
    (Nat.ofDigitChars 10 (whole ++ fraction) 0 : ℚ) / ((10 ^ fraction.length : Nat) : ℚ) = value

variable {decimal : Decimal}

/-- Without places after the point the text is a row of digits. -/
theorem positional_of_nonneg (hsign : decimal.negative = false) (hexponent : 0 ≤ decimal.exponent) :
    IsRow decimal.positional.toList ∧
      (Nat.ofDigitChars 10 decimal.positional.toList 0 : ℚ) = decimal.size := by
  have htext : decimal.positional.toList =
      if decimal.digits = 0 then ['0']
      else Nat.toDigits 10 decimal.digits ++ List.replicate decimal.exponent.toNat '0' := by
    simp [positional, sign, hsign, hexponent]
  rw [htext]
  by_cases hzero : decimal.digits = 0
  · rw [if_pos hzero, size, hzero, Nat.cast_zero, zero_mul]
    exact ⟨IsRow.toDigits 0, rfl⟩
  · rw [if_neg hzero]
    refine ⟨(IsRow.toDigits _).append fun c => isDigit_of_mem_replicate, ?_⟩
    have hpow := Binary64.zpow_of_nonneg 10 hexponent
    rw [Nat.cast_ofNat] at hpow
    rw [Nat.ofDigitChars_append, Nat.ofDigitChars_ten_toDigits, Nat.ofDigitChars_replicate_zero,
      size, hpow, Nat.cast_mul, mul_comm]
    rfl

/-- With places after the point the digits are filled up with zeros in front. -/
theorem positional_of_neg (hsign : decimal.negative = false) (hexponent : decimal.exponent < 0) :
    Shows decimal.positional decimal.size := by
  -- zeros fill up the digits so that one of them stands before the point
  let places := (-decimal.exponent).toNat
  let digits := Nat.toDigits 10 decimal.digits
  let padded := List.replicate (places + 1 - digits.length) '0' ++ digits
  have hplaces : 0 < places := by omega
  have hpadded : ∀ c ∈ padded, c.isDigit = true :=
    List.forall_mem_append.mpr ⟨fun c => isDigit_of_mem_replicate, (IsRow.toDigits _).2⟩
  have hlength : places + 1 ≤ padded.length := by
    rw [List.length_append, List.length_replicate]
    omega
  have hfraction : (padded.drop (padded.length - places)).length = places := by
    rw [List.length_drop]
    omega
  refine ⟨padded.take (padded.length - places), padded.drop (padded.length - places), ?_, ⟨?_, ?_⟩,
    ⟨?_, ?_⟩, ?_⟩
  · simp [positional, sign, hsign, not_le.mpr hexponent, padded, digits, places]
  · rw [← List.length_pos_iff, List.length_take]
    omega
  · exact fun c hc => hpadded c (List.mem_of_mem_take hc)
  · rw [← List.length_pos_iff, hfraction]
    exact hplaces
  · exact fun c hc => hpadded c (List.mem_of_mem_drop hc)
  · have hpow := Binary64.zpow_of_neg 10 hexponent
    rw [Nat.cast_ofNat] at hpow
    rw [List.take_append_drop, hfraction, Nat.ofDigitChars_append, Nat.ofDigitChars_replicate_zero,
      Nat.mul_zero, Nat.ofDigitChars_ten_toDigits, size, hpow]
    rfl

/-- **Positional text** shows a decimal around its point. -/
theorem shows_pointed (hsign : decimal.negative = false) :
    Shows decimal.pointed decimal.size := by
  by_cases hexponent : 0 ≤ decimal.exponent
  · obtain ⟨hrow, hvalue⟩ := positional_of_nonneg hsign hexponent
    have hpointed : decimal.pointed = decimal.positional ++ ".0" := by
      rw [pointed, if_neg]
      simpa using hrow.point_not_mem
    refine ⟨decimal.positional.toList, ['0'], ?_, hrow, IsRow.toDigits 0, ?_⟩
    · rw [hpointed, String.toList_append]
      rfl
    · have hzero : Nat.ofDigitChars 10 (decimal.positional.toList ++ ['0']) 0 =
          10 * Nat.ofDigitChars 10 decimal.positional.toList 0 := by
        rw [Nat.ofDigitChars_append]
        rfl
      rw [hzero, Nat.cast_mul, hvalue]
      norm_num
  · have hshows := positional_of_neg hsign (not_le.mp hexponent)
    obtain ⟨whole, fraction, htext, -⟩ := id hshows
    have hpointed : decimal.pointed = decimal.positional := by
      rw [pointed, if_pos]
      simp [htext]
    rwa [hpointed]

end Decimal

/-! ## Reading literals -/

namespace Token

/-- The double of a literal with digits on both sides of its point. -/
def floatLiteral? (spelling : String) : Option Binary64 :=
  let whole := spelling.toList.takeWhile (· != '.')
  let fraction := (spelling.toList.dropWhile (· != '.')).drop 1
  if whole.isEmpty || fraction.isEmpty then none
  else (decimal? (whole ++ fraction)).bind fun digits =>
    Binary64.ofRatio? false digits (10 ^ fraction.length)

/-- The double of a literal with or without a minus. -/
def floatValue? : List Token → Option Binary64
  | [.literal spelling] => floatLiteral? spelling
  | [.punct '-' .alone, .literal spelling] => (floatLiteral? spelling).map Binary64.neg
  | _ => none

/-- The quotient that is shown by a text is rounded. -/
theorem exists_floatLiteral?_eq {text : String} {value : ℚ} (htext : Decimal.Shows text value) :
    ∃ num den : Nat, 0 < den ∧ (num : ℚ) / den = value ∧
      floatLiteral? text = Binary64.ofRatio? false num den := by
  obtain ⟨whole, fraction, hsplit, hwhole, hfraction, hvalue⟩ := htext
  have hpoint : ∀ c ∈ whole, (c != '.') = true := by
    intro c hc
    rw [bne_iff_ne]
    rintro rfl
    exact hwhole.point_not_mem hc
  -- the point splits the text into the digits that are shown
  have htake : text.toList.takeWhile (· != '.') = whole := by
    rw [hsplit, List.takeWhile_append_of_pos hpoint]
    simp
  have hdrop : (text.toList.dropWhile (· != '.')).drop 1 = fraction := by
    rw [hsplit, List.dropWhile_append_of_pos hpoint]
    simp
  have hrow := hwhole.append hfraction.2
  refine
    ⟨Nat.ofDigitChars 10 (whole ++ fraction) 0, 10 ^ fraction.length, by positivity, hvalue, ?_⟩
  have hdecimal : decimal? (whole ++ fraction) =
      some (Nat.ofDigitChars 10 (whole ++ fraction) 0) := by
    have hempty : (whole ++ fraction).isEmpty = false := List.isEmpty_eq_false_iff.mpr hrow.1
    have hdigits : (whole ++ fraction).all Char.isDigit = true := List.all_eq_true.mpr hrow.2
    rw [decimal?, hempty, hdigits]
    rfl
  simp only [floatLiteral?, htake, hdrop]
  rw [if_neg (by simp [hwhole.1, hfraction.1]), hdecimal, Option.bind_some]

variable {value : Binary64}

/-- **Literals without a sign** spell the double that they were written for. -/
theorem floatLiteral?_pointedText (hvalue : value.IsDouble) (hsign : value.negative = false) :
    floatLiteral? value.pointedText = some value := by
  by_cases hzero : value.significand = 0
  · have hleast : value.exponent = Binary64.leastExponent :=
      hvalue.normal.resolve_right (by rw [hzero]; decide)
    obtain ⟨negative, significand, exponent⟩ := value
    dsimp only at hsign hzero hleast
    subst hsign hzero hleast
    decide
  · have hshort : value.shortest.negative = false := value.negative_shortest.trans hsign
    obtain ⟨num, den, hden, hquotient, hread⟩ :=
      exists_floatLiteral?_eq (Decimal.shows_pointed hshort)
    obtain ⟨-, hrounds⟩ := Binary64.rounds_shortest hvalue hzero
    rw [← hquotient] at hrounds
    rw [Binary64.pointedText, hread, Binary64.ofRatio?_of_rounds hvalue hzero hden hrounds]
    exact congrArg some (by rw [← hsign])

/-- **Floating-point literals** spell the double that they were written for. -/
theorem floatValue?_float (hvalue : value.IsDouble) :
    floatValue? (Code.float value).tokens = some value := by
  have habs : floatLiteral? value.abs.pointedText = some value.abs :=
    floatLiteral?_pointedText ⟨hvalue.significand, hvalue.least, hvalue.greatest, hvalue.normal⟩ rfl
  rw [Code.float]
  by_cases hsign : value.negative
  · have htokens : (Code.operator "-" ++ Code.literal value.abs.pointedText).tokens =
        [.punct '-' .alone, .literal value.abs.pointedText] := rfl
    rw [if_pos hsign, htokens, floatValue?, habs, Option.map_some]
    exact congrArg some (by simp [Binary64.neg, Binary64.abs, ← hsign])
  · have htokens : (Code.literal value.abs.pointedText).tokens =
        [.literal value.abs.pointedText] := rfl
    rw [if_neg hsign, htokens, floatValue?, habs]
    rw [Bool.not_eq_true] at hsign
    exact congrArg some (by simp [Binary64.abs, ← hsign])

end Token

end SchemaTypes
