import SchemaTypes.Number.Shortest
import Mathlib.Tactic

/-!
# Rounding to the nearest double

The quotients that round to a positive double form an interval around it.  It reaches half way to
both neighbours, and the lower neighbour of a power of two is nearer than the upper one.

* `Binary64.IsDouble`: the triples that stand for a double.
* `Binary64.zpow_bounds_of_lengths`, `Binary64.floorLog2_spec`: logarithms by comparing lengths.
* `Binary64.ofRatio?_of_rounds`: a quotient in the interval of a double is rounded to it.
* `Binary64.isDouble_of_ofRatio?`: what a quotient is rounded to is a double.
* `Binary64.isDouble_ofDecimal?`: so is what a decimal literal denotes, rounded several times.
-/

namespace SchemaTypes

namespace Binary64

/-- The parts of a finite double: a number of 53 bits, or a smaller one at the least exponent. -/
structure IsDouble (x : Binary64) : Prop where
  significand : x.significand < 2 * leastNormal
  least : leastExponent ≤ x.exponent
  greatest : x.exponent ≤ greatestExponent
  normal : x.exponent = leastExponent ∨ leastNormal ≤ x.significand

/-! ## Powers of an integer exponent -/

theorem zpow_of_nonneg (base : Nat) {exponent : Int} (hexponent : 0 ≤ exponent) :
    (base : ℚ) ^ exponent = ((Nat.pow base exponent.toNat : Nat) : ℚ) := by
  obtain ⟨n, rfl⟩ := Int.eq_ofNat_of_zero_le hexponent
  simp

theorem zpow_of_neg (base : Nat) {exponent : Int} (hexponent : exponent < 0) :
    (base : ℚ) ^ exponent = ((Nat.pow base (-exponent).toNat : Nat) : ℚ)⁻¹ := by
  rw [← zpow_of_nonneg base (by omega), ← zpow_neg, neg_neg]

section

variable {num den : Nat} (base : Nat)

/-- A quotient is at least a power, as it is tested in whole numbers. -/
theorem zpow_le_div_iff (num : Nat) (hbase : 0 < base) (hden : 0 < den) (exponent : Int) :
    (base : ℚ) ^ exponent ≤ (num : ℚ) / den ↔
      if exponent ≥ 0 then num ≥ den * Nat.pow base exponent.toNat
      else num * Nat.pow base (-exponent).toNat ≥ den := by
  have hden' : (0 : ℚ) < den := by exact_mod_cast hden
  split
  · rename_i hexponent
    rw [zpow_of_nonneg base hexponent, le_div_iff₀ hden', mul_comm]
    exact_mod_cast Iff.rfl
  · rename_i hexponent
    have hpow : (0 : ℚ) < ((Nat.pow base (-exponent).toNat : Nat) : ℚ) := by
      exact_mod_cast Nat.pow_pos hbase
    rw [zpow_of_neg base (by omega), le_div_iff₀ hden', inv_mul_le_iff₀ hpow, mul_comm]
    exact_mod_cast Iff.rfl

/-- A logarithm rounded down: the difference of the lengths, or one less. -/
theorem zpow_bounds_of_lengths (hbase : 2 ≤ base) {numLength denLength : Nat}
    (hnum : base ^ numLength ≤ num ∧ num < base ^ (numLength + 1))
    (hden : base ^ denLength ≤ den ∧ den < base ^ (denLength + 1)) {guess result : Int}
    (hguess : guess = (numLength : Int) - denLength)
    (hresult : result = if (base : ℚ) ^ guess ≤ (num : ℚ) / den then guess else guess - 1) :
    (base : ℚ) ^ result ≤ (num : ℚ) / den ∧ (num : ℚ) / den < (base : ℚ) ^ (result + 1) := by
  have hbase' : (0 : ℚ) < base := by exact_mod_cast (by omega : 0 < base)
  have hne : (base : ℚ) ≠ 0 := hbase'.ne'
  have hden0 : (0 : ℚ) < den := by
    exact_mod_cast lt_of_lt_of_le (Nat.pow_pos (by omega)) hden.1
  have hnumLow : (base : ℚ) ^ (numLength : Int) ≤ num := by exact_mod_cast hnum.1
  have hnumHigh : (num : ℚ) < (base : ℚ) ^ ((numLength : Int) + 1) := by exact_mod_cast hnum.2
  have hdenLow : (base : ℚ) ^ (denLength : Int) ≤ den := by exact_mod_cast hden.1
  have hdenHigh : (den : ℚ) < (base : ℚ) ^ ((denLength : Int) + 1) := by exact_mod_cast hden.2
  -- the quotient of the ends bounds the quotient
  have hlow : (base : ℚ) ^ (guess - 1) ≤ (num : ℚ) / den := by
    rw [le_div_iff₀ hden0]
    calc (base : ℚ) ^ (guess - 1) * den
        ≤ (base : ℚ) ^ (guess - 1) * (base : ℚ) ^ ((denLength : Int) + 1) :=
          mul_le_mul_of_nonneg_left hdenHigh.le (zpow_pos hbase' _).le
      _ = (base : ℚ) ^ (numLength : Int) := by
          rw [← zpow_add₀ hne, hguess]
          congr 1
          omega
      _ ≤ num := hnumLow
  have hhigh : (num : ℚ) / den < (base : ℚ) ^ (guess + 1) := by
    rw [div_lt_iff₀ hden0]
    calc (num : ℚ) < (base : ℚ) ^ ((numLength : Int) + 1) := hnumHigh
      _ = (base : ℚ) ^ (guess + 1) * (base : ℚ) ^ (denLength : Int) := by
          rw [← zpow_add₀ hne, hguess]
          congr 1
          omega
      _ ≤ (base : ℚ) ^ (guess + 1) * den :=
          mul_le_mul_of_nonneg_left hdenLow (zpow_pos hbase' _).le
  by_cases hreached : (base : ℚ) ^ guess ≤ (num : ℚ) / den
  · rw [if_pos hreached] at hresult
    exact hresult ▸ ⟨hreached, hhigh⟩
  · rw [if_neg hreached] at hresult
    rw [hresult, sub_add_cancel]
    exact ⟨hlow, not_le.mp hreached⟩

theorem floorLog2_spec (hnum : 0 < num) (hden : 0 < den) :
    (2 : ℚ) ^ floorLog2 num den ≤ (num : ℚ) / den ∧
      (num : ℚ) / den < (2 : ℚ) ^ (floorLog2 num den + 1) := by
  have hlengths : ∀ n : Nat, 0 < n → 2 ^ n.log2 ≤ n ∧ n < 2 ^ (n.log2 + 1) :=
    fun n hn => ⟨Nat.log2_self_le hn.ne', Nat.lt_log2_self⟩
  refine zpow_bounds_of_lengths 2 le_rfl (hlengths num hnum) (hlengths den hden) rfl ?_
  have hreached := zpow_le_div_iff 2 num two_pos hden ((num.log2 : Int) - den.log2)
  rw [floorLog2]
  exact (if_congr hreached rfl rfl).symm

end

/-! ## Rounding to an integer -/

/-- A quotient is rounded to an integer that is at most a half away, to an even one if it is as far
as that. -/
theorem roundHalfEven_eq {num den result : Nat} (hden : 0 < den)
    (hlow : 2 * (result * den) ≤ 2 * num + den) (hhigh : 2 * num ≤ 2 * (result * den) + den)
    (hodd : result % 2 = 1 →
      2 * (result * den) < 2 * num + den ∧ 2 * num < 2 * (result * den) + den) :
    roundHalfEven num den = result := by
  have hsplit : den * (num / den) + num % den = num := Nat.div_add_mod num den
  have hrest : num % den < den := Nat.mod_lt num hden
  -- the result is the quotient or the next integer
  have hat : result = num / den ∨ result = num / den + 1 := by
    have hge : num / den < result + 1 := by
      by_contra hless
      have := Nat.mul_le_mul_left den (not_lt.mp hless)
      rw [Nat.mul_succ, Nat.mul_comm den result] at this
      omega
    have hle : result < num / den + 2 := by
      by_contra hless
      have := Nat.mul_le_mul_left den (not_lt.mp hless)
      rw [Nat.mul_add, Nat.mul_comm den result] at this
      omega
    omega
  unfold roundHalfEven
  simp only [Bool.or_eq_true, Bool.and_eq_true, decide_eq_true_eq, beq_iff_eq]
  rcases hat with rfl | rfl
  · rw [Nat.mul_comm (num / den) den] at hlow hhigh hodd
    rw [if_neg (by omega)]
  · rw [Nat.add_mul, one_mul, Nat.mul_comm (num / den) den] at hlow hhigh hodd
    rw [if_pos (by omega)]

/-- The same for the value of the quotient. -/
theorem roundHalfEven_eq_of_abs_le {num den result : Nat} (hden : 0 < den)
    (hnear : |(num : ℚ) / den - result| ≤ 1 / 2)
    (hodd : result % 2 = 1 → |(num : ℚ) / den - result| < 1 / 2) :
    roundHalfEven num den = result := by
  have hden' : (0 : ℚ) < den := by exact_mod_cast hden
  have hscale : ((num : ℚ) / den - result) * den = num - result * den := by
    rw [sub_mul, div_mul_cancel₀ _ hden'.ne']
  rw [abs_le] at hnear
  refine roundHalfEven_eq hden ?_ ?_ fun hresult => ?_
  · have hlow := mul_le_mul_of_nonneg_right hnear.1 hden'.le
    rw [hscale] at hlow
    have : (2 * (result * den) : ℚ) ≤ 2 * num + den := by linarith
    exact_mod_cast this
  · have hhigh := mul_le_mul_of_nonneg_right hnear.2 hden'.le
    rw [hscale] at hhigh
    have : (2 * num : ℚ) ≤ 2 * (result * den) + den := by linarith
    exact_mod_cast this
  · obtain ⟨hlow, hhigh⟩ := abs_lt.mp (hodd hresult)
    have hlow := mul_lt_mul_of_pos_right hlow hden'
    have hhigh := mul_lt_mul_of_pos_right hhigh hden'
    rw [hscale] at hlow hhigh
    have hlow' : (2 * (result * den) : ℚ) < 2 * num + den := by linarith
    have hhigh' : (2 * num : ℚ) < 2 * (result * den) + den := by linarith
    exact ⟨by exact_mod_cast hlow', by exact_mod_cast hhigh'⟩

theorem div_le_roundHalfEven (num den : Nat) : num / den ≤ roundHalfEven num den := by
  unfold roundHalfEven
  dsimp only
  split <;> omega

theorem roundHalfEven_le (num den : Nat) : roundHalfEven num den ≤ num / den + 1 := by
  unfold roundHalfEven
  dsimp only
  split <;> omega

/-! ## Rounding to a double -/

/-- The quotient in units of some last place, rounded to an integer. -/
def significandAt (num den : Nat) (exponent : Int) : Nat :=
  if exponent ≥ 0 then roundHalfEven num (den * Nat.pow 2 exponent.toNat)
  else roundHalfEven (num * Nat.pow 2 (-exponent).toNat) den

section

variable {num den : Nat} {exponent : Int}

/-- What is rounded for a significand. -/
theorem exists_significandAt_eq (num : Nat) (hden : 0 < den) (exponent : Int) :
    ∃ top bottom : Nat, 0 < bottom ∧ (top : ℚ) / bottom = (num : ℚ) / den / 2 ^ exponent ∧
      significandAt num den exponent = roundHalfEven top bottom := by
  unfold significandAt
  by_cases hexponent : exponent ≥ 0
  · refine ⟨num, den * Nat.pow 2 exponent.toNat, Nat.mul_pos hden (Nat.pow_pos two_pos), ?_, ?_⟩
    · have hpow := zpow_of_nonneg 2 hexponent
      rw [Nat.cast_ofNat] at hpow
      rw [hpow, Nat.cast_mul, div_div]
    · rw [if_pos hexponent]
  · refine ⟨num * Nat.pow 2 (-exponent).toNat, den, hden, ?_, ?_⟩
    · have hpow := zpow_of_neg 2 (not_le.mp hexponent)
      rw [Nat.cast_ofNat] at hpow
      rw [hpow, div_inv_eq_mul, Nat.cast_mul, mul_div_right_comm]
    · rw [if_neg hexponent]

theorem significandAt_eq {result : Nat} (hden : 0 < den)
    (hnear : |(num : ℚ) / den / 2 ^ exponent - result| ≤ 1 / 2)
    (hodd : result % 2 = 1 → |(num : ℚ) / den / 2 ^ exponent - result| < 1 / 2) :
    significandAt num den exponent = result := by
  obtain ⟨top, bottom, hbottom, hvalue, hsame⟩ := exists_significandAt_eq num hden exponent
  rw [← hvalue] at hnear hodd
  rw [hsame, roundHalfEven_eq_of_abs_le hbottom hnear hodd]

/-- Rounding does not leave the integers around the quotient. -/
theorem le_significandAt {bound : Nat} (hden : 0 < den)
    (hbound : (bound : ℚ) ≤ (num : ℚ) / den / 2 ^ exponent) :
    bound ≤ significandAt num den exponent := by
  obtain ⟨top, bottom, hbottom, hvalue, hsame⟩ := exists_significandAt_eq num hden exponent
  have hbottom' : (0 : ℚ) < bottom := by exact_mod_cast hbottom
  rw [← hvalue, le_div_iff₀ hbottom'] at hbound
  rw [hsame]
  refine le_trans ?_ (div_le_roundHalfEven top bottom)
  rw [Nat.le_div_iff_mul_le hbottom]
  exact_mod_cast hbound

theorem significandAt_le {bound : Nat} (hden : 0 < den)
    (hbound : (num : ℚ) / den / 2 ^ exponent < bound) :
    significandAt num den exponent ≤ bound := by
  obtain ⟨top, bottom, hbottom, hvalue, hsame⟩ := exists_significandAt_eq num hden exponent
  have hbottom' : (0 : ℚ) < bottom := by exact_mod_cast hbottom
  rw [← hvalue, div_lt_iff₀ hbottom'] at hbound
  rw [hsame]
  refine le_trans (roundHalfEven_le top bottom) ?_
  rw [Nat.succ_le_iff, Nat.div_lt_iff_lt_mul hbottom]
  exact_mod_cast hbound

/-- The exponent of the double next to a quotient. -/
def exponentFor (num den : Nat) : Int := max (floorLog2 num den - 52) leastExponent

/-- A significand that has been rounded up to the next power of two is carried. -/
def carried (negative : Bool) (significand : Nat) (exponent : Int) : Binary64 :=
  if significand = 2 * leastNormal then ⟨negative, leastNormal, exponent + 1⟩
  else ⟨negative, significand, exponent⟩

/-- The double that a quotient is rounded to, of whatever exponent. -/
def roundedRatio (negative : Bool) (num den : Nat) : Binary64 :=
  carried negative (significandAt num den (exponentFor num den)) (exponentFor num den)

theorem ofRatio?_eq (hnum : num ≠ 0) (negative : Bool) :
    ofRatio? negative num den =
      if (roundedRatio negative num den).exponent > greatestExponent then none
      else some (roundedRatio negative num den) := by
  simp only [ofRatio?, beq_iff_eq, if_neg hnum]
  rfl

/-- In units of its last place a quotient is below `2 ^ 53`, and not below `2 ^ 52` above the
least exponent. -/
theorem exponentFor_spec (hnum : 0 < num) (hden : 0 < den) :
    (num : ℚ) / den / 2 ^ exponentFor num den < 2 ^ 53 ∧
      (exponentFor num den = leastExponent ∨
        2 ^ 52 ≤ (num : ℚ) / den / 2 ^ exponentFor num den) := by
  obtain ⟨hlow, hhigh⟩ := floorLog2_spec hnum hden
  have hpow : (0 : ℚ) < 2 ^ exponentFor num den := zpow_pos two_pos _
  constructor
  · rw [div_lt_iff₀ hpow]
    refine lt_of_lt_of_le hhigh ?_
    have hsum : (2 : ℚ) ^ 53 * 2 ^ exponentFor num den = 2 ^ (53 + exponentFor num den) := by
      rw [zpow_add₀ two_ne_zero]
      norm_num
    rw [hsum]
    refine zpow_le_zpow_right₀ one_le_two ?_
    unfold exponentFor
    omega
  · by_cases hleast : exponentFor num den = leastExponent
    · exact .inl hleast
    · right
      rw [le_div_iff₀ hpow]
      have hsum : (2 : ℚ) ^ 52 * 2 ^ exponentFor num den = 2 ^ (52 + exponentFor num den) := by
        rw [zpow_add₀ two_ne_zero]
        norm_num
      rw [hsum]
      refine le_trans (zpow_le_zpow_right₀ one_le_two ?_) hlow
      unfold exponentFor at hleast ⊢
      omega

theorem isDouble_carried {negative : Bool} {significand : Nat}
    (hsignificand : significand ≤ 2 * leastNormal) (hleast : leastExponent ≤ exponent)
    (hnormal : exponent = leastExponent ∨ leastNormal ≤ significand)
    (hgreatest : (carried negative significand exponent).exponent ≤ greatestExponent) :
    (carried negative significand exponent).IsDouble := by
  unfold carried at hgreatest ⊢
  split_ifs at hgreatest ⊢ with hcarry
  · refine ⟨?_, ?_, hgreatest, .inr le_rfl⟩
    · change leastNormal < 2 * leastNormal
      decide
    · change leastExponent ≤ exponent + 1
      omega
  · exact ⟨lt_of_le_of_ne hsignificand hcarry, hleast, hgreatest, hnormal⟩

theorem isDouble_zero (negative : Bool) : IsDouble ⟨negative, 0, leastExponent⟩ := by
  cases negative <;> exact ⟨by decide, by decide, by decide, by decide⟩

theorem isDouble_greatest (negative : Bool) : (greatest negative).IsDouble := by
  cases negative <;> exact ⟨by decide, by decide, by decide, by decide⟩

/-- **Rounding gives doubles.** -/
theorem isDouble_of_ofRatio? {negative : Bool} (hden : 0 < den) {x : Binary64}
    (hx : ofRatio? negative num den = some x) : x.IsDouble := by
  by_cases hnum : num = 0
  · subst hnum
    obtain rfl := Option.some.inj hx
    exact isDouble_zero negative
  · rw [ofRatio?_eq hnum, Option.ite_none_left_eq_some, Option.some.injEq] at hx
    obtain ⟨hgreatest, rfl⟩ := hx
    obtain ⟨hhigh, hnormal⟩ := exponentFor_spec (Nat.pos_of_ne_zero hnum) hden
    refine isDouble_carried ?_ (le_max_right _ _) ?_ (not_lt.mp hgreatest)
    · exact significandAt_le hden (by exact_mod_cast hhigh)
    · exact hnormal.imp_right fun hlow => le_significandAt hden (by exact_mod_cast hlow)

end

theorem isDouble_ofInt (value : Int) : (ofInt value).IsDouble := by
  unfold ofInt
  cases hrounded : ofRatio? (value < 0) value.natAbs 1 with
  | none => exact isDouble_greatest _
  | some x => exact isDouble_of_ofRatio? one_pos hrounded

/-! ## The quotients that round to a double -/

/-- A quotient lies in the interval around a double, and inside of it if the significand is odd. -/
structure Rounds (x : Binary64) (value : ℚ) : Prop where
  low : (x.roundingInterval.1 : ℚ) * 2 ^ (x.exponent - 2) ≤ value
  high : value ≤ (x.roundingInterval.2.2 : ℚ) * 2 ^ (x.exponent - 2)
  odd : x.significand % 2 = 1 → (x.roundingInterval.1 : ℚ) * 2 ^ (x.exponent - 2) < value ∧
    value < (x.roundingInterval.2.2 : ℚ) * 2 ^ (x.exponent - 2)

/-- The ends of the interval, in quarters of the last place.  The lower one is nearer above a power
of two, unless that is the least one. -/
theorem exists_roundingInterval_eq {x : Binary64} (hx : x.significand ≠ 0) :
    ∃ below : Nat, 1 ≤ below ∧ below ≤ 2 ∧
      (x.significand = leastNormal → leastExponent < x.exponent → below = 1) ∧
      (x.roundingInterval.1 : ℚ) = 4 * x.significand - below ∧
      (x.roundingInterval.2.2 : ℚ) = 4 * x.significand + 2 := by
  refine ⟨if x.significand == leastNormal && x.exponent > leastExponent then 1 else 2,
    by split <;> omega, by split <;> omega, ?_, ?_, ?_⟩
  · intro hleast hexponent
    rw [if_pos (by simp [hleast, hexponent])]
  · have hle : (if x.significand == leastNormal && x.exponent > leastExponent then 1 else 2) ≤
        4 * x.significand := by split <;> omega
    rw [roundingInterval]
    dsimp only
    rw [Nat.cast_sub hle, Nat.cast_mul, Nat.cast_ofNat]
  · rw [roundingInterval]
    push_cast
    rfl

/-- The interval in units of the last place. -/
theorem Rounds.abs_sub_le {x : Binary64} {value : ℚ} (hx : x.significand ≠ 0)
    (hvalue : x.Rounds value) :
    |value / 2 ^ x.exponent - x.significand| ≤ 1 / 2 ∧
      (x.significand % 2 = 1 → |value / 2 ^ x.exponent - x.significand| < 1 / 2) ∧
      (x.significand = leastNormal → leastExponent < x.exponent →
        (x.significand : ℚ) - 1 / 4 ≤ value / 2 ^ x.exponent) := by
  have hpow : (0 : ℚ) < 2 ^ x.exponent := zpow_pos two_pos _
  have hquarter : (2 : ℚ) ^ (x.exponent - 2) = 2 ^ x.exponent / 4 := by
    rw [zpow_sub₀ two_ne_zero]
    norm_num
  obtain ⟨below, hone, htwo, hleast, hlow, hhigh⟩ := exists_roundingInterval_eq hx
  obtain ⟨hvalueLow, hvalueHigh, hodd⟩ := hvalue
  rw [hlow, hquarter] at hvalueLow
  rw [hhigh, hquarter] at hvalueHigh
  rw [hlow, hhigh, hquarter] at hodd
  have hbelow : (below : ℚ) ≤ 2 := by exact_mod_cast htwo
  have hscaled : value / 2 ^ x.exponent * 2 ^ x.exponent = value := div_mul_cancel₀ _ hpow.ne'
  -- what follows is about a number in units of the last place
  generalize value / 2 ^ x.exponent = scaled at hscaled ⊢
  generalize (2 : ℚ) ^ x.exponent = unit at *
  have hatLeast : (x.significand : ℚ) - below / 4 ≤ scaled := by
    refine le_of_mul_le_mul_right ?_ hpow
    rw [hscaled]
    linarith
  have hatMost : scaled ≤ (x.significand : ℚ) + 1 / 2 := by
    refine le_of_mul_le_mul_right ?_ hpow
    rw [hscaled]
    linarith
  refine ⟨abs_le.mpr ⟨by linarith, by linarith⟩, fun hsignificand => ?_,
    fun hnormal hexponent => ?_⟩
  · obtain ⟨hinsideLow, hinsideHigh⟩ := hodd hsignificand
    have hmore : (x.significand : ℚ) - below / 4 < scaled := by
      refine lt_of_mul_lt_mul_right ?_ hpow.le
      rw [hscaled]
      linarith
    have hless : scaled < (x.significand : ℚ) + 1 / 2 := by
      refine lt_of_mul_lt_mul_right ?_ hpow.le
      rw [hscaled]
      linarith
    exact abs_lt.mpr ⟨by linarith, by linarith⟩
  · rw [hleast hnormal hexponent, Nat.cast_one] at hatLeast
    exact hatLeast

theorem exponentFor_eq {num den : Nat} {exponent : Int} (hnum : 0 < num) (hden : 0 < den)
    (hleast : leastExponent ≤ exponent) (hhigh : (num : ℚ) / den / 2 ^ exponent < 2 ^ 53)
    (hlow : exponent = leastExponent ∨ 2 ^ 52 ≤ (num : ℚ) / den / 2 ^ exponent) :
    exponentFor num den = exponent := by
  have hpow : (0 : ℚ) < 2 ^ exponent := zpow_pos two_pos _
  obtain ⟨hfloor, hceiling⟩ := floorLog2_spec hnum hden
  have hscale : ∀ n : Nat, (2 : ℚ) ^ n * 2 ^ exponent = 2 ^ ((n : Int) + exponent) := by
    intro n
    rw [zpow_add₀ two_ne_zero, zpow_natCast]
  rw [div_lt_iff₀ hpow, hscale] at hhigh
  have hless := (zpow_lt_zpow_iff_right₀ one_lt_two).mp (lt_of_le_of_lt hfloor hhigh)
  unfold exponentFor
  rcases hlow with hlow | hlow
  · push_cast at hless
    omega
  · rw [le_div_iff₀ hpow, hscale] at hlow
    have hmore := (zpow_lt_zpow_iff_right₀ one_lt_two).mp (lt_of_le_of_lt hlow hceiling)
    push_cast at hless hmore
    omega

/-- A quotient a little below a power of two is rounded up to it: the significand found in the
binade below carries. -/
theorem roundedRatio_of_carry {num den : Nat} {exponent : Int} (hnum : 0 < num) (hden : 0 < den)
    (hexponent : leastExponent < exponent) (hunder : (num : ℚ) / den / 2 ^ exponent < 2 ^ 52)
    (hclose : (2 : ℚ) ^ 52 - 1 / 4 ≤ (num : ℚ) / den / 2 ^ exponent) (negative : Bool) :
    roundedRatio negative num den = ⟨negative, leastNormal, exponent⟩ := by
  have hhalf : (num : ℚ) / den / 2 ^ (exponent - 1) = 2 * ((num : ℚ) / den / 2 ^ exponent) := by
    rw [zpow_sub_one₀ two_ne_zero]
    field_simp
  have hplace : exponentFor num den = exponent - 1 := by
    refine exponentFor_eq hnum hden (by omega) ?_ (.inr ?_)
    · rw [hhalf]
      linarith
    · rw [hhalf]
      linarith
  have hcarry : significandAt num den (exponent - 1) = 2 * leastNormal := by
    refine significandAt_eq hden ?_ fun hparity => absurd hparity (by decide)
    have hbound : ((2 * leastNormal : Nat) : ℚ) = 2 ^ 53 := by norm_num [leastNormal]
    rw [hhalf, hbound, abs_le]
    constructor <;> linarith
  rw [roundedRatio, hplace, hcarry, carried, if_pos rfl, sub_add_cancel]

/-- **Reading a double.**  Every quotient in the interval around a double is rounded to it. -/
theorem ofRatio?_of_rounds {x : Binary64} (hx : x.IsDouble) (hpositive : x.significand ≠ 0)
    {num den : Nat} (hden : 0 < den) (hrounds : x.Rounds ((num : ℚ) / den)) (negative : Bool) :
    ofRatio? negative num den = some { x with negative } := by
  obtain ⟨hnear, hodd, hclose⟩ := hrounds.abs_sub_le hpositive
  obtain ⟨hsignificand, hleast, hgreatest, hnormal⟩ := hx
  obtain ⟨sign, significand, exponent⟩ := x
  dsimp only at *
  have hone : (1 : ℚ) ≤ significand := by exact_mod_cast Nat.one_le_iff_ne_zero.mpr hpositive
  have hlast : (significand : ℚ) + 1 ≤ 2 ^ 53 := by
    have : significand + 1 ≤ 2 ^ 53 := hsignificand
    exact_mod_cast this
  obtain ⟨hbelow, habove⟩ := abs_le.mp hnear
  have hnum : 0 < num := by
    rw [Nat.pos_iff_ne_zero]
    rintro rfl
    norm_num at hbelow
    linarith
  have hrounded : roundedRatio negative num den = ⟨negative, significand, exponent⟩ := by
    by_cases hunder : leastExponent < exponent ∧ (num : ℚ) / den / 2 ^ exponent < 2 ^ 52
    · -- the quotient lies below a power of two, in the binade before
      obtain ⟨hexponent, hunder⟩ := hunder
      have hpower : significand = leastNormal := by
        have hge := hnormal.resolve_left hexponent.ne'
        have hle : significand < leastNormal + 1 := by
          have : (significand : ℚ) < 2 ^ 52 + 1 := by linarith
          exact_mod_cast this
        omega
      have hcast : (significand : ℚ) = 2 ^ 52 := by
        rw [hpower]
        norm_num [leastNormal]
      have hquarter := hclose hpower hexponent
      rw [hcast] at hquarter
      rw [hpower, roundedRatio_of_carry hnum hden hexponent hunder hquarter]
    · -- otherwise it is rounded at the place of its double
      have hplace : exponentFor num den = exponent := by
        refine exponentFor_eq hnum hden hleast (by linarith) ?_
        by_cases hexponent : leastExponent < exponent
        · exact .inr (not_lt.mp fun hless => hunder ⟨hexponent, hless⟩)
        · exact .inl (le_antisymm (not_lt.mp hexponent) hleast)
      rw [roundedRatio, hplace, significandAt_eq hden hnear hodd, carried,
        if_neg hsignificand.ne]
  rw [ofRatio?_eq hnum.ne', hrounded, if_neg (not_lt.mpr hgreatest)]

/-! ## Decimal literals -/

section

variable {x y : Binary64}

theorem magnitude_pos (x : Binary64) : 0 < x.magnitude.2 := by
  unfold magnitude
  split
  · exact Nat.one_pos
  · exact Nat.pow_pos (by decide)

theorem magnitude_fst_pos (hx : x.significand ≠ 0) : 0 < x.magnitude.1 := by
  unfold magnitude
  split
  · exact Nat.mul_pos (Nat.pos_of_ne_zero hx) (Nat.pow_pos (by decide))
  · exact Nat.pos_of_ne_zero hx

theorem isDouble_mul? {product : Binary64} (hproduct : x.mul? y = some product) :
    product.IsDouble :=
  isDouble_of_ofRatio? (Nat.mul_pos x.magnitude_pos y.magnitude_pos) hproduct

theorem isDouble_div? {quotient : Binary64} (hy : y.significand ≠ 0)
    (hquotient : x.div? y = some quotient) : quotient.IsDouble :=
  isDouble_of_ofRatio? (Nat.mul_pos x.magnitude_pos (magnitude_fst_pos hy)) hquotient

theorem significand_powerOfTen_ne_zero {exponent : Nat} (hexponent : exponent ≤ 308) :
    (powerOfTen exponent).significand ≠ 0 := by
  have hall : ∀ exponent < 309, (powerOfTen exponent).significand ≠ 0 := by decide +kernel
  exact hall exponent (Nat.lt_succ_of_le hexponent)

theorem isDouble_scaleByTen? {exponent : Int} {scaled : Binary64} (hx : x.IsDouble)
    (hscaled : x.scaleByTen? exponent = some scaled) : scaled.IsDouble := by
  induction hsize : exponent.natAbs using Nat.strong_induction_on generalizing x exponent with
  | _ size ih =>
      subst hsize
      rw [scaleByTen?] at hscaled
      split at hscaled
      · exact Option.some.inj hscaled ▸ hx
      · split at hscaled
        · cases hscaled
        · split at hscaled
          · exact isDouble_mul? hscaled
          · split at hscaled
            · exact isDouble_div? (significand_powerOfTen_ne_zero (by omega)) hscaled
            · -- a step down brings the exponent nearer to zero
              obtain ⟨smaller, hsmaller, hscaled⟩ := Option.bind_eq_some_iff.mp hscaled
              have hdouble := isDouble_div? (significand_powerOfTen_ne_zero le_rfl) hsmaller
              exact ih _ (by omega) hdouble hscaled rfl

/-- A decimal literal denotes a double, rounded again for each power of ten. -/
theorem isDouble_ofDecimal? {negative : Bool} {digits : Nat} {exponent : Int} {value : Binary64}
    (hvalue : ofDecimal? negative digits exponent = some value) : value.IsDouble := by
  obtain ⟨rounded, hrounded, hvalue⟩ := Option.bind_eq_some_iff.mp hvalue
  obtain ⟨scaled, hscaled, hvalue⟩ := Option.bind_eq_some_iff.mp hvalue
  obtain rfl := Option.some.inj hvalue
  obtain ⟨hsignificand, hleast, hgreatest, hnormal⟩ :=
    isDouble_scaleByTen? (isDouble_of_ofRatio? Nat.one_pos hrounded) hscaled
  exact ⟨hsignificand, hleast, hgreatest, hnormal⟩

end

end Binary64

end SchemaTypes
