import SchemaTypes.Codec.Decode
import SchemaTypes.Validation.Value
import SchemaTypes.Proofs.Number.Rounding
import Mathlib.Tactic

/-!
# Integers among the numbers

Which integer a JSON number stands for.  An integer of 64 bits with sign stands for itself, a
double without a fraction for its value, as long as it stays below `9 * 10 ^ 15` in size.  The
remaining integers are turned into doubles first, and rounding leaves them at `2 ^ 63` or above,
so that they stand for nothing.

* `Decode.natAbs_lt_of_integerOfFloat?`: an integer read from a double is small.
* `Decode.integerOfFloat?_ofInt`: a large integer is not read from its double.
* `Decode.integer?_integer`: what has been read as an integer reads back as itself.
-/

namespace SchemaTypes

namespace Binary64

/-! ## Rounding of large integers -/

theorem floorLog2_one {num : Nat} (hnum : num ≠ 0) : floorLog2 num 1 = num.log2 := by
  have hreached : 2 ^ num.log2 ≤ num := Nat.log2_self_le hnum
  have hone : Nat.log2 1 = 0 := by decide
  simp [floorLog2, hone, hreached]

/-- A double of at least `2 ^ 63` in size, as its parts show it. -/
structure Large (x : Binary64) : Prop where
  significand : 2 ^ 52 ≤ x.significand
  exponent : 11 ≤ x.exponent

/-- Rounding never takes an integer of at least `2 ^ 63` below that. -/
theorem large_of_ofRatio? {negative : Bool} {num : Nat} (hnum : 2 ^ 63 ≤ num) {x : Binary64}
    (hx : ofRatio? negative num 1 = some x) : x.Large := by
  have hzero : num ≠ 0 := by omega
  have hlog : 63 ≤ num.log2 := (Nat.le_log2 hzero).mpr hnum
  have hexponent : max ((num.log2 : Int) - 52) leastExponent = ((num.log2 - 52 : Nat) : Int) := by
    unfold leastExponent
    omega
  have hsignificand : 2 ^ 52 ≤ roundHalfEven num (2 ^ (num.log2 - 52)) := by
    refine le_trans ?_ (div_le_roundHalfEven num _)
    rw [Nat.le_div_iff_mul_le (by positivity), ← pow_add]
    exact le_trans (Nat.pow_le_pow_right (by norm_num) (by omega)) (Nat.log2_self_le hzero)
  unfold ofRatio? at hx
  simp only [floorLog2_one hzero, hexponent, beq_iff_eq, hzero, if_false, Nat.cast_nonneg, ge_iff_le,
    if_true, Int.toNat_natCast, one_mul, Nat.pow_eq, gt_iff_lt] at hx
  -- rounding may carry into the next exponent
  by_cases hcarry : roundHalfEven num (2 ^ (num.log2 - 52)) = 2 * leastNormal
  · simp only [hcarry, if_true, Option.ite_none_left_eq_some, Option.some.injEq] at hx
    obtain ⟨-, rfl⟩ := hx
    refine ⟨by norm_num [leastNormal], ?_⟩
    dsimp only
    omega
  · simp only [hcarry, if_false, Option.ite_none_left_eq_some, Option.some.injEq] at hx
    obtain ⟨-, rfl⟩ := hx
    refine ⟨hsignificand, ?_⟩
    dsimp only
    omega

theorem large_ofInt {value : Int} (hvalue : 2 ^ 63 ≤ value.natAbs) : (ofInt value).Large := by
  unfold ofInt
  cases hrounded : ofRatio? (value < 0) value.natAbs 1 with
  | none => exact ⟨by norm_num [greatest, leastNormal], by norm_num [greatest, greatestExponent]⟩
  | some x => exact large_of_ofRatio? hvalue hrounded

/-! ## Size of the integer part -/

theorem natAbs_truncate (x : Binary64) :
    x.truncate.natAbs = x.magnitude.1 / x.magnitude.2 := by
  unfold truncate
  dsimp only
  split
  · rw [Int.natAbs_neg, Int.natAbs_natCast]
  · rw [Int.natAbs_natCast]

/-- The integer part is at most the number itself, on the scale of the least numbers. -/
theorem natAbs_truncate_mul_le (x : Binary64) :
    x.truncate.natAbs * 2 ^ leastExponent.natAbs
      ≤ x.significand * 2 ^ (x.exponent - leastExponent).toNat := by
  have hleast : leastExponent ≤ 0 := by decide
  rw [natAbs_truncate]
  by_cases hsign : x.exponent ≥ 0
  · have hsum : (x.exponent - leastExponent).toNat
        = x.exponent.toNat + leastExponent.natAbs := by omega
    simp only [magnitude, hsign, if_true, Nat.div_one, Nat.pow_eq, hsum, pow_add]
    exact le_of_eq (by ring)
  · -- below the least exponent the scale ends, and the quotient is smaller still
    have hsum : leastExponent.natAbs ≤
        (-x.exponent).toNat + (x.exponent - leastExponent).toNat := by
      omega
    simp only [magnitude, hsign, if_false, Nat.pow_eq]
    calc x.significand / 2 ^ (-x.exponent).toNat * 2 ^ leastExponent.natAbs
        ≤ x.significand / 2 ^ (-x.exponent).toNat *
            2 ^ ((-x.exponent).toNat + (x.exponent - leastExponent).toNat) :=
          Nat.mul_le_mul_left _ (Nat.pow_le_pow_right (by norm_num) hsum)
      _ = x.significand / 2 ^ (-x.exponent).toNat * 2 ^ (-x.exponent).toNat *
            2 ^ (x.exponent - leastExponent).toNat := by rw [pow_add, mul_assoc]
      _ ≤ x.significand * 2 ^ (x.exponent - leastExponent).toNat :=
          Nat.mul_le_mul_right _ (Nat.div_mul_le_self _ _)

theorem scaled_abs (x : Binary64) :
    x.abs.scaled = ((x.significand * 2 ^ (x.exponent - leastExponent).toNat : Nat) : Int) := by
  simp [scaled, abs]

theorem compareInt_eq_lt {x : Binary64} {value : Int} :
    x.compareInt value = .lt ↔ x.scaled < value * ((2 ^ leastExponent.natAbs : Nat) : Int) := by
  simp only [compareInt, Nat.pow_eq, compare_lt_iff_lt]

/-- A number without a fraction that is not below one has an integer part of at least one. -/
theorem one_le_truncate {x : Binary64} (hintegral : x.isIntegral)
    (hone : (x.compareInt 1).isGE) : 1 ≤ x.truncate := by
  have hscaled : ((2 ^ leastExponent.natAbs : Nat) : Int) ≤ x.scaled := by
    by_contra hless
    rw [not_le, ← one_mul ((2 ^ leastExponent.natAbs : Nat) : Int), ← compareInt_eq_lt] at hless
    simp [hless] at hone
  have hpositive : (0 : Int) < x.scaled :=
    lt_of_lt_of_le (by exact_mod_cast Nat.two_pow_pos _) hscaled
  have hsign : x.negative = false := by
    by_contra hnegative
    simp only [Bool.not_eq_false] at hnegative
    simp only [scaled, hnegative, if_true] at hpositive
    omega
  have hsignificand : 0 < x.significand := by
    rw [Nat.pos_iff_ne_zero]
    intro hnone
    simp [scaled, hsign, hnone] at hpositive
  have hmagnitude : x.truncate = ((x.magnitude.1 / x.magnitude.2 : Nat) : Int) := by
    simp [truncate, hsign]
  -- without a fraction the quotient is exact, so a positive number has a positive one
  have hdvd : x.magnitude.2 ∣ x.magnitude.1 := by
    simpa [isIntegral, Nat.dvd_iff_mod_eq_zero] using hintegral
  have hnum : 0 < x.magnitude.1 := by
    unfold magnitude
    split
    · exact Nat.mul_pos hsignificand (Nat.two_pow_pos _)
    · exact hsignificand
  have hquotient : 0 < x.magnitude.1 / x.magnitude.2 :=
    Nat.div_pos (Nat.le_of_dvd hnum hdvd) (Nat.pos_of_dvd_of_pos hdvd hnum)
  omega

end Binary64

namespace Decode

open Binary64

theorem natCast_natAbs_greatestIntegralFloat :
    ((greatestIntegralFloat.natAbs : Nat) : Int) = greatestIntegralFloat := by decide

/-- What a double stands for stays below the limit in size. -/
theorem natAbs_lt_of_integerOfFloat? {x : Binary64} {value : Int}
    (hvalue : integerOfFloat? x = some value) : value.natAbs < greatestIntegralFloat.natAbs := by
  unfold integerOfFloat? at hvalue
  simp only [Bool.and_eq_true, beq_iff_eq, Option.ite_none_right_eq_some, Option.some.injEq]
    at hvalue
  obtain ⟨⟨-, hless⟩, rfl⟩ := hvalue
  rw [compareInt_eq_lt, scaled_abs] at hless
  rw [← natCast_natAbs_greatestIntegralFloat] at hless
  refine Nat.lt_of_mul_lt_mul_right (lt_of_le_of_lt (natAbs_truncate_mul_le x) ?_)
  exact_mod_cast hless

/-- Integers of at least `2 ^ 63` in size are not read by way of the doubles next to them. -/
theorem integerOfFloat?_ofInt {value : Int} (hvalue : 2 ^ 63 ≤ value.natAbs) :
    integerOfFloat? (ofInt value) = none := by
  have hlarge := large_ofInt hvalue
  have hexponent : 11 + leastExponent.natAbs ≤ ((ofInt value).exponent - leastExponent).toNat := by
    have := hlarge.exponent
    unfold leastExponent
    omega
  have hsize : greatestIntegralFloat.natAbs * 2 ^ leastExponent.natAbs
      ≤ (ofInt value).significand * 2 ^ ((ofInt value).exponent - leastExponent).toNat :=
    calc greatestIntegralFloat.natAbs * 2 ^ leastExponent.natAbs
        ≤ 2 ^ 52 * 2 ^ 11 * 2 ^ leastExponent.natAbs := Nat.mul_le_mul_right _ (by decide)
      _ = 2 ^ 52 * 2 ^ (11 + leastExponent.natAbs) := by rw [mul_assoc, pow_add]
      _ ≤ _ := Nat.mul_le_mul hlarge.significand (Nat.pow_le_pow_right (by norm_num) hexponent)
  have hscaled : greatestIntegralFloat * ((2 ^ leastExponent.natAbs : Nat) : Int)
      ≤ (ofInt value).abs.scaled := by
    rw [scaled_abs, ← natCast_natAbs_greatestIntegralFloat, ← Nat.cast_mul]
    exact Int.ofNat_le.mpr hsize
  unfold integerOfFloat?
  rw [if_neg]
  rw [Bool.and_eq_true, beq_iff_eq, compareInt_eq_lt, not_and]
  intro _
  exact not_lt.mpr hscaled

theorem signed?_eq_some {number : JsonNumber} {value : Int}
    (hvalue : number.signed? = some value) :
    number = .integer value ∧ JsonNumber.leastSigned ≤ value ∧
      value ≤ JsonNumber.greatestSigned := by
  cases number with
  | integer own =>
      simp only [JsonNumber.signed?, Bool.and_eq_true, decide_eq_true_eq,
        Option.ite_none_right_eq_some, Option.some.injEq] at hvalue
      obtain ⟨hrange, rfl⟩ := hvalue
      exact ⟨rfl, hrange⟩
  | float own => simp [JsonNumber.signed?] at hvalue

/-- A number is read as the integer that it is written as, or as the value of a double. -/
theorem integerOfNumber?_eq_some {number : JsonNumber} {value : Int}
    (hvalue : integerOfNumber? number = some value) :
    (number = .integer value ∧
        JsonNumber.leastSigned ≤ value ∧ value ≤ JsonNumber.greatestSigned) ∨
      ∃ x, number = .float x ∧ integerOfFloat? x = some value := by
  cases number with
  | integer own =>
      left
      rw [integerOfNumber?, Option.or_eq_some_iff] at hvalue
      rcases hvalue with hsigned | ⟨hunsigned, hfloat⟩
      · exact signed?_eq_some hsigned
      · -- an integer past the range is no longer one as a double
        have hrange : ¬(JsonNumber.leastSigned ≤ own ∧ own ≤ JsonNumber.greatestSigned) := by
          intro hrange
          simp [JsonNumber.signed?, hrange] at hunsigned
        have hlarge : 2 ^ 63 ≤ own.natAbs := by
          unfold JsonNumber.leastSigned JsonNumber.greatestSigned at hrange
          omega
        rw [JsonNumber.toBinary64, integerOfFloat?_ofInt hlarge] at hfloat
        cases hfloat
  | float x =>
      right
      refine ⟨x, rfl, ?_⟩
      simpa [integerOfNumber?, JsonNumber.signed?, JsonNumber.toBinary64] using hvalue

/-- An integer of 64 bits with sign. -/
def IsSigned (value : Int) : Prop :=
  JsonNumber.leastSigned ≤ value ∧ value ≤ JsonNumber.greatestSigned

/-- What is read as an integer has 64 bits with sign. -/
theorem isSigned_of_integer? {input : Json} {value : Int} (hvalue : integer? input = some value) :
    IsSigned value := by
  rw [integer?, Option.bind_eq_some_iff] at hvalue
  obtain ⟨number, -, hnumber⟩ := hvalue
  rcases integerOfNumber?_eq_some hnumber with ⟨-, hrange⟩ | ⟨x, -, hx⟩
  · exact hrange
  · have := natAbs_lt_of_integerOfFloat? hx
    simp only [IsSigned, greatestIntegralFloat, JsonNumber.leastSigned,
      JsonNumber.greatestSigned] at this ⊢
    omega

/-- Integers of 64 bits with sign are read as themselves. -/
theorem integer?_of_isSigned {value : Int} (hvalue : IsSigned value) :
    integer? (.number (.integer value)) = some value := by
  obtain ⟨hleast, hgreatest⟩ := hvalue
  simp [integer?, Json.number?, integerOfNumber?, JsonNumber.signed?, hleast, hgreatest]

/-- What has been read as an integer reads back as itself. -/
theorem integer?_integer {input : Json} {value : Int} (hvalue : integer? input = some value) :
    integer? (.number (.integer value)) = some value :=
  integer?_of_isSigned (isSigned_of_integer? hvalue)

/-- A number that an integer is read from: one of 64 bits with sign, or a double without a fraction
below `9 * 10 ^ 15` in size. -/
def Readable : JsonNumber → Prop
  | .integer value => IsSigned value
  | .float value => value.isIntegral ∧ value.abs.compareInt 9000000000000000 = .lt

/-- **Numbers that are read as integers.** -/
theorem isSome_integer?_iff {input : Json} :
    (integer? input).isSome ↔ ∃ number, input = .number number ∧ Readable number := by
  constructor
  · intro hsome
    obtain ⟨value, hvalue⟩ := Option.isSome_iff_exists.mp hsome
    obtain ⟨number, hnumber, hvalue⟩ := Option.bind_eq_some_iff.mp hvalue
    cases input <;> cases hnumber
    refine ⟨number, rfl, ?_⟩
    rcases integerOfNumber?_eq_some hvalue with ⟨rfl, hrange⟩ | ⟨x, rfl, hx⟩
    · exact hrange
    · simp only [integerOfFloat?, Bool.and_eq_true, beq_iff_eq, Option.ite_none_right_eq_some]
        at hx
      exact hx.1
  · rintro ⟨number, rfl, hnumber⟩
    cases number with
    | integer value => rw [integer?_of_isSigned hnumber, Option.isSome_some]
    | float x =>
        obtain ⟨hintegral, hless⟩ := hnumber
        have hread : integerOfFloat? x = some x.truncate := by
          rw [integerOfFloat?, if_pos]
          rw [Bool.and_eq_true, beq_iff_eq]
          exact ⟨hintegral, hless⟩
        simp [integer?, Json.number?, integerOfNumber?, JsonNumber.signed?, JsonNumber.toBinary64,
          hread]

/-- A number that is an integer of at least one to a schema is read as such an integer, if at
all. -/
theorem one_le_integer {number : JsonNumber} {value : Int} (hintegral : number.isIntegral)
    (hone : (number.compareValue (.integer 1)).isGE)
    (hvalue : integerOfNumber? number = some value) : 1 ≤ value := by
  rcases integerOfNumber?_eq_some hvalue with ⟨rfl, -⟩ | ⟨x, rfl, hx⟩
  · simpa [JsonNumber.compareValue, Ordering.isGE_iff_ne_lt, compare_lt_iff_lt] using hone
  · simp only [integerOfFloat?, Option.ite_none_right_eq_some, Option.some.injEq] at hx
    rw [← hx.2]
    exact one_le_truncate hintegral hone

end Decode

end SchemaTypes
