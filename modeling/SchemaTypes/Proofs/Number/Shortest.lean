import SchemaTypes.Proofs.Number.Rounding

/-!
# The shortest decimal lies in the interval

The shortest decimal of a double is one of the two grid points around it, for the least number of
digits of which one lies in the interval of quotients that round to the double.  With seventeen
digits the grid is finer than any such interval, so that there always is one.

* `Binary64.isInside_of_gridChoice`: grid points that are found lie in the interval.
* `Binary64.isSome_gridChoice`: a fine grid has a point in the interval.
* `Binary64.rounds_shortest`: the shortest decimal reads back as the double.
-/

namespace SchemaTypes

/-- The size of a decimal. -/
def Decimal.size (decimal : Decimal) : ℚ := decimal.digits * 10 ^ decimal.exponent

theorem Decimal.digitCount_spec {n : Nat} (hn : 0 < n) :
    ∃ length, digitCount n = length + 1 ∧ 10 ^ length ≤ n ∧ n < 10 ^ (length + 1) := by
  have hpositive : 0 < digitCount n := Nat.length_toDigits_pos
  have hcount : digitCount n = digitCount n - 1 + 1 := (Nat.sub_add_cancel hpositive).symm
  refine ⟨digitCount n - 1, hcount, ?_, ?_⟩
  · by_cases hone : digitCount n - 1 = 0
    · rw [hone]
      exact hn
    · by_contra hless
      have hle := (Nat.length_toDigits_le_iff (by decide) (Nat.pos_of_ne_zero hone)).mpr
        (not_le.mp hless)
      change digitCount n ≤ digitCount n - 1 at hle
      omega
  · rw [← hcount]
    exact (Nat.length_toDigits_le_iff (by decide) hpositive).mp le_rfl

/-- Trailing zeros carry no value. -/
theorem Decimal.dropZeros_value (fuel digits : Nat) (exponent : Int) :
    ((dropZeros fuel digits exponent).1 : ℚ) * 10 ^ (dropZeros fuel digits exponent).2 =
      digits * 10 ^ exponent := by
  induction fuel generalizing digits exponent with
  | zero => rfl
  | succ fuel ih =>
      rw [dropZeros]
      split
      · rename_i hzero
        rw [Bool.and_eq_true, beq_iff_eq] at hzero
        have hten : 10 * (digits / 10) = digits :=
          Nat.mul_div_cancel' (Nat.dvd_of_mod_eq_zero hzero.2)
        rw [ih, zpow_add_one₀ (by norm_num)]
        conv_rhs => rw [← hten]
        push_cast
        ring
      · rfl

namespace Binary64

theorem floorLog10_spec {num den : Nat} (hnum : 0 < num) (hden : 0 < den) :
    (10 : ℚ) ^ floorLog10 num den ≤ (num : ℚ) / den := by
  obtain ⟨numLength, hnumCount, hnumBounds⟩ := Decimal.digitCount_spec hnum
  obtain ⟨denLength, hdenCount, hdenBounds⟩ := Decimal.digitCount_spec hden
  have hreached := zpow_le_div_iff 10 num (by norm_num) hden
    ((Decimal.digitCount num : Int) - Decimal.digitCount den)
  have hguess : (Decimal.digitCount num : Int) - Decimal.digitCount den =
      (numLength : Int) - denLength := by
    rw [hnumCount, hdenCount]
    push_cast
    ring
  refine (zpow_bounds_of_lengths 10 (by norm_num) hnumBounds hdenBounds hguess ?_).1
  rw [floorLog10]
  exact (if_congr hreached rfl rfl).symm

/-! ## The grid -/

/-- The spacing of the grid and the unit of the interval, at a common scale. -/
def gridUnits (num den : Nat) (exponent : Int) : Nat × Nat :=
  if exponent ≥ 0 then (den * Nat.pow 10 exponent.toNat, num)
  else (den, num * Nat.pow 10 (-exponent).toNat)

/-- Whether a grid point lies in the interval. -/
def isInside (low high : Nat) (closed : Bool) (scale unit point : Nat) : Bool :=
  if closed then low * unit ≤ point * scale && point * scale ≤ high * unit
  else low * unit < point * scale && point * scale < high * unit

/-- The grid point of two that is chosen. -/
def gridChoice (interval : Nat × Nat × Nat) (closed : Bool) (scale unit : Nat) (exponent : Int) :
    Option (Nat × Int) :=
  let (low, centre, high) := interval
  let value := centre * unit
  let lower := value / scale
  let upper := lower + 1
  let toLower := value - lower * scale
  let toUpper := upper * scale - value
  match isInside low high closed scale unit lower, isInside low high closed scale unit upper with
  | true, true =>
    if toLower < toUpper || (toLower == toUpper && lower % 2 == 0) then some (lower, exponent)
    else some (upper, exponent)
  | true, false => some (lower, exponent)
  | false, true => some (upper, exponent)
  | false, false => none

theorem gridPoint?_eq (interval : Nat × Nat × Nat) (closed : Bool) (num den : Nat) (leading : Int)
    (count : Nat) :
    gridPoint? interval closed num den leading count =
      gridChoice interval closed (gridUnits num den (leading - count + 1)).1
        (gridUnits num den (leading - count + 1)).2 (leading - count + 1) := rfl

section

variable {low centre high scale unit point : Nat} {closed : Bool} {exponent other : Int}

theorem isInside_of_gridChoice
    (hpoint : gridChoice (low, centre, high) closed scale unit exponent = some (point, other)) :
    other = exponent ∧ isInside low high closed scale unit point = true := by
  unfold gridChoice at hpoint
  dsimp only at hpoint
  split at hpoint
  · rename_i hlower hupper
    split at hpoint
    · cases hpoint
      exact ⟨rfl, hlower⟩
    · cases hpoint
      exact ⟨rfl, hupper⟩
  · rename_i hlower hupper
    cases hpoint
    exact ⟨rfl, hlower⟩
  · rename_i hlower hupper
    cases hpoint
    exact ⟨rfl, hupper⟩
  · cases hpoint

/-- A grid that is finer than the interval has a point in it. -/
theorem isSome_gridChoice (hunit : 0 < unit) (hscale : 0 < scale) (hlow : low < centre)
    (hhigh : centre < high) (hfine : low * unit + scale < high * unit) :
    (gridChoice (low, centre, high) closed scale unit exponent).isSome := by
  have hfloor : centre * unit / scale * scale ≤ centre * unit := Nat.div_mul_le_self _ _
  have hceiling : centre * unit < (centre * unit / scale + 1) * scale := by
    have hrest : centre * unit % scale < scale := Nat.mod_lt _ hscale
    have hsplit := Nat.div_add_mod' (centre * unit) scale
    rw [Nat.add_mul, one_mul]
    omega
  have hlow' : low * unit < centre * unit := Nat.mul_lt_mul_of_pos_right hlow hunit
  have hhigh' : centre * unit < high * unit := Nat.mul_lt_mul_of_pos_right hhigh hunit
  have hone : isInside low high closed scale unit (centre * unit / scale) = true ∨
      isInside low high closed scale unit (centre * unit / scale + 1) = true := by
    have hnext : (centre * unit / scale + 1) * scale = centre * unit / scale * scale + scale := by
      rw [Nat.add_mul, one_mul]
    unfold isInside
    cases closed <;> simp only [Bool.false_eq_true, if_false, if_true, Bool.and_eq_true,
      decide_eq_true_eq] <;> omega
  unfold gridChoice
  dsimp only
  split
  · split <;> rfl
  · rfl
  · rfl
  · rename_i hlower hupper
    rw [hlower, hupper] at hone
    simp at hone

end

/-! ## The interval at a scale -/

section

variable {num den low high : Nat} {closed : Bool} {exponent : Int} {point : Nat}

theorem gridUnits_spec (hnum : 0 < num) (hden : 0 < den) (exponent : Int) :
    0 < (gridUnits num den exponent).1 ∧ 0 < (gridUnits num den exponent).2 ∧
      ((gridUnits num den exponent).2 : ℚ) / (gridUnits num den exponent).1 =
        (num : ℚ) / den / 10 ^ exponent := by
  unfold gridUnits
  by_cases hexponent : exponent ≥ 0
  · rw [if_pos hexponent]
    have hpow := zpow_of_nonneg 10 hexponent
    rw [Nat.cast_ofNat] at hpow
    refine ⟨Nat.mul_pos hden (Nat.pow_pos (by decide)), hnum, ?_⟩
    rw [hpow, Nat.cast_mul, div_div]
  · rw [if_neg hexponent]
    have hpow := zpow_of_neg 10 (not_le.mp hexponent)
    rw [Nat.cast_ofNat] at hpow
    refine ⟨hden, Nat.mul_pos hnum (Nat.pow_pos (by decide)), ?_⟩
    rw [hpow, div_inv_eq_mul, Nat.cast_mul, mul_div_right_comm]

/-- The same for values. -/
theorem isInside_iff (hnum : 0 < num) (hden : 0 < den) :
    isInside low high closed (gridUnits num den exponent).1 (gridUnits num den exponent).2 point =
        true ↔
      (low : ℚ) * (num / den) ≤ point * 10 ^ exponent ∧
        (point : ℚ) * 10 ^ exponent ≤ high * (num / den) ∧
        (closed = false → (low : ℚ) * (num / den) < point * 10 ^ exponent ∧
          (point : ℚ) * 10 ^ exponent < high * (num / den)) := by
  obtain ⟨hscale, hunit, hratio⟩ := gridUnits_spec hnum hden exponent
  generalize (gridUnits num den exponent).1 = scale at *
  generalize (gridUnits num den exponent).2 = unit at *
  have hscale' : (0 : ℚ) < scale := by exact_mod_cast hscale
  have hpow : (0 : ℚ) < 10 ^ exponent := zpow_pos (by norm_num) _
  have hvalue : ((num : ℚ) / den) * scale = unit * 10 ^ exponent := by
    rw [div_eq_div_iff hscale'.ne' hpow.ne'] at hratio
    exact hratio.symm
  -- both sides are multiplied by the scale, and the value by it is the unit at the exponent
  have hle : ∀ bound : Nat, bound * unit ≤ point * scale ↔
      (bound : ℚ) * (num / den) ≤ point * 10 ^ exponent := by
    intro bound
    rw [← mul_le_mul_iff_left₀ hscale', mul_assoc, hvalue, ← mul_assoc, mul_right_comm (point : ℚ),
      mul_le_mul_iff_left₀ hpow]
    exact_mod_cast Iff.rfl
  have hge : ∀ bound : Nat, point * scale ≤ bound * unit ↔
      (point : ℚ) * 10 ^ exponent ≤ bound * (num / den) := by
    intro bound
    rw [← mul_le_mul_iff_left₀ hscale', mul_assoc (bound : ℚ), hvalue, ← mul_assoc (bound : ℚ),
      mul_right_comm (point : ℚ), mul_le_mul_iff_left₀ hpow]
    exact_mod_cast Iff.rfl
  have hlt : low * unit < point * scale ↔ (low : ℚ) * (num / den) < point * 10 ^ exponent := by
    rw [← not_le, hge, not_le]
  have hgt : point * scale < high * unit ↔ (point : ℚ) * 10 ^ exponent < high * (num / den) := by
    rw [← not_le, hle, not_le]
  unfold isInside
  cases closed with
  | true =>
      simp only [if_true, Bool.and_eq_true, decide_eq_true_eq, hle, hge, Bool.true_eq_false,
        false_imp_iff, and_true]
  | false =>
      simp only [Bool.false_eq_true, if_false, Bool.and_eq_true, decide_eq_true_eq, hlt, hgt,
        true_imp_iff]
      exact ⟨fun hinside => ⟨hinside.1.le, hinside.2.le, hinside⟩, fun hinside => hinside.2.2⟩

end

/-! ## The search -/

section

variable {interval : Nat × Nat × Nat} {closed : Bool} {num den : Nat} {leading : Int}

/-- What the search finds is a grid point for some number of digits. -/
theorem exists_gridPoint? {attempts count : Nat} {found : Nat × Int}
    (hfound : shortestFrom interval closed num den leading attempts count = some found) :
    ∃ digits, gridPoint? interval closed num den leading digits = some found := by
  induction attempts generalizing count with
  | zero => cases hfound
  | succ attempts ih =>
      rw [shortestFrom, Option.or_eq_some_iff] at hfound
      rcases hfound with hfirst | ⟨-, hlater⟩
      · exact ⟨count, hfirst⟩
      · exact ih hlater

/-- The search comes to the last number of digits, if it finds nothing before. -/
theorem isSome_shortestFrom {attempts count : Nat}
    (hlast : (gridPoint? interval closed num den leading (count + attempts)).isSome) :
    (shortestFrom interval closed num den leading (attempts + 1) count).isSome := by
  induction attempts generalizing count with
  | zero =>
      rw [shortestFrom, Option.isSome_or]
      exact Bool.or_eq_true_iff.mpr (.inl hlast)
  | succ attempts ih =>
      rw [shortestFrom, Option.isSome_or, Bool.or_eq_true]
      right
      refine ih ?_
      rwa [Nat.add_right_comm]

end

/-- The unit of the interval of a double, a quarter of its last place. -/
def quarterPlace (x : Binary64) : Nat × Nat :=
  if x.exponent ≥ 2 then (Nat.pow 2 (x.exponent - 2).toNat, 1)
  else (1, Nat.pow 2 (2 - x.exponent).toNat)

theorem quarterPlace_spec (x : Binary64) :
    0 < x.quarterPlace.1 ∧ 0 < x.quarterPlace.2 ∧
      (x.quarterPlace.1 : ℚ) / x.quarterPlace.2 = 2 ^ (x.exponent - 2) := by
  unfold quarterPlace
  split
  · rename_i hexponent
    have hpow := zpow_of_nonneg 2 (by omega : 0 ≤ x.exponent - 2)
    rw [Nat.cast_ofNat] at hpow
    exact ⟨Nat.pow_pos two_pos, one_pos, by rw [hpow, Nat.cast_one, div_one]⟩
  · rename_i hexponent
    have hpow := zpow_of_neg 2 (by omega : x.exponent - 2 < 0)
    rw [Nat.cast_ofNat, neg_sub] at hpow
    exact ⟨one_pos, Nat.pow_pos two_pos, by rw [hpow, Nat.cast_one, one_div]⟩

/-- The digits and the power of ten that are found for a positive double. -/
def shortestDigits? (x : Binary64) : Option (Nat × Int) :=
  shortestFrom x.roundingInterval (x.significand % 2 == 0) x.quarterPlace.1 x.quarterPlace.2
    (floorLog10 (x.roundingInterval.2.1 * x.quarterPlace.1) x.quarterPlace.2) 17 1

theorem shortest_eq {x : Binary64} (hx : x.significand ≠ 0) {digits : Nat} {exponent : Int}
    (hdigits : x.shortestDigits? = some (digits, exponent)) :
    x.shortest = ⟨x.negative, (Decimal.dropZeros 20 digits exponent).1,
      (Decimal.dropZeros 20 digits exponent).2⟩ := by
  have hzero : x.isZero = false := by simpa [isZero] using hx
  unfold shortestDigits? quarterPlace at hdigits
  unfold shortest
  dsimp only at hdigits ⊢
  rw [hzero, if_neg Bool.false_ne_true, hdigits]

theorem negative_shortest (x : Binary64) : x.shortest.negative = x.negative := by
  unfold shortest
  split
  · rfl
  · dsimp only
    split <;> rfl

section

variable {x : Binary64}

theorem roundingInterval_bounds (hx : x.IsDouble) (hpositive : x.significand ≠ 0) :
    0 < x.roundingInterval.1 ∧ x.roundingInterval.1 < x.roundingInterval.2.1 ∧
      x.roundingInterval.2.1 < x.roundingInterval.2.2 ∧
      x.roundingInterval.1 * 10 ^ 16 + x.roundingInterval.2.1 <
        x.roundingInterval.2.2 * 10 ^ 16 := by
  have hsignificand := hx.significand
  unfold roundingInterval
  dsimp only
  split
  · rename_i hpower
    rw [Bool.and_eq_true, beq_iff_eq] at hpower
    have hleast := hpower.1
    simp only [leastNormal] at hleast
    omega
  · simp only [leastNormal] at hsignificand
    omega

/-- **Seventeen digits suffice.**  With so many the grid is finer than the interval. -/
theorem isSome_shortestDigits? (hx : x.IsDouble) (hpositive : x.significand ≠ 0) :
    x.shortestDigits?.isSome := by
  obtain ⟨-, hlow, hhigh, hwide⟩ := roundingInterval_bounds hx hpositive
  obtain ⟨hnum, hden, -⟩ := x.quarterPlace_spec
  unfold shortestDigits?
  generalize x.quarterPlace = place at *
  obtain ⟨num, den⟩ := place
  generalize x.roundingInterval = interval at *
  obtain ⟨low, centre, high⟩ := interval
  dsimp only at *
  refine isSome_shortestFrom ?_
  have hleading := floorLog10_spec (Nat.mul_pos (Nat.zero_lt_of_lt hlow) hnum) hden
  generalize floorLog10 (centre * num) den = leading at *
  rw [gridPoint?_eq]
  obtain ⟨hscale, hunit, hratio⟩ := gridUnits_spec hnum hden (leading - (1 + 16 : Nat) + 1)
  refine isSome_gridChoice hunit hscale hlow hhigh ?_
  have hspacing : (10 : ℚ) ^ (leading - (1 + 16 : Nat) + 1) * 10 ^ 16 = 10 ^ leading := by
    rw [← zpow_natCast, ← zpow_add₀ (by norm_num)]
    congr 1
    push_cast
    ring
  generalize (gridUnits num den (leading - (1 + 16 : Nat) + 1)).1 = scale at *
  generalize (gridUnits num den (leading - (1 + 16 : Nat) + 1)).2 = unit at *
  have hscale' : (0 : ℚ) < scale := by exact_mod_cast hscale
  have hpow : (0 : ℚ) < 10 ^ (leading - (1 + 16 : Nat) + 1) := zpow_pos (by norm_num) _
  -- the double is at least `10 ^ 16` times the spacing
  have hlarge : scale * 10 ^ 16 ≤ centre * unit := by
    have hsize : (10 : ℚ) ^ 16 ≤ centre * ((unit : ℚ) / scale) := by
      rw [hratio, ← mul_div_assoc, le_div_iff₀ hpow, mul_comm, hspacing, ← mul_div_assoc]
      exact_mod_cast hleading
    rw [← mul_div_assoc, le_div_iff₀ hscale', mul_comm] at hsize
    exact_mod_cast hsize
  refine Nat.lt_of_mul_lt_mul_right (a := 10 ^ 16) ?_
  calc (low * unit + scale) * 10 ^ 16
      = low * unit * 10 ^ 16 + scale * 10 ^ 16 := Nat.add_mul _ _ _
    _ ≤ low * unit * 10 ^ 16 + centre * unit := Nat.add_le_add_left hlarge _
    _ = (low * 10 ^ 16 + centre) * unit := by ring
    _ < high * 10 ^ 16 * unit := Nat.mul_lt_mul_of_pos_right hwide hunit
    _ = high * unit * 10 ^ 16 := by ring

/-- **The shortest decimal** of a double reads back as the double. -/
theorem rounds_shortest (hx : x.IsDouble) (hpositive : x.significand ≠ 0) :
    x.shortest.digits ≠ 0 ∧ x.Rounds x.shortest.size := by
  obtain ⟨⟨digits, exponent⟩, hdigits⟩ :=
    Option.isSome_iff_exists.mp (isSome_shortestDigits? hx hpositive)
  obtain ⟨hlow, -, -, -⟩ := roundingInterval_bounds hx hpositive
  obtain ⟨hnum, hden, hplace⟩ := x.quarterPlace_spec
  have hsize : x.shortest.size = digits * 10 ^ exponent := by
    rw [shortest_eq hpositive hdigits, Decimal.size, Decimal.dropZeros_value]
  obtain ⟨count, hpoint⟩ := exists_gridPoint? hdigits
  rw [gridPoint?_eq] at hpoint
  obtain ⟨rfl, hinside⟩ := isInside_of_gridChoice hpoint
  obtain ⟨hatLeast, hatMost, hinside⟩ := (isInside_iff hnum hden).mp hinside
  rw [hplace, ← hsize] at hatLeast hatMost hinside
  refine ⟨?_, hatLeast, hatMost, fun hodd => hinside (by simp [hodd])⟩
  intro hzero
  have hlow' : (0 : ℚ) < x.roundingInterval.1 * 2 ^ (x.exponent - 2) :=
    mul_pos (by exact_mod_cast hlow) (zpow_pos two_pos _)
  rw [Decimal.size, hzero, Nat.cast_zero, zero_mul] at hatLeast
  exact absurd hatLeast (not_le.mpr hlow')

end

end Binary64

end SchemaTypes
