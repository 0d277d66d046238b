/-!
# Finite binary64 numbers

JSON numbers that are not integers are held as finite binary64 numbers.  A number is kept as
its sign, a significand below `2 ^ 53` and a power of two, so that comparison, rounding and
printing are exact integer arithmetic.

## Main definitions

* `Binary64`: sign, significand and exponent of a finite double.
* `Binary64.ofRatio?`: the double nearest to a quotient of naturals, a half going to the even
  neighbour; nothing when the quotient lies beyond the largest double.
* `Binary64.ofDecimal?`: the double a decimal literal denotes.  The significand and the power of
  ten are rounded first and then combined, one rounding each.
-/

namespace SchemaTypes

/-- The finite double `± significand * 2 ^ exponent`.  Normal numbers have a significand of
53 bits; smaller ones sit at the least exponent `-1074`. -/
structure Binary64 where
  negative : Bool
  significand : Nat
  exponent : Int
deriving DecidableEq, Repr, Inhabited

namespace Binary64

/-- Exponent of the subnormal numbers and of zero. -/
def leastExponent : Int := -1074

/-- Exponent of the largest finite numbers. -/
def greatestExponent : Int := 971

/-- Least significand of normal numbers above the least exponent, `2 ^ 52`. -/
def leastNormal : Nat := 0x10000000000000

/-- Positive zero. -/
def zero : Binary64 := ⟨false, 0, leastExponent⟩

/-- Whether the value is zero, of either sign. -/
def isZero (x : Binary64) : Bool := x.significand == 0

/-- The value with the other sign. -/
def neg (x : Binary64) : Binary64 := { x with negative := !x.negative }

/-- The value without its sign. -/
def abs (x : Binary64) : Binary64 := { x with negative := false }

/-! ## Rounding a quotient -/

/-- `⌊log₂ (num / den)⌋` for positive arguments. -/
def floorLog2 (num den : Nat) : Int :=
  let guess : Int := (num.log2 : Int) - (den.log2 : Int)
  let reached :=
    if guess ≥ 0 then num ≥ den * Nat.pow 2 guess.toNat
    else num * Nat.pow 2 (-guess).toNat ≥ den
  if reached then guess else guess - 1

/-- The integer nearest to `num / den`, a half going to the even one. -/
def roundHalfEven (num den : Nat) : Nat :=
  let quotient := num / den
  let twice := 2 * (num % den)
  if twice > den || (twice == den && quotient % 2 == 1) then quotient + 1 else quotient

/-- The double nearest to `± num / den`.  There is none when the quotient rounds past the
largest finite double. -/
def ofRatio? (negative : Bool) (num den : Nat) : Option Binary64 :=
  if num == 0 then
    some ⟨negative, 0, leastExponent⟩
  else
    let exponent := max (floorLog2 num den - 52) leastExponent
    let significand :=
      if exponent ≥ 0 then roundHalfEven num (den * Nat.pow 2 exponent.toNat)
      else roundHalfEven (num * Nat.pow 2 (-exponent).toNat) den
    let rounded : Binary64 :=
      if significand == 2 * leastNormal then ⟨negative, leastNormal, exponent + 1⟩
      else ⟨negative, significand, exponent⟩
    if rounded.exponent > greatestExponent then none else some rounded

/-- Numerator and denominator of the absolute value. -/
def magnitude (x : Binary64) : Nat × Nat :=
  if x.exponent ≥ 0 then (x.significand * Nat.pow 2 x.exponent.toNat, 1)
  else (x.significand, Nat.pow 2 (-x.exponent).toNat)

/-- The largest finite number of a sign. -/
def greatest (negative : Bool) : Binary64 := ⟨negative, 2 * leastNormal - 1, greatestExponent⟩

/-- The double nearest to an integer; the largest one past the range, in which all integers of
64 bits lie. -/
def ofInt (value : Int) : Binary64 :=
  (ofRatio? (value < 0) value.natAbs 1).getD (greatest (value < 0))

/-! ## Order -/

/-- The integer whose order among doubles at a common scale is that of `x`. -/
def scaled (x : Binary64) : Int :=
  let size : Int := (x.significand * Nat.pow 2 (x.exponent - leastExponent).toNat : Nat)
  if x.negative then -size else size

/-- Equality of values: both zeros are equal. -/
def sameValue (x y : Binary64) : Bool := x.scaled == y.scaled

/-- Comparison of values; both zeros are one. -/
def lt (x y : Binary64) : Bool := x.scaled < y.scaled

/-- Comparison with an integer, exact on both sides. -/
def compareInt (x : Binary64) (value : Int) : Ordering :=
  compare x.scaled (value * Nat.pow 2 leastExponent.natAbs)

/-! ## Integers among the doubles -/

/-- The integer part, toward zero. -/
def truncate (x : Binary64) : Int :=
  let (num, den) := x.magnitude
  let size : Int := (num / den : Nat)
  if x.negative then -size else size

/-- Whether the number has no fractional part. -/
def isIntegral (x : Binary64) : Bool :=
  let (num, den) := x.magnitude
  num % den == 0

/-! ## Decimal literals -/

/-- The double nearest to `10 ^ exponent`, for exponents up to 308. -/
def powerOfTen (exponent : Nat) : Binary64 :=
  (ofRatio? false (Nat.pow 10 exponent) 1).getD zero

/-- The rounded product, if it is finite. -/
def mul? (x y : Binary64) : Option Binary64 :=
  let (num, den) := x.magnitude
  let (num', den') := y.magnitude
  ofRatio? (x.negative != y.negative) (num * num') (den * den')

/-- Quotient of two doubles, the second not zero. -/
def div? (x y : Binary64) : Option Binary64 :=
  let (num, den) := x.magnitude
  let (num', den') := y.magnitude
  ofRatio? (x.negative != y.negative) (num * den') (den * num')

/-- `x * 10 ^ exponent`.  Scaling down goes in steps of at most `10 ^ 308`, each rounded;
scaling up past `10 ^ 308` leaves the range unless `x` is zero. -/
def scaleByTen? (x : Binary64) (exponent : Int) : Option Binary64 :=
  if x.isZero then some x
  else if exponent > 308 then none
  else if exponent ≥ 0 then x.mul? (powerOfTen exponent.toNat)
  else if exponent ≥ -308 then x.div? (powerOfTen (-exponent).toNat)
  else (x.div? (powerOfTen 308)).bind fun smaller => smaller.scaleByTen? (exponent + 308)
termination_by exponent.natAbs
decreasing_by omega

/-- The double that the literal `± digits * 10 ^ exponent` denotes.  Digits and power of ten
are each rounded before they are combined. -/
def ofDecimal? (negative : Bool) (digits : Nat) (exponent : Int) : Option Binary64 := do
  let rounded ← ofRatio? false digits 1
  let scaled ← rounded.scaleByTen? exponent
  return { scaled with negative }

end Binary64

end SchemaTypes
