import SchemaTypes.Number.Binary64

/-!
# The shortest decimal of a double

`Binary64.shortest` gives the decimal with the fewest digits that reads back as a given double,
and of those the nearest to it.  The numbers that read back as `x` form an interval around `x`
that reaches half way to both neighbours, ends included exactly when the significand is even.
If the grid of `n` significant digits meets the interval, then one of the two grid points around
`x` lies in it, so only those two are tested for each `n`.
-/

namespace SchemaTypes

/-- The number `± digits * 10 ^ exponent`. -/
structure Decimal where
  negative : Bool
  digits : Nat
  exponent : Int
deriving DecidableEq, Repr, Inhabited

namespace Decimal

/-- Number of decimal digits of a natural number. -/
def digitCount (n : Nat) : Nat := (Nat.toDigits 10 n).length

/-- Moves factors of ten from the digits into the exponent. -/
def dropZeros (fuel digits : Nat) (exponent : Int) : Nat × Int :=
  match fuel with
  | 0 => (digits, exponent)
  | fuel + 1 =>
    if digits != 0 && digits % 10 == 0 then dropZeros fuel (digits / 10) (exponent + 1)
    else (digits, exponent)

end Decimal

namespace Binary64

/-- The interval of reals that round to a positive double, in quarters of its last place:
lower end, the double itself, upper end. -/
def roundingInterval (x : Binary64) : Nat × Nat × Nat :=
  let centre := 4 * x.significand
  let below := if x.significand == leastNormal && x.exponent > leastExponent then 1 else 2
  (centre - below, centre, centre + 2)

/-- `⌊log₁₀ (num / den)⌋` for positive arguments. -/
def floorLog10 (num den : Nat) : Int :=
  let guess : Int := (Decimal.digitCount num : Int) - (Decimal.digitCount den : Int)
  let reached :=
    if guess ≥ 0 then num ≥ den * Nat.pow 10 guess.toNat
    else num * Nat.pow 10 (-guess).toNat ≥ den
  if reached then guess else guess - 1

/-- The grid point of `count` significant digits that reads back as the double, if any: of the
two points around the double the nearer one, and the even one when both are equally near.  The
interval is given in units of `num / den`. -/
def gridPoint? (interval : Nat × Nat × Nat) (closed : Bool) (num den : Nat) (leading : Int)
    (count : Nat) : Option (Nat × Int) :=
  let (low, centre, high) := interval
  let exponent := leading - (count : Int) + 1
  -- everything below is measured in units of `10 ^ exponent / scale`
  let (scale, unit) :=
    if exponent ≥ 0 then (den * Nat.pow 10 exponent.toNat, num)
    else (den, num * Nat.pow 10 (-exponent).toNat)
  let value := centre * unit
  let inside := fun point =>
    if closed then low * unit ≤ point * scale && point * scale ≤ high * unit
    else low * unit < point * scale && point * scale < high * unit
  let lower := value / scale
  let upper := lower + 1
  let toLower := value - lower * scale
  let toUpper := upper * scale - value
  match inside lower, inside upper with
  | true, true =>
    if toLower < toUpper || (toLower == toUpper && lower % 2 == 0) then some (lower, exponent)
    else some (upper, exponent)
  | true, false => some (lower, exponent)
  | false, true => some (upper, exponent)
  | false, false => none

/-- Tries `count`, `count + 1`, … significant digits. -/
def shortestFrom (interval : Nat × Nat × Nat) (closed : Bool) (num den : Nat) (leading : Int) :
    (attempts count : Nat) → Option (Nat × Int)
  | 0, _ => none
  | attempts + 1, count =>
    (gridPoint? interval closed num den leading count).or
      (shortestFrom interval closed num den leading attempts (count + 1))

/-- The decimal with the fewest digits that reads back as the double.  Seventeen digits always
suffice. -/
def shortest (x : Binary64) : Decimal :=
  if x.isZero then
    ⟨x.negative, 0, 0⟩
  else
    let (num, den) :=
      if x.exponent ≥ 2 then (Nat.pow 2 (x.exponent - 2).toNat, 1)
      else (1, Nat.pow 2 (2 - x.exponent).toNat)
    let interval := x.roundingInterval
    let leading := floorLog10 (interval.2.1 * num) den
    match shortestFrom interval (x.significand % 2 == 0) num den leading 17 1 with
    | some (digits, exponent) =>
      let (digits, exponent) := Decimal.dropZeros 20 digits exponent
      ⟨x.negative, digits, exponent⟩
    | none => ⟨x.negative, 0, 0⟩

end Binary64

end SchemaTypes
