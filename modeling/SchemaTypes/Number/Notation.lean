import SchemaTypes.Number.Shortest

/-!
# Written numbers

How a decimal is spelled: in positional notation, or with one digit before the point and a power
of ten.  JSON text writes magnitudes from `1e-5` up to but not including `1e16` positionally and
always shows that a number is not an integer; source text for floating-point literals is
positional throughout.
-/

namespace SchemaTypes

namespace Decimal

/-- Exponent of the leading digit. -/
def leadingExponent (d : Decimal) : Int := d.exponent + (digitCount d.digits : Int) - 1

/-- A minus, if there is one. -/
def sign (d : Decimal) : String := if d.negative then "-" else ""

/-- Positional notation without an exponent.  Integral numbers have no point. -/
def positional (d : Decimal) : String :=
  let digits := Nat.toDigits 10 d.digits
  let text :=
    if d.exponent ≥ 0 then
      if d.digits == 0 then ['0'] else digits ++ List.replicate d.exponent.toNat '0'
    else
      let places := (-d.exponent).toNat
      let padded := List.replicate (places + 1 - digits.length) '0' ++ digits
      padded.take (padded.length - places) ++ '.' :: padded.drop (padded.length - places)
  d.sign ++ String.ofList text

/-- Positional notation that always shows a point. -/
def pointed (d : Decimal) : String :=
  let text := d.positional
  if text.toList.contains '.' then text else text ++ ".0"

/-- One digit before the point and an exponent with its sign. -/
def scientific (d : Decimal) : String :=
  let exponent := d.leadingExponent
  let power := (if exponent < 0 then "e-" else "e+") ++ toString exponent.natAbs
  match Nat.toDigits 10 d.digits with
  | [] => d.sign ++ "0" ++ power
  | [leading] => d.sign ++ String.ofList [leading] ++ power
  | leading :: rest => d.sign ++ String.ofList (leading :: '.' :: rest) ++ power

end Decimal

namespace Binary64

/-- JSON text of a double: positional between `1e-5` and `1e16`, scientific elsewhere. -/
def jsonText (x : Binary64) : String :=
  let d := x.shortest
  if x.isZero || (-5 ≤ d.leadingExponent && d.leadingExponent < 16) then d.pointed
  else d.scientific

/-- Positional text, without a point for integral values. -/
def positionalText (x : Binary64) : String := x.shortest.positional

/-- Positional text that always shows a point. -/
def pointedText (x : Binary64) : String := x.shortest.pointed

end Binary64

end SchemaTypes
