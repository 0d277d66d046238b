import SchemaTypes.Json.Value
import SchemaTypes.Text.Split

/-!
# Values of scalars

A plain scalar without a tag stands for null, a truth value or a number when it is written like
one, and else for its text.  Tags of the core types ask for one type, and other scalars are text.

Integers are written in base 10, or after `0x`, `0o` and `0b` in base 16, 8 and 2.  Leading zeros
make a text of a number.  An integer that does not fit 64 bits but 128 is refused.  There is no
infinity and no indefinite number among the values; they become null.
-/

namespace SchemaTypes.Yaml.Scalar

/-- The null value in one of its notations. -/
def null? (text : String) : Option Unit :=
  if ["null", "Null", "NULL", "~"].contains text then some () else none

/-- A truth value in one of its notations. -/
def bool? (text : String) : Option Bool :=
  if ["true", "True", "TRUE"].contains text then some true
  else if ["false", "False", "FALSE"].contains text then some false
  else none

/-! ## Integers -/

/-- The number that a digit in a base stands for. -/
def digitValue? (base : Nat) (c : Char) : Option Nat :=
  let value? :=
    if c.isDigit then some (c.toNat - 48)
    else if 'a' ≤ c && c ≤ 'f' then some (c.toNat - 87)
    else if 'A' ≤ c && c ≤ 'F' then some (c.toNat - 55)
    else none
  value?.filter (· < base)

/-- The number that digits of a base give; there is at least one. -/
def natural? (base : Nat) (digits : List Char) : Option Nat :=
  if digits.isEmpty then none
  else do
    let values ← digits.mapM (digitValue? base)
    return values.foldl (fun value digit => value * base + digit) 0

/-- Whether a text without its sign is a number with a leading zero. -/
def hasLeadingZero (text : List Char) : Bool :=
  let digits := if text.head?.any fun c => c == '-' || c == '+' then text.tail else text
  1 < digits.length && digits.head? == some '0' && digits.all Char.isDigit

/-- A number without its sign. -/
def unsigned? (text : List Char) : Option Nat :=
  match text with
  | '0' :: 'x' :: digits => natural? 16 digits
  | '0' :: 'o' :: digits => natural? 8 digits
  | '0' :: 'b' :: digits => natural? 2 digits
  | digits => if hasLeadingZero digits then none else natural? 10 digits

/-- An integer with or without a sign. -/
def integer? (text : List Char) : Option Int :=
  match text with
  | '-' :: rest => (unsigned? rest).map fun value => -(value : Int)
  | '+' :: rest => (unsigned? rest).map Int.ofNat
  | rest => (unsigned? rest).map Int.ofNat

/-! ## Floating-point numbers -/

/-- Digits before and after the point and the exponent of a decimal.  There is a digit before or
after the point. -/
def decimal? (text : List Char) : Option (List Char × List Char × Int) := do
  let whole := text.takeWhile Char.isDigit
  let rest := text.drop whole.length
  let (part, rest) :=
    match rest with
    | '.' :: rest => (rest.takeWhile Char.isDigit, rest.dropWhile Char.isDigit)
    | rest => ([], rest)
  if whole.isEmpty && part.isEmpty then none
  match rest with
  | [] => return (whole, part, 0)
  | c :: rest =>
    if c != 'e' && c != 'E' then none
    let (negative, digits) :=
      match rest with
      | '-' :: digits => (true, digits)
      | '+' :: digits => (false, digits)
      | digits => (false, digits)
    let exponent ← natural? 10 digits
    return (whole, part, if negative then -(exponent : Int) else exponent)

/-- The double nearest to `± digits * 10 ^ exponent`; none beyond the largest one. -/
def nearest? (negative : Bool) (digits : Nat) (exponent : Int) : Option Binary64 :=
  let size : Int := (Nat.toDigits 10 digits).length
  if digits == 0 || size + exponent < -400 then Binary64.ofRatio? negative 0 1
  else if 400 < size + exponent then none
  else if 0 ≤ exponent then Binary64.ofRatio? negative (digits * Nat.pow 10 exponent.toNat) 1
  else Binary64.ofRatio? negative digits (Nat.pow 10 (-exponent).toNat)

/-- A finite number in decimal notation. -/
def finite? (text : List Char) : Option Binary64 := do
  let (negative, rest) :=
    match text with
    | '-' :: rest => (true, rest)
    | '+' :: rest => (false, rest)
    | rest => (false, rest)
  let (whole, part, exponent) ← decimal? rest
  let digits ← natural? 10 (whole ++ part)
  nearest? negative digits (exponent - part.length)

/-- The notations of infinity. -/
def infinities : List String := [".inf", ".Inf", ".INF"]

/-- What stands for no finite number. -/
def isUnbounded (text : String) : Bool :=
  infinities.contains text || infinities.any (text == "+" ++ ·) ||
    infinities.any (text == "-" ++ ·) || [".nan", ".NaN", ".NAN"].contains text

/-- A floating-point number.  JSON has none that is not finite, so these become `null`. -/
def float? (text : String) : Option Json :=
  if isUnbounded text then some .null
  else (finite? text.toList).map fun value => .number (.float value)

/-! ## Values -/

/-- The value of an integer: refused when it fits 128 bits but not 64. -/
def ofInteger (value : Int) : Option Json :=
  if JsonNumber.leastSigned ≤ value && value ≤ JsonNumber.greatestUnsigned then
    some (.number (.integer value))
  else none

/-- Whether an integer has at most 128 bits. -/
def isWithinWide (value : Int) : Bool :=
  -(Nat.pow 2 127 : Int) ≤ value && value < Nat.pow 2 128

/-- The value of a plain scalar without a tag. -/
def ofPlain (text : String) : Option Json :=
  if text.isEmpty || (null? text).isSome then some .null
  else
    match bool? text with
    | some value => some (.bool value)
    | none =>
      match (integer? text.toList).filter isWithinWide with
      | some value => ofInteger value
      | none =>
        if hasLeadingZero text.toList then some (.string text)
        else (float? text).or (some (.string text))

/-- What tags of the core types start with. -/
def coreTag (name : String) : String := "tag:yaml.org,2002:" ++ name

/-- Tags that start with an exclamation mark are not known. -/
def isCustomTag (tag : Option String) : Bool := tag.any fun tag => tag.toList.head? == some '!'

/-- The value of a scalar; none when it is not what its tag asks for. -/
def value? (tag : Option String) (plain : Bool) (text : String) : Option Json :=
  match tag with
  | none => if plain then ofPlain text else some (.string text)
  | some name =>
    if isCustomTag tag then none
    else if name == coreTag "bool" then (bool? text).map .bool
    else if name == coreTag "int" then
      ((integer? text.toList).filter isWithinWide).bind ofInteger
    else if name == coreTag "float" then float? text
    else if name == coreTag "null" then (null? text).map fun _ => .null
    else some (.string text)

end SchemaTypes.Yaml.Scalar
