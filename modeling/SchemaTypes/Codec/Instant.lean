/-!
# Points in time

A point in time is a calendar date and a time of day in universal time.  It is written as
`2024-03-01T08:00:00.5+02:00`: date and time of day at some offset from universal time.

## Main definitions

* `CalendarDate` and `Instant`.
* `Instant.parse`: reads a date and time with its offset, which is taken away.
* `Instant.textWith`: writes it; fractions have three, six or nine digits, and none when they are
  zero.

A second `60` is a leap second.  It is held as the second before it and a fraction of at least one
second, so that it can follow any minute.
-/

namespace SchemaTypes

/-! ## Dates -/

/-- A day of the Gregorian calendar, continued backward. -/
structure CalendarDate where
  year : Int
  month : Nat
  day : Nat
deriving DecidableEq, Repr, Inhabited

namespace CalendarDate

/-- Leap years of the Gregorian calendar, which counts back before its introduction and has a year
0. -/
def isLeapYear (year : Int) : Bool := year % 4 == 0 && (year % 100 != 0 || year % 400 == 0)

/-- Number of days of a month, which is counted from 1. -/
def daysInMonth (year : Int) (month : Nat) : Nat :=
  match month with
  | 2 => if isLeapYear year then 29 else 28
  | 4 => 30
  | 6 => 30
  | 9 => 30
  | 11 => 30
  | _ => 31

/-- Whether the calendar has the date. -/
def isValid (date : CalendarDate) : Bool :=
  1 ≤ date.month && date.month ≤ 12 && 1 ≤ date.day &&
    date.day ≤ daysInMonth date.year date.month

/-- The day after. -/
def next (date : CalendarDate) : CalendarDate :=
  if date.day < daysInMonth date.year date.month then { date with day := date.day + 1 }
  else if date.month < 12 then { date with month := date.month + 1, day := 1 }
  else ⟨date.year + 1, 1, 1⟩

/-- The day before. -/
def previous (date : CalendarDate) : CalendarDate :=
  if 1 < date.day then { date with day := date.day - 1 }
  else if 1 < date.month then
    { date with month := date.month - 1, day := daysInMonth date.year (date.month - 1) }
  else ⟨date.year - 1, 12, 31⟩

end CalendarDate

/-! ## Points in time -/

/-- A point in time, in universal time. -/
structure Instant where
  date : CalendarDate
  /-- Seconds since midnight. -/
  second : Nat
  /-- Billionths of a second; those of a leap second are counted from the second before it. -/
  nanosecond : Nat
deriving DecidableEq, Repr, Inhabited

namespace Instant

/-- Seconds of a day without leap seconds. -/
def secondsPerDay : Nat := 86400

/-- Nanoseconds of a second. -/
def nanosecondsPerSecond : Nat := 1000000000

/-- The point in time at which clocks that are ahead by `offset` seconds, less than a day, show
some date and time. -/
def ofLocal (date : CalendarDate) (second nanosecond : Nat) (offset : Int) : Instant :=
  let shifted := (second : Int) - offset
  if shifted < 0 then ⟨date.previous, (shifted + secondsPerDay).toNat, nanosecond⟩
  else if shifted < secondsPerDay then ⟨date, shifted.toNat, nanosecond⟩
  else ⟨date.next, (shifted - secondsPerDay).toNat, nanosecond⟩

/-! ## Writing -/

/-- A number with at least `width` digits. -/
def padded (width value : Nat) : String :=
  let digits := toString value
  "".pushn '0' (width - digits.length) ++ digits

/-- Years of four digits stand as they are, others have a sign. -/
def yearText (year : Int) : String :=
  if 0 ≤ year && year ≤ 9999 then padded 4 year.toNat
  else (if year < 0 then "-" else "+") ++ padded 4 year.natAbs

/-- The fraction of a second with as many groups of three digits as it needs. -/
def fractionText (nanosecond : Nat) : String :=
  if nanosecond == 0 then ""
  else if nanosecond % 1000000 == 0 then "." ++ padded 3 (nanosecond / 1000000)
  else if nanosecond % 1000 == 0 then "." ++ padded 6 (nanosecond / 1000)
  else "." ++ padded 9 nanosecond

/-- Date and time in universal time, followed by the mark of its offset. -/
def textWith (offset : String) (instant : Instant) : String :=
  let date := instant.date
  let leap := instant.nanosecond / nanosecondsPerSecond
  yearText date.year ++ "-" ++ padded 2 date.month ++ "-" ++ padded 2 date.day ++ "T" ++
    padded 2 (instant.second / 3600) ++ ":" ++ padded 2 (instant.second / 60 % 60) ++ ":" ++
    padded 2 (instant.second % 60 + leap) ++
    fractionText (instant.nanosecond % nanosecondsPerSecond) ++ offset

/-- The text that ends in `Z`. -/
def text (instant : Instant) : String := instant.textWith "Z"

/-- The text that ends in a numeric offset. -/
def offsetText (instant : Instant) : String := instant.textWith "+00:00"

end Instant

/-! ## Reading -/

/-- Why a text is no date and time. -/
inductive InstantFault
  | tooShort
  | invalid
  | outOfRange
  | tooLong
deriving DecidableEq, Repr, Inhabited

/-- The fault as the calendar library words it. -/
def InstantFault.message : InstantFault → String
  | .tooShort => "premature end of input"
  | .invalid => "input contains invalid characters"
  | .outOfRange => "input is out of range"
  | .tooLong => "trailing input"

namespace Instant

/-- A step of reading: what it gives, and what is left of the bytes. -/
abbrev Step (α : Type) := List UInt8 → Except InstantFault (α × List UInt8)

/-- A decimal digit in ASCII. -/
def isDigit (byte : UInt8) : Bool := 48 ≤ byte && byte ≤ 57

/-- The number that digits stand for. -/
def digitsValue (digits : List UInt8) : Nat :=
  digits.foldl (fun value digit => value * 10 + (digit.toNat - 48)) 0

/-- The number that exactly `count` digits at a place give. -/
def numberAt (bytes : List UInt8) (start count : Nat) : Except InstantFault Nat :=
  let digits := (bytes.drop start).take count
  if digits.length == count && digits.all isDigit then .ok (digitsValue digits)
  else .error .invalid

/-- One of some separators at a place. -/
def separatorAt (bytes : List UInt8) (place : Nat) (separators : List UInt8) :
    Except InstantFault Unit :=
  match bytes[place]? with
  | some byte => if separators.contains byte then .ok () else .error .invalid
  | none => .error .invalid

/-- Bytes of date and time of day without a fraction. -/
def fixedLength : Nat := 19

/-- The date in the first ten bytes. -/
def readDate (bytes : List UInt8) : Except InstantFault CalendarDate := do
  let year ← numberAt bytes 0 4
  separatorAt bytes 4 [45]
  let month ← numberAt bytes 5 2
  separatorAt bytes 7 [45]
  let day ← numberAt bytes 8 2
  let date : CalendarDate := ⟨year, month, day⟩
  if date.isValid then .ok date else .error .outOfRange

/-- Hour, minute and second. -/
def readClock (bytes : List UInt8) : Except InstantFault (Nat × Nat × Nat) := do
  separatorAt bytes 10 [84, 116, 32]
  let hour ← numberAt bytes 11 2
  separatorAt bytes 13 [58]
  let minute ← numberAt bytes 14 2
  separatorAt bytes 16 [58]
  let second ← numberAt bytes 17 2
  return (hour, minute, second)

/-- The fraction of a second in billionths, of which further digits are dropped. -/
def readFraction : Step Nat := fun bytes =>
  match bytes with
  | 46 :: rest =>
    let digits := rest.takeWhile isDigit
    if rest.isEmpty then .error .tooShort
    else if digits.isEmpty then .error .invalid
    else
      let counted := digits.take 9
      .ok (digitsValue counted * Nat.pow 10 (9 - counted.length), rest.drop digits.length)
  | _ => .ok (0, bytes)

/-- The sign of an offset: a plus, a hyphen or a minus sign. -/
def readSign : Step Bool := fun bytes =>
  match bytes with
  | 43 :: rest => .ok (false, rest)
  | 45 :: rest => .ok (true, rest)
  | 0xE2 :: 0x88 :: 0x92 :: rest => .ok (true, rest)
  | _ :: _ => .error .invalid
  | [] => .error .tooShort

/-- Two digits. -/
def readPair : Step (UInt8 × UInt8) := fun bytes =>
  match bytes with
  | a :: b :: rest => .ok ((a, b), rest)
  | _ => .error .tooShort

/-- The offset from universal time in seconds. -/
def readOffset : Step Int := fun bytes =>
  match bytes with
  | 90 :: rest => .ok (0, rest)
  | 122 :: rest => .ok (0, rest)
  | _ => do
    let (negative, bytes) ← readSign bytes
    let ((h, h'), bytes) ← readPair bytes
    if !(isDigit h && isDigit h') then throw .invalid
    let bytes ←
      match bytes with
      | 58 :: rest => pure rest
      | _ :: _ => throw .invalid
      | [] => throw .tooShort
    let ((m, m'), bytes) ← readPair bytes
    if !(isDigit m && isDigit m') then throw .invalid
    if 54 ≤ m then throw .outOfRange
    let seconds : Int := digitsValue [h, h'] * 3600 + digitsValue [m, m'] * 60
    return (if negative then -seconds else seconds, bytes)

/-- Reads a date and time with its offset. -/
def parse (text : String) : Except InstantFault Instant := do
  let bytes := text.toUTF8.toList
  if bytes.length < fixedLength then throw .tooShort
  let date ← readDate bytes
  let (hour, minute, second) ← readClock bytes
  let (fraction, rest) ← readFraction (bytes.drop fixedLength)
  if 24 ≤ hour || 60 ≤ minute || 60 < second then throw .outOfRange
  let leap := if second == 60 then nanosecondsPerSecond else 0
  let shown := if second == 60 then 59 else second
  let (offset, rest) ← readOffset rest
  if !rest.isEmpty then throw .tooLong
  if (secondsPerDay : Int) ≤ offset.natAbs then throw .outOfRange
  return ofLocal date (hour * 3600 + minute * 60 + shown) (fraction + leap) offset

end Instant

end SchemaTypes
