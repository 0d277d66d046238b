import Mathlib.Data.List.TakeWhile
import Mathlib.Tactic
import SchemaTypes.Codec.Decode
import SchemaTypes.Proofs.Outcome

/-!
# Date-times are read back as they are written

Reading takes the offset away, so what is written afterwards is another text: in universal time,
with a fraction of three, six or nine digits, and with a second `60` for a leap second.  Reading
this text gives the same point in time, as long as its year can be written with four digits.  The
offset may carry a date-time over the first or last day of these years.

## Strategy

Reading works on bytes, at fixed places up to the second.  `digits` are the bytes of a number with
zeros in front, `numberAt_digits` reads them back wherever they stand, and `parse_eq_ok` takes the
steps of reading apart.  What is left is arithmetic: a second of the day is put together again from
hours, minutes and seconds, and a whole offset in minutes leaves the second of the minute alone, so
that a leap second stays one.

* `Instant.IsProper`: the points in time that reading gives.
* `Instant.isProper_of_parse`: the calendar carries over correctly.
* `Instant.parse_text`: what is read from a written point in time.
* `dateTime_encode`: encoded date-times are decoded again.
-/

namespace SchemaTypes

open Outcome

/-! ## Dates -/

namespace CalendarDate

theorem isValid_iff {date : CalendarDate} :
    date.isValid ↔ 1 ≤ date.month ∧ date.month ≤ 12 ∧ 1 ≤ date.day ∧
      date.day ≤ daysInMonth date.year date.month := by
  simp [isValid, and_assoc]

theorem daysInMonth_bounds (year : Int) (month : Nat) :
    1 ≤ daysInMonth year month ∧ daysInMonth year month ≤ 31 := by
  unfold daysInMonth
  split
  · split <;> decide
  all_goals decide

theorem isValid_next {date : CalendarDate} (hdate : date.isValid) : date.next.isValid := by
  obtain ⟨hmonth, hyear, hday, -⟩ := isValid_iff.mp hdate
  unfold next
  split
  · rename_i hlater
    exact isValid_iff.mpr ⟨hmonth, hyear, by simp, hlater⟩
  · split
    · rename_i hwithin
      exact isValid_iff.mpr ⟨by simp, hwithin, le_rfl, (daysInMonth_bounds _ _).1⟩
    · exact isValid_iff.mpr ⟨le_rfl, by simp, le_rfl, (daysInMonth_bounds _ _).1⟩

theorem isValid_previous {date : CalendarDate} (hdate : date.isValid) : date.previous.isValid := by
  obtain ⟨hmonth, hyear, hday, hlast⟩ := isValid_iff.mp hdate
  unfold previous
  split
  · rename_i hearlier
    exact isValid_iff.mpr
      ⟨hmonth, hyear, Nat.le_sub_one_of_lt hearlier, (Nat.sub_le _ _).trans hlast⟩
  · split
    · rename_i hwithin
      exact isValid_iff.mpr ⟨Nat.le_sub_one_of_lt hwithin, (Nat.sub_le _ _).trans hyear,
        (daysInMonth_bounds _ _).1, le_rfl⟩
    · exact isValid_iff.mpr ⟨by simp, le_rfl, by simp, le_rfl⟩

end CalendarDate

namespace Instant

/-! ## Bytes of a text -/

/-- The bytes that reading starts from. -/
def bytes (text : String) : List UInt8 := text.toUTF8.toList

theorem toList_loop (array : ByteArray) (start : Nat) (done : List UInt8) :
    ByteArray.toList.loop array start done = done.reverse ++ array.data.toList.drop start := by
  induction start, done using ByteArray.toList.loop.induct array with
  | case1 start done hstart ih =>
      have hlength : start < array.data.toList.length := hstart
      have hget : array.get! start = array.data.toList[start] :=
        (getElem!_pos array.data start hstart).trans (Array.getElem_toList hstart).symm
      rw [ByteArray.toList.loop.eq_1, if_pos hstart, ih, List.reverse_cons, List.append_assoc,
        List.singleton_append, hget, ← List.drop_eq_getElem_cons hlength]
  | case2 start done hend =>
      have hnone : array.data.toList.drop start = [] :=
        List.drop_eq_nil_of_le (Nat.not_lt.mp hend)
      rw [ByteArray.toList.loop.eq_1, if_neg hend, hnone, List.append_nil]

theorem bytes_eq (text : String) : bytes text = text.toList.flatMap String.utf8EncodeChar := by
  rw [bytes, String.toUTF8_eq_toByteArray, ← String.utf8Encode_toList, List.utf8Encode,
    ByteArray.toList, toList_loop, List.toList_data_toByteArray]
  rfl

@[simp]
theorem bytes_append (text other : String) : bytes (text ++ other) = bytes text ++ bytes other := by
  simp only [bytes_eq, String.toList_append, List.flatMap_append]

/-- The characters around the numbers. -/
theorem bytes_marks : bytes "-" = [45] ∧ bytes "+" = [43] ∧ bytes "T" = [84] ∧ bytes ":" = [58] ∧
    bytes "." = [46] ∧ bytes "Z" = [90] := by
  simp only [bytes_eq]
  exact ⟨rfl, rfl, rfl, rfl, rfl, rfl⟩

theorem length_toList_le_length_bytes (text : String) :
    text.toList.length ≤ (bytes text).length := by
  rw [bytes_eq]
  induction text.toList with
  | nil => rfl
  | cons char chars ih =>
      have hchar : 1 ≤ (String.utf8EncodeChar char).length := by
        rw [String.length_utf8EncodeChar]
        exact Char.utf8Size_pos char
      rw [List.flatMap_cons, List.length_append, List.length_cons]
      omega

/-! ## Digits -/

/-- A decimal digit. -/
def digit (value : Nat) : UInt8 := UInt8.ofNat (48 + value)

/-- The last `count` decimal digits of a number. -/
def digits : (count value : Nat) → List UInt8
  | 0, _ => []
  | count + 1, value => digits count (value / 10) ++ [digit (value % 10)]

@[simp]
theorem length_digits (count value : Nat) : (digits count value).length = count := by
  induction count generalizing value with
  | zero => rfl
  | succ count ih => rw [digits, List.length_append, ih, List.length_singleton]

theorem isDigit_digit {value : Nat} (hvalue : value < 10) : isDigit (digit value) := by
  interval_cases value <;> decide

theorem toNat_digit {value : Nat} (hvalue : value < 10) : (digit value).toNat - 48 = value := by
  interval_cases value <;> rfl

theorem isDigit_of_mem_digits {count value : Nat} {byte : UInt8}
    (hbyte : byte ∈ digits count value) : isDigit byte := by
  induction count generalizing value with
  | zero => cases hbyte
  | succ count ih =>
      rcases List.mem_append.mp hbyte with hearlier | hlast
      · exact ih hearlier
      · rw [List.mem_singleton.mp hlast]
        exact isDigit_digit (Nat.mod_lt _ (by decide))

theorem digitsValue_digits {count value : Nat} (hvalue : value < 10 ^ count) :
    digitsValue (digits count value) = value := by
  induction count generalizing value with
  | zero => exact (Nat.lt_one_iff.mp hvalue).symm
  | succ count ih =>
      have hearlier : value / 10 < 10 ^ count := by
        rw [Nat.div_lt_iff_lt_mul (by decide), ← Nat.pow_succ]
        exact hvalue
      have hstep : digitsValue (digits (count + 1) value) =
          digitsValue (digits count (value / 10)) * 10 + ((digit (value % 10)).toNat - 48) := by
        rw [digits, digitsValue, List.foldl_append]
        rfl
      rw [hstep, ih hearlier, toNat_digit (Nat.mod_lt _ (by decide))]
      omega

theorem toList_pushn (c : Char) (count : Nat) :
    ("".pushn c count).toList = List.replicate count c := by
  rw [String.pushn_eq_repeat_push]
  induction count with
  | zero => rfl
  | succ count ih => rw [Nat.repeat, String.toList_push, ih, ← List.replicate_succ']

/-- Zeros in front of a number. -/
theorem toList_padded (count value : Nat) :
    (padded count value).toList =
      List.replicate (count - (Nat.toDigits 10 value).length) '0' ++ Nat.toDigits 10 value := by
  rw [padded, String.toList_append, toList_pushn, Nat.toString_eq_ofList_toDigits,
    String.length_ofList, String.toList_ofList]

theorem utf8EncodeChar_digitChar {value : Nat} (hvalue : value < 10) :
    String.utf8EncodeChar value.digitChar = [digit value] := by
  interval_cases value <;> rfl

theorem digits_zero (count : Nat) : digits count 0 = List.replicate count (digit 0) := by
  induction count with
  | zero => rfl
  | succ count ih => rw [digits, Nat.zero_div, ih, Nat.zero_mod, ← List.replicate_succ']

theorem bytes_padded {count value : Nat} (hcount : 0 < count) (hvalue : value < 10 ^ count) :
    bytes (padded count value) = digits count value := by
  rw [bytes_eq, toList_padded, List.flatMap_append]
  induction count generalizing value with
  | zero => cases hcount
  | succ count ih =>
      have hzeros (zeros : Nat) : (List.replicate zeros '0').flatMap String.utf8EncodeChar =
          List.replicate zeros (digit 0) := by
        have hzero : String.utf8EncodeChar '0' = [digit 0] := rfl
        rw [List.flatMap_replicate, hzero, List.flatten_replicate_singleton]
      by_cases hsmall : value < 10
      · rw [Nat.toDigits_of_lt_base hsmall, List.length_singleton, Nat.add_sub_cancel, hzeros,
          List.flatMap_singleton, utf8EncodeChar_digitChar hsmall, digits,
          Nat.div_eq_of_lt hsmall, digits_zero, Nat.mod_eq_of_lt hsmall]
      · have hcount : 0 < count := by
          rcases Nat.eq_zero_or_pos count with rfl | hpos
          · exact absurd hvalue (by simpa using hsmall)
          · exact hpos
        have hearlier : value / 10 < 10 ^ count := by
          rw [Nat.div_lt_iff_lt_mul (by decide), ← Nat.pow_succ]
          exact hvalue
        rw [Nat.toDigits_of_base_le (by decide) (Nat.not_lt.mp hsmall), List.length_append,
          List.length_singleton, Nat.add_sub_add_right, List.flatMap_append, List.flatMap_singleton,
          utf8EncodeChar_digitChar (Nat.mod_lt _ (by decide)), ← List.append_assoc,
          ih hcount hearlier, digits]

/-! ## Reading at fixed places -/

section

variable {input : List UInt8} {start : Nat} (before after : List UInt8)

theorem numberAt_digits {count value : Nat}
    (hinput : input = before ++ (digits count value ++ after)) (hstart : before.length = start)
    (hvalue : value < 10 ^ count) :
    numberAt input start count = .ok value := by
  have hdigits : (input.drop start).take count = digits count value := by
    rw [hinput, ← hstart, List.drop_left, List.take_left' (length_digits count value)]
  have hall : (digits count value).all isDigit = true :=
    List.all_eq_true.mpr fun byte hbyte => isDigit_of_mem_digits hbyte
  simp only [numberAt, hdigits, length_digits, hall, digitsValue_digits hvalue, beq_self_eq_true,
    Bool.and_self, if_true]

theorem separatorAt_append (byte : UInt8) {separators : List UInt8}
    (hinput : input = before ++ byte :: after) (hstart : before.length = start)
    (hbyte : separators.contains byte = true) : separatorAt input start separators = .ok () := by
  have hget : input[start]? = some byte := by
    rw [hinput, ← hstart, List.getElem?_append_right le_rfl, Nat.sub_self]
    rfl
  simp only [separatorAt, hget, hbyte, if_true]

end

/-! ## Steps of reading -/

theorem isValid_of_readDate {input : List UInt8} {date : CalendarDate}
    (hdate : readDate input = .ok date) : date.isValid := by
  unfold readDate at hdate
  obtain ⟨year, -, hdate⟩ := bind_eq_ok.mp hdate
  obtain ⟨-, -, hdate⟩ := bind_eq_ok.mp hdate
  obtain ⟨month, -, hdate⟩ := bind_eq_ok.mp hdate
  obtain ⟨-, -, hdate⟩ := bind_eq_ok.mp hdate
  obtain ⟨day, -, hdate⟩ := bind_eq_ok.mp hdate
  dsimp only at hdate
  split at hdate
  · rename_i hvalid
    exact Except.ok.inj hdate ▸ hvalid
  · cases hdate

theorem digitsValue_lt (input : List UInt8) (hinput : ∀ byte ∈ input, isDigit byte) :
    digitsValue input < 10 ^ input.length := by
  induction input using List.reverseRecOn with
  | nil => exact Nat.one_pos
  | append_singleton earlier byte ih =>
      have hstep : digitsValue (earlier ++ [byte]) =
          digitsValue earlier * 10 + (byte.toNat - 48) := by
        rw [digitsValue, List.foldl_append]
        rfl
      have hbyte : byte.toNat ≤ 57 := by
        have hdigit := hinput byte (by simp)
        simp only [isDigit, Bool.and_eq_true, decide_eq_true_eq] at hdigit
        exact hdigit.2
      have hearlier := ih fun other hother => hinput other (List.mem_append_left _ hother)
      rw [hstep, List.length_append, List.length_singleton, Nat.pow_succ]
      omega

theorem lt_of_readFraction {input rest : List UInt8} {fraction : Nat}
    (hfraction : readFraction input = .ok (fraction, rest)) : fraction < nanosecondsPerSecond := by
  unfold readFraction at hfraction
  split at hfraction
  · rename_i _ later
    dsimp only at hfraction
    split at hfraction
    · cases hfraction
    · split at hfraction
      · cases hfraction
      · obtain ⟨rfl, -⟩ := Prod.mk.inj (Except.ok.inj hfraction)
        -- digits after the ninth are dropped
        set counted := (later.takeWhile isDigit).take 9 with hcounted
        have hlength : counted.length ≤ 9 := List.length_take_le _ _
        have hvalue : digitsValue counted < 10 ^ counted.length := by
          refine digitsValue_lt counted fun byte hbyte => ?_
          exact List.mem_takeWhile_imp (List.mem_of_mem_take hbyte)
        calc digitsValue counted * Nat.pow 10 (9 - counted.length)
            < 10 ^ counted.length * 10 ^ (9 - counted.length) :=
              Nat.mul_lt_mul_of_pos_right hvalue (Nat.pow_pos (by decide))
          _ = nanosecondsPerSecond := by
              rw [← Nat.pow_add, Nat.add_sub_cancel' hlength]
              rfl
  · obtain ⟨rfl, -⟩ := Prod.mk.inj (Except.ok.inj hfraction)
    decide

/-- Offsets are whole minutes. -/
theorem exists_minutes_of_readOffset {input rest : List UInt8} {offset : Int}
    (hoffset : readOffset input = .ok (offset, rest)) : ∃ minutes : Int, offset = 60 * minutes := by
  unfold readOffset at hoffset
  split at hoffset
  · obtain ⟨rfl, -⟩ := Prod.mk.inj (Except.ok.inj hoffset)
    exact ⟨0, rfl⟩
  · obtain ⟨rfl, -⟩ := Prod.mk.inj (Except.ok.inj hoffset)
    exact ⟨0, rfl⟩
  · simp only [bind_eq_ok, throw_if_eq_ok, Prod.exists] at hoffset
    obtain ⟨negative, _, -, h, h', afterHour, -, -, hoffset⟩ := hoffset
    have hsigned : ∀ m m' : UInt8, ∃ minutes : Int,
        (if negative = true then
            -((digitsValue [h, h'] : Int) * 3600 + (digitsValue [m, m'] : Int) * 60)
          else (digitsValue [h, h'] : Int) * 3600 + (digitsValue [m, m'] : Int) * 60) =
          60 * minutes := by
      intro m m'
      cases negative with
      | true => exact ⟨-(digitsValue [h, h'] * 60 + digitsValue [m, m']), by simp; ring⟩
      | false => exact ⟨digitsValue [h, h'] * 60 + digitsValue [m, m'], by simp; ring⟩
    split at hoffset
    · simp only [bind_eq_ok, throw_if_eq_ok, pure_eq_ok, Prod.exists, Prod.mk.injEq] at hoffset
      obtain ⟨_, -, m, m', _, -, -, -, rfl, -⟩ := hoffset
      exact hsigned m m'
    · cases hoffset
    · cases hoffset

/-- **Reading, step by step.**  Date, time of day, fraction and offset follow each other and leave
nothing over. -/
theorem parse_eq_ok {text : String} {instant : Instant} :
    parse text = .ok instant ↔ fixedLength ≤ (bytes text).length ∧
      ∃ date, readDate (bytes text) = .ok date ∧
      ∃ hour minute second, readClock (bytes text) = .ok (hour, minute, second) ∧
      ∃ fraction rest, readFraction ((bytes text).drop fixedLength) = .ok (fraction, rest) ∧
        (hour < 24 ∧ minute < 60 ∧ second ≤ 60) ∧
      ∃ offset, readOffset rest = .ok (offset, []) ∧ offset.natAbs < secondsPerDay ∧
        ofLocal date (hour * 3600 + minute * 60 + if second = 60 then 59 else second)
          (fraction + if second = 60 then nanosecondsPerSecond else 0) offset = instant := by
  -- the tests of the reader as propositions; the rest is the order of its steps
  have hnothing : ∀ rest : List UInt8, ¬(!rest.isEmpty) = true ↔ rest = [] := by simp
  have hclock : ∀ hour minute second : Nat,
      ¬(decide (24 ≤ hour) || decide (60 ≤ minute) || decide (60 < second)) = true ↔
        hour < 24 ∧ minute < 60 ∧ second ≤ 60 := by
    intro hour minute second
    simp [and_assoc]
  unfold parse
  rw [← bytes]
  simp only [bind_eq_ok, throw_if_eq_ok, pure_eq_ok, Prod.exists, hnothing, hclock, Nat.not_lt,
    Nat.not_le, Nat.cast_le, beq_iff_eq]
  constructor
  · rintro ⟨hlength, date, hdate, hour, minute, second, hread, fraction, rest, hfraction, hrange,
      offset, -, hoffset, rfl, hlimit, hinstant⟩
    exact ⟨hlength, date, hdate, hour, minute, second, hread, fraction, rest, hfraction, hrange,
      offset, hoffset, hlimit, hinstant⟩
  · rintro ⟨hlength, date, hdate, hour, minute, second, hread, fraction, rest, hfraction, hrange,
      offset, hoffset, hlimit, hinstant⟩
    exact ⟨hlength, date, hdate, hour, minute, second, hread, fraction, rest, hfraction, hrange,
      offset, [], hoffset, rfl, hlimit, hinstant⟩

/-! ## Proper points in time -/

/-- A point in time on a day of the calendar.  Only the last second of a minute may be followed by a
leap second. -/
structure IsProper (instant : Instant) : Prop where
  date : instant.date.isValid
  second : instant.second < secondsPerDay
  nanosecond : instant.nanosecond < nanosecondsPerSecond ∨
    instant.second % 60 = 59 ∧ instant.nanosecond < 2 * nanosecondsPerSecond

/-- Taking a whole number of minutes away leaves the second of the minute alone. -/
theorem exists_ofLocal_eq {date : CalendarDate} (hdate : date.isValid) {second : Nat}
    (hsecond : second < secondsPerDay) {minutes : Int}
    (hminutes : (60 * minutes).natAbs < secondsPerDay) (nanosecond : Nat) :
    ∃ day own, ofLocal date second nanosecond (60 * minutes) = ⟨day, own, nanosecond⟩ ∧
      day.isValid ∧ own < secondsPerDay ∧ own % 60 = second % 60 := by
  have hday : secondsPerDay = 86400 := rfl
  unfold ofLocal
  dsimp only
  by_cases hbefore : (second : Int) - 60 * minutes < 0
  · rw [if_pos hbefore]
    exact ⟨_, _, rfl, CalendarDate.isValid_previous hdate, by omega, by omega⟩
  · rw [if_neg hbefore]
    by_cases hwithin : (second : Int) - 60 * minutes < secondsPerDay
    · rw [if_pos hwithin]
      exact ⟨_, _, rfl, hdate, by omega, by omega⟩
    · rw [if_neg hwithin]
      exact ⟨_, _, rfl, CalendarDate.isValid_next hdate, by omega, by omega⟩

theorem isProper_of_parse {text : String} {instant : Instant}
    (hinstant : parse text = .ok instant) :
    instant.IsProper := by
  obtain ⟨-, date, hdate, hour, minute, second, -, fraction, rest, hfraction,
    ⟨hhour, hminute, hsecond⟩, offset, hoffset, hlimit, rfl⟩ := parse_eq_ok.mp hinstant
  obtain ⟨minutes, rfl⟩ := exists_minutes_of_readOffset hoffset
  have hbound := lt_of_readFraction hfraction
  have hday : (hour * 3600 + minute * 60 + if second = 60 then 59 else second) < secondsPerDay := by
    rw [secondsPerDay]
    split <;> omega
  obtain ⟨day, own, hlocal, hvalid, hwithin, hsame⟩ :=
    exists_ofLocal_eq (isValid_of_readDate hdate) hday hlimit
      (fraction + if second = 60 then nanosecondsPerSecond else 0)
  rw [hlocal]
  refine ⟨hvalid, hwithin, ?_⟩
  dsimp only
  rw [hsame]
  by_cases hleap : second = 60
  · rw [if_pos hleap, if_pos hleap]
    exact .inr ⟨by omega, by omega⟩
  · rw [if_neg hleap]
    exact .inl hbound

/-! ## Reading what has been written -/

theorem readDate_digits {date : CalendarDate} (hdate : date.isValid)
    (hyear : 0 ≤ date.year ∧ date.year ≤ 9999) {input after : List UInt8}
    (hinput : input = digits 4 date.year.toNat ++ 45 :: (digits 2 date.month ++
      45 :: (digits 2 date.day ++ after))) : readDate input = .ok date := by
  obtain ⟨-, hmonth, -, hday⟩ := CalendarDate.isValid_iff.mp hdate
  have hlast := (CalendarDate.daysInMonth_bounds date.year date.month).2
  set year := digits 4 date.year.toNat
  set afterMonth := 45 :: (digits 2 date.day ++ after) with hafterMonth
  have hreadYear : numberAt input 0 4 = .ok date.year.toNat :=
    numberAt_digits [] _ hinput rfl (by omega)
  have hfirst : separatorAt input 4 [45] = .ok () :=
    separatorAt_append year _ 45 hinput (length_digits _ _) rfl
  have hreadMonth : numberAt input 5 2 = .ok date.month :=
    numberAt_digits (year ++ [45]) afterMonth (by simp [hinput]) (by simp [year]) (by omega)
  have hsecond : separatorAt input 7 [45] = .ok () :=
    separatorAt_append (year ++ 45 :: digits 2 date.month) (digits 2 date.day ++ after) 45
      (by simp [hinput, hafterMonth]) (by simp [year]) rfl
  have hreadDay : numberAt input 8 2 = .ok date.day :=
    numberAt_digits (year ++ 45 :: (digits 2 date.month ++ [45])) after
      (by simp [hinput, hafterMonth]) (by simp [year]) (by omega)
  have hsame : (⟨(date.year.toNat : Int), date.month, date.day⟩ : CalendarDate) = date := by
    rw [Int.toNat_of_nonneg hyear.1]
  simp only [readDate, hreadYear, hfirst, hreadMonth, hsecond, hreadDay, bind, Except.bind, hsame,
    hdate, if_true]

theorem readClock_digits {hour minute second : Nat} (hhour : hour < 100) (hminute : minute < 100)
    (hsecond : second < 100) {input before after : List UInt8} (hbefore : before.length = 10)
    (hinput : input = before ++ 84 :: (digits 2 hour ++ 58 :: (digits 2 minute ++
      58 :: (digits 2 second ++ after)))) : readClock input = .ok (hour, minute, second) := by
  set afterMinute := 58 :: (digits 2 second ++ after) with hafterMinute
  set afterHour := 58 :: (digits 2 minute ++ afterMinute) with hafterHour
  have hmark : separatorAt input 10 [84, 116, 32] = .ok () :=
    separatorAt_append before _ 84 hinput hbefore rfl
  have hreadHour : numberAt input 11 2 = .ok hour :=
    numberAt_digits (before ++ [84]) afterHour (by simp [hinput]) (by simp [hbefore]) hhour
  have hfirst : separatorAt input 13 [58] = .ok () :=
    separatorAt_append (before ++ 84 :: digits 2 hour) (digits 2 minute ++ afterMinute) 58
      (by simp [hinput, hafterHour]) (by simp [hbefore]) rfl
  have hreadMinute : numberAt input 14 2 = .ok minute :=
    numberAt_digits (before ++ 84 :: (digits 2 hour ++ [58])) afterMinute
      (by simp [hinput, hafterHour]) (by simp [hbefore]) hminute
  have hlast : separatorAt input 16 [58] = .ok () :=
    separatorAt_append (before ++ 84 :: (digits 2 hour ++ 58 :: digits 2 minute))
      (digits 2 second ++ after) 58 (by simp [hinput, hafterHour, hafterMinute])
      (by simp [hbefore]) rfl
  have hreadSecond : numberAt input 17 2 = .ok second :=
    numberAt_digits (before ++ 84 :: (digits 2 hour ++ 58 :: (digits 2 minute ++ [58]))) after
      (by simp [hinput, hafterHour, hafterMinute]) (by simp [hbefore]) hsecond
  simp only [readClock, hmark, hreadHour, hfirst, hreadMinute, hlast, hreadSecond, bind,
    Except.bind,
    pure, Except.pure]

/-- Up to nine digits after a point are read as billionths. -/
theorem readFraction_digits {count value : Nat} (hcount : 0 < count) (hnine : count ≤ 9)
    (hvalue : value < 10 ^ count) :
    readFraction (46 :: (digits count value ++ [90])) = .ok (value * 10 ^ (9 - count), [90]) := by
  have htake : (digits count value ++ [90]).takeWhile isDigit = digits count value := by
    rw [List.takeWhile_append_of_pos fun byte hbyte => isDigit_of_mem_digits hbyte]
    exact List.append_nil _
  have hsome : (digits count value).isEmpty = false := by
    rw [List.isEmpty_eq_false_iff, ← List.length_pos_iff, length_digits]
    exact hcount
  have hcounted : (digits count value).take 9 = digits count value :=
    List.take_of_length_le (by simpa using hnine)
  have hrest : (digits count value ++ [90]).drop count = [90] :=
    List.drop_left' (length_digits count value)
  have hopen : (digits count value ++ [(90 : UInt8)]).isEmpty = false := by simp
  simp only [readFraction, htake, hsome, hcounted, hopen, length_digits, hrest,
    digitsValue_digits hvalue, Bool.false_eq_true, if_false, Nat.pow_eq]

theorem bytes_fraction {count value : Nat} (hcount : 0 < count) (hvalue : value < 10 ^ count) :
    bytes ("." ++ padded count value) = 46 :: digits count value := by
  obtain ⟨-, -, -, -, hpoint, -⟩ := bytes_marks
  rw [bytes_append, hpoint, bytes_padded hcount hvalue, List.singleton_append]

theorem readFraction_fractionText {nanosecond : Nat}
    (hnanosecond : nanosecond < nanosecondsPerSecond) :
    readFraction (bytes (fractionText nanosecond) ++ [90]) = .ok (nanosecond, [90]) := by
  rw [nanosecondsPerSecond] at hnanosecond
  unfold fractionText
  split
  · rename_i hzero
    rw [eq_of_beq hzero, bytes_eq]
    rfl
  · split
    · rename_i hthree
      have hgroup := eq_of_beq hthree
      rw [bytes_fraction (by decide) (by omega), List.cons_append,
        readFraction_digits (by decide) (by decide) (by omega)]
      congr 2
      omega
    · split
      · rename_i hsix
        have hgroup := eq_of_beq hsix
        rw [bytes_fraction (by decide) (by omega), List.cons_append,
          readFraction_digits (by decide) (by decide) (by omega)]
        congr 2
        omega
      · rw [bytes_fraction (by decide) (by omega), List.cons_append,
          readFraction_digits (by decide) le_rfl (by omega), Nat.sub_self, Nat.pow_zero,
          Nat.mul_one]

/-- The bytes of a text with the mark of universal time, apart from those of the year. -/
theorem bytes_text (instant : Instant) (hproper : instant.IsProper) :
    bytes instant.text = bytes (yearText instant.date.year) ++ 45 :: (digits 2 instant.date.month ++
      45 :: (digits 2 instant.date.day ++ 84 :: (digits 2 (instant.second / 3600) ++
        58 :: (digits 2 (instant.second / 60 % 60) ++
          58 :: (digits 2 (instant.second % 60 + instant.nanosecond / nanosecondsPerSecond) ++
            (bytes (fractionText (instant.nanosecond % nanosecondsPerSecond)) ++ [90])))))) := by
  obtain ⟨-, hmonth, -, hday⟩ := CalendarDate.isValid_iff.mp hproper.date
  have hlast := (CalendarDate.daysInMonth_bounds instant.date.year instant.date.month).2
  have hsecond := hproper.second
  have hleap : instant.nanosecond / nanosecondsPerSecond ≤ 1 := by
    have hnanosecond := hproper.nanosecond
    rw [nanosecondsPerSecond] at *
    omega
  obtain ⟨hhyphen, -, hmark, hcolon, -, hzone⟩ := bytes_marks
  rw [secondsPerDay] at hsecond
  simp only [text, textWith, bytes_append, hhyphen, hmark, hcolon, hzone, List.append_assoc,
    List.cons_append, List.nil_append]
  rw [bytes_padded (by decide) (show instant.date.month < 10 ^ 2 by omega),
    bytes_padded (by decide) (show instant.date.day < 10 ^ 2 by omega),
    bytes_padded (by decide) (show instant.second / 3600 < 10 ^ 2 by omega),
    bytes_padded (by decide) (show instant.second / 60 % 60 < 10 ^ 2 by omega),
    bytes_padded (by decide) (show _ < 10 ^ 2 by omega)]

theorem bytes_yearText {year : Int} (hyear : 0 ≤ year ∧ year ≤ 9999) :
    bytes (yearText year) = digits 4 year.toNat := by
  have hplain : (decide (0 ≤ year) && decide (year ≤ 9999)) = true := by simpa using hyear
  rw [yearText, if_pos hplain, bytes_padded (by decide) (by omega)]

/-- Any other year starts with a sign, which is no digit. -/
theorem exists_sign_bytes_yearText {year : Int} (hyear : ¬(0 ≤ year ∧ year ≤ 9999)) :
    ∃ sign rest, bytes (yearText year) = sign :: rest ∧ isDigit sign = false ∧ 4 ≤ rest.length := by
  have hsigned : ¬(decide (0 ≤ year) && decide (year ≤ 9999)) = true := by simpa using hyear
  have hlength : 4 ≤ (bytes (padded 4 year.natAbs)).length := by
    refine le_trans ?_ (length_toList_le_length_bytes _)
    rw [toList_padded, List.length_append, List.length_replicate]
    omega
  obtain ⟨hminus, hplus, -⟩ := bytes_marks
  rw [yearText, if_neg hsigned, bytes_append]
  split
  · exact ⟨45, _, by rw [hminus, List.singleton_append], rfl, hlength⟩
  · exact ⟨43, _, by rw [hplus, List.singleton_append], rfl, hlength⟩

/-- The seconds that are shown go back into the second of the day and a leap second. -/
theorem ofLocal_shown {instant : Instant} (hproper : instant.IsProper) {shown : Nat}
    (hshown : shown = instant.second % 60 + instant.nanosecond / nanosecondsPerSecond) :
    ofLocal instant.date
      (instant.second / 3600 * 3600 + instant.second / 60 % 60 * 60 +
        if shown = 60 then 59 else shown)
      (instant.nanosecond % nanosecondsPerSecond +
        if shown = 60 then nanosecondsPerSecond else 0) 0 = instant := by
  have hday := hproper.second
  have hwithin := hproper.nanosecond
  have hsecond : (instant.second / 3600 * 3600 + instant.second / 60 % 60 * 60 +
      if shown = 60 then 59 else shown) = instant.second := by
    rw [nanosecondsPerSecond] at *
    rcases hwithin with hplain | ⟨hlast, hleap⟩ <;> split <;> omega
  have hnanosecond : (instant.nanosecond % nanosecondsPerSecond +
      if shown = 60 then nanosecondsPerSecond else 0) = instant.nanosecond := by
    rw [nanosecondsPerSecond] at *
    rcases hwithin with hplain | ⟨hlast, hleap⟩ <;> split <;> omega
  rw [hsecond, hnanosecond, ofLocal, Int.sub_zero]
  simp only [show ¬(instant.second : Int) < 0 by omega, if_false, Int.ofNat_lt.mpr hday, if_true,
    Int.toNat_natCast]

theorem parse_text_of_year {instant : Instant} (hproper : instant.IsProper)
    (hyear : 0 ≤ instant.date.year ∧ instant.date.year ≤ 9999) :
    parse instant.text = .ok instant := by
  have hbytes := bytes_text instant hproper
  rw [bytes_yearText hyear] at hbytes
  set shown := instant.second % 60 + instant.nanosecond / nanosecondsPerSecond with hshown
  set fraction := bytes (fractionText (instant.nanosecond % nanosecondsPerSecond)) with hfraction
  set clock := 84 :: (digits 2 (instant.second / 3600) ++
    58 :: (digits 2 (instant.second / 60 % 60) ++
      58 :: (digits 2 shown ++ (fraction ++ [90])))) with hclock
  set front := digits 4 instant.date.year.toNat ++ 45 :: (digits 2 instant.date.month ++
    45 :: digits 2 instant.date.day) with hfront
  have hsplit : bytes instant.text = front ++ clock := by simp [hbytes, hfront]
  have hshownLe : shown ≤ 60 := by
    have hnanosecond := hproper.nanosecond
    rw [nanosecondsPerSecond] at *
    omega
  have hday := hproper.second
  rw [secondsPerDay] at hday
  have hdrop : (bytes instant.text).drop fixedLength = fraction ++ [90] := by
    have hlength : (front ++ 84 :: (digits 2 (instant.second / 3600) ++
        58 :: (digits 2 (instant.second / 60 % 60) ++ 58 :: digits 2 shown))).length = 19 := by
      simp [hfront]
    rw [fixedLength, ← hlength]
    exact (congrArg _ (by simp [hsplit, hclock])).trans List.drop_left
  refine parse_eq_ok.mpr ⟨?_, instant.date, readDate_digits hproper.date hyear hbytes, _, _, shown,
    readClock_digits (by omega) (by omega) (by omega) (by simp [hfront]) hsplit, _, [90], ?_,
    ⟨by omega, by omega, hshownLe⟩, 0, rfl, by decide, ofLocal_shown hproper hshown⟩
  · simp [hsplit, hfront, hclock, fixedLength]
    omega
  · rw [hdrop, hfraction]
    exact readFraction_fractionText (Nat.mod_lt _ (by decide))

theorem parse_text_of_not_year {instant : Instant} (hproper : instant.IsProper)
    (hyear : ¬(0 ≤ instant.date.year ∧ instant.date.year ≤ 9999)) :
    parse instant.text = .error .invalid := by
  obtain ⟨sign, rest, hsigned, hsign, hlength⟩ := exists_sign_bytes_yearText hyear
  have hbytes := bytes_text instant hproper
  rw [hsigned, List.cons_append] at hbytes
  have hlong : ¬(bytes instant.text).length < fixedLength := by
    rw [hbytes, fixedLength]
    simp
    omega
  have hread : readDate (bytes instant.text) = .error .invalid := by
    have hnumber : numberAt (bytes instant.text) 0 4 = .error .invalid := by
      rw [hbytes, numberAt, List.drop_zero, List.take_succ_cons, List.all_cons, hsign,
        Bool.false_and, Bool.and_false]
      rfl
    rw [readDate, hnumber]
    rfl
  rw [parse, ← bytes, if_neg hlong, hread]
  rfl

/-- **What has been written is read back**, unless its year needs a sign. -/
theorem parse_text {instant : Instant} (hproper : instant.IsProper) :
    parse instant.text =
      if 0 ≤ instant.date.year ∧ instant.date.year ≤ 9999 then .ok instant
      else .error .invalid := by
  split
  · exact parse_text_of_year hproper ‹_›
  · exact parse_text_of_not_year hproper ‹_›

end Instant

/-! ## Encoded date-times -/

theorem exists_parse_of_dateTime {value : Json} {instant : Instant}
    (hvalue : Decode.dateTime value = .ok instant) :
    ∃ text, value = .string text ∧ Instant.parse text = .ok instant := by
  unfold Decode.dateTime at hvalue
  split at hvalue
  · rename_i text
    split at hvalue
    · rename_i hparse
      exact ⟨text, rfl, Except.ok.inj hvalue ▸ hparse⟩
    · cases hvalue
  · cases hvalue

/-- **Encoded date-times are decoded again.**  A date-time that has been decoded from any value is
decoded from its own encoding as long as its year in universal time has four digits.  Otherwise the
encoding is refused. -/
theorem dateTime_encode {value : Json} {instant : Instant}
    (hvalue : Decode.dateTime value = .ok instant) :
    Decode.dateTime (Encode.dateTime instant) =
      if 0 ≤ instant.date.year ∧ instant.date.year ≤ 9999 then .ok instant
      else .error (.ofMessage
        s!"'{instant.text}' is not a valid date-time: {InstantFault.invalid.message}") := by
  obtain ⟨text, -, hparse⟩ := exists_parse_of_dateTime hvalue
  have hread := Instant.parse_text (Instant.isProper_of_parse hparse)
  by_cases hyear : 0 ≤ instant.date.year ∧ instant.date.year ≤ 9999
  · rw [if_pos hyear] at hread ⊢
    simp only [Decode.dateTime, Encode.dateTime, hread]
  · rw [if_neg hyear] at hread ⊢
    simp only [Decode.dateTime, Encode.dateTime, hread]

/-- A leap second before a new year in another zone. -/
theorem dateTime_encode_leapSecond :
    Decode.dateTime (.string "2017-01-01T05:29:60.5+05:30") =
        .ok ⟨⟨2016, 12, 31⟩, 86399, 1500000000⟩ ∧
      Decode.dateTime (Encode.dateTime ⟨⟨2016, 12, 31⟩, 86399, 1500000000⟩) =
        .ok ⟨⟨2016, 12, 31⟩, 86399, 1500000000⟩ := by
  have hvalue : Decode.dateTime (.string "2017-01-01T05:29:60.5+05:30") =
      .ok ⟨⟨2016, 12, 31⟩, 86399, 1500000000⟩ := by
    decide +kernel
  exact ⟨hvalue, (dateTime_encode hvalue).trans (if_pos (by decide))⟩

/-- The last second of the last year, behind universal time. -/
theorem not_dateTime_encode_lastSecond :
    ¬∀ (text : String) (instant : Instant), Decode.dateTime (.string text) = .ok instant →
      Decode.dateTime (Encode.dateTime instant) = .ok instant := by
  intro hencode
  have hvalue : Decode.dateTime (.string "9999-12-31T23:59:59-01:00") =
      .ok ⟨⟨10000, 1, 1⟩, 3599, 0⟩ := by
    decide +kernel
  have hrefused : (Decode.dateTime (Encode.dateTime ⟨⟨10000, 1, 1⟩, 3599, 0⟩)).toBool = false := by
    decide +kernel
  rw [hencode _ _ hvalue] at hrefused
  cases hrefused

end SchemaTypes
