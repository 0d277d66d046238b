import Mathlib.Tactic
import SchemaTypes.Code.Basic
import SchemaTypes.Code.StringLiteral

/-!
# Literals spell what they were written for

A string literal is a text with some characters escaped, and an integer literal is a row of digits,
with a minus apart from it and, where its type is not known, with a suffix.  Reading such literals
gives back the text or the integer.

* `Token.stringValue?_string`: the text of a string literal.
* `Token.integerValue?_integer`: an integer without a suffix.
* `Token.typedIntegerValue?_typedInteger`: an integer with the suffix of its type, or the least one
  by its name.
-/

namespace SchemaTypes

namespace Lexer

/-! ## Hexadecimal digits -/

theorem exists_digit_of_mem_toDigits {number : Nat} {c : Char} (hc : c ∈ Nat.toDigits 16 number) :
    ∃ digit < 16, c = Nat.digitChar digit := by
  induction number using Nat.strong_induction_on with
  | _ number ih =>
      rw [Nat.toDigits_eq_if (by decide)] at hc
      by_cases hsmall : number < 16
      · rw [if_pos hsmall, List.mem_singleton] at hc
        exact ⟨number, hsmall, hc⟩
      · rw [if_neg hsmall, List.mem_append, List.mem_singleton] at hc
        rcases hc with hbefore | hlast
        · exact ih (number / 16) (by omega) hbefore
        · exact ⟨number % 16, Nat.mod_lt _ (by decide), hlast⟩

theorem digitValue?_digitChar {digit : Nat} (hdigit : digit < 16) :
    digitValue? (Nat.digitChar digit) = some digit := by
  interval_cases digit <;> rfl

theorem hexValue_append_digit (digits : List Char) {digit : Nat} (hdigit : digit < 16) :
    hexValue (digits ++ [Nat.digitChar digit]) = hexValue digits * 16 + digit := by
  rw [hexValue, List.foldl_append, ← hexValue]
  simp only [List.foldl_cons, List.foldl_nil, digitValue?_digitChar hdigit, Option.getD_some]

theorem hexValue_toDigits (number : Nat) : hexValue (Nat.toDigits 16 number) = number := by
  induction number using Nat.strong_induction_on with
  | _ number ih =>
      rw [Nat.toDigits_eq_if (by decide)]
      by_cases hsmall : number < 16
      · rw [if_pos hsmall]
        exact (hexValue_append_digit [] hsmall).trans (Nat.zero_add number)
      · rw [if_neg hsmall, hexValue_append_digit _ (Nat.mod_lt _ (by decide)),
          ih (number / 16) (by omega)]
        omega

/-! ## Strings -/

theorem unescape_cons_of_ne {c : Char} (hbackslash : c ≠ '\\') (hreturn : c ≠ '\r') (fuel : Nat)
    (rest : List Char) : unescape (fuel + 1) (c :: rest) = c :: unescape fuel rest := by
  rw [unescape]
  all_goals simp_all

/-- A code point in hexadecimal digits. -/
theorem unescape_codePoint (c : Char) (fuel : Nat) (rest : List Char) :
    unescape (fuel + 1)
        ('\\' :: 'u' :: '\x7b' :: Token.hexDigits c.toNat ++ ['\x7d'] ++ rest) =
      c :: unescape fuel rest := by
  have hdigits : ∀ d ∈ Token.hexDigits c.toNat, (d != '\x7d') = true ∧ isHexDigit d = true := by
    intro d hd
    obtain ⟨digit, hdigit, rfl⟩ := exists_digit_of_mem_toDigits hd
    interval_cases digit <;> decide
  have htake : (Token.hexDigits c.toNat ++ '\x7d' :: rest).takeWhile (· != '\x7d') =
      Token.hexDigits c.toNat := by
    rw [List.takeWhile_append_of_pos fun d hd => (hdigits d hd).1]
    exact List.append_nil _
  have hfilter : (Token.hexDigits c.toNat).filter isHexDigit = Token.hexDigits c.toNat :=
    List.filter_eq_self.mpr fun d hd => (hdigits d hd).2
  have hdrop : (Token.hexDigits c.toNat ++ '\x7d' :: rest).drop
      ((Token.hexDigits c.toNat).length + 1) = rest := by
    rw [← List.drop_drop, List.drop_left, List.drop_one, List.tail_cons]
  rw [List.append_assoc, List.cons_append, List.cons_append, List.cons_append,
    List.singleton_append, unescape]
  simp only [htake, hfilter, hdrop]
  rw [Token.hexDigits, hexValue_toDigits, Char.ofNat_toNat]

/-- One character is read from its escaped form, whatever follows. -/
theorem unescape_escapeChar (c : Char) (next : Option Char) (fuel : Nat) (rest : List Char) :
    unescape (fuel + 1) (Token.escapeChar c next ++ rest) = c :: unescape fuel rest := by
  rw [Token.escapeChar.eq_def]
  split
  · -- a null character, as a byte or as an escape of its own
    split
    · split <;> rfl
    · rfl
  · rfl
  · rfl
  · rfl
  · rfl
  · rfl
  · rename_i htab hreturn hline hquote hbackslash
    split
    · exact unescape_cons_of_ne hbackslash hreturn fuel rest
    · exact unescape_codePoint c fuel rest

theorem escapeChar_ne_nil (c : Char) (next : Option Char) : Token.escapeChar c next ≠ [] := by
  intro hnil
  have hread := unescape_escapeChar c next 0 []
  rw [hnil] at hread
  cases hread

theorem unescape_escapeChars {fuel : Nat} {text : List Char} (hfuel : text.length < fuel) :
    unescape fuel (Token.escapeChars text) = text := by
  induction text generalizing fuel with
  | nil =>
      cases fuel with
      | zero => cases hfuel
      | succ fuel => rfl
  | cons c rest ih =>
      cases fuel with
      | zero => cases hfuel
      | succ fuel =>
          rw [Token.escapeChars, unescape_escapeChar, ih (Nat.lt_of_succ_lt_succ hfuel)]

theorem length_le_length_escapeChars (text : List Char) :
    text.length ≤ (Token.escapeChars text).length := by
  induction text with
  | nil => exact Nat.le_refl 0
  | cons c rest ih =>
      have hone := List.length_pos_iff.mpr (escapeChar_ne_nil c rest.head?)
      rw [Token.escapeChars, List.length_append, List.length_cons]
      omega

/-- The last quote of a literal closes it. -/
theorem quotedText_quoted (body : List Char) : quotedText ('"' :: body ++ ['"']) = body := by
  have hopen : ('"' :: body ++ ['"']).drop 1 = body ++ ['"'] := rfl
  have hclose : ('"' :: body.reverse).dropWhile (· != '"') = '"' :: body.reverse := rfl
  rw [quotedText, hopen, List.reverse_append, List.reverse_singleton, List.singleton_append, hclose,
    List.drop_one, List.tail_cons, List.reverse_reverse]

end Lexer

/-- **String literals** spell the text that they were written for. -/
theorem Token.stringValue?_string (text : String) :
    (Token.string text).stringValue? = some text := by
  have hquoted := Lexer.quotedText_quoted (escapeChars text.toList)
  have hfuel : text.toList.length < (escapeChars text.toList).length + 1 :=
    Nat.lt_succ_of_le (Lexer.length_le_length_escapeChars text.toList)
  rw [Token.string, stringValue?, String.toList_ofList, List.cons_append]
  simp only
  rw [← List.cons_append, hquoted, Lexer.unescape_escapeChars hfuel, String.ofList_toList]

namespace Token

/-! ## Integers -/

/-- The number that a row of decimal digits stands for. -/
def decimal? (digits : List Char) : Option Nat :=
  if digits.isEmpty || !digits.all Char.isDigit then none
  else some (Nat.ofDigitChars 10 digits 0)

/-- The integer of a literal without a suffix, with or without a minus. -/
def integerValue? : List Token → Option Int
  | [.literal digits] => (decimal? digits.toList).map Int.ofNat
  | [.punct '-' .alone, .literal digits] =>
    (decimal? digits.toList).map fun magnitude => -(magnitude : Int)
  | _ => none

/-- The number of a literal of type `i64`. -/
def typedDecimal? (spelling : String) : Option Nat :=
  let chars := spelling.toList
  if "i64".toList.isSuffixOf chars then decimal? (chars.take (chars.length - 3)) else none

/-- The integer of an expression of type `i64`: a literal with a suffix, with or without a minus,
or the least one by its name. -/
def typedIntegerValue? : List Token → Option Int
  | [.literal spelling] => (typedDecimal? spelling).map Int.ofNat
  | [.punct '-' .alone, .literal spelling] =>
    (typedDecimal? spelling).map fun magnitude => -(magnitude : Int)
  | [.ident "i64", .punct ':' .joint, .punct ':' .alone, .ident "MIN"] =>
    some (-0x8000000000000000)
  | _ => none

theorem decimal?_toString (number : Nat) : decimal? (toString number).toList = some number := by
  have htext : (toString number).toList = Nat.toDigits 10 number := by
    rw [Nat.toString_eq_repr, Nat.toList_repr]
  have hempty : (Nat.toDigits 10 number).isEmpty = false :=
    List.isEmpty_eq_false_iff.mpr Nat.toDigits_ne_nil
  have hdigits : (Nat.toDigits 10 number).all Char.isDigit = true :=
    List.all_eq_true.mpr fun c hc => Nat.isDigit_of_mem_toDigits (by decide) (by decide) hc
  rw [decimal?, htext, hempty, hdigits, Nat.ofDigitChars_ten_toDigits]
  rfl

theorem typedDecimal?_toString (number : Nat) :
    typedDecimal? (toString number ++ "i64") = some number := by
  have hsuffix : "i64".toList.isSuffixOf (toString number ++ "i64").toList = true := by
    rw [List.isSuffixOf_iff_suffix, String.toList_append]
    exact List.suffix_append _ _
  have htake : (toString number ++ "i64").toList.take
      ((toString number ++ "i64").toList.length - 3) = (toString number).toList := by
    rw [String.toList_append, List.length_append]
    exact List.take_left' (by simp)
  rw [typedDecimal?]
  simp only [hsuffix, if_true, htake, decimal?_toString]

/-- **Integer literals** spell the integer that they were written for. -/
theorem integerValue?_integer (value : Int) :
    integerValue? (Code.integer value).tokens = some value := by
  rw [Code.integer]
  by_cases hnegative : value < 0
  · have htokens : (Code.operator "-" ++ Code.literal (toString value.natAbs)).tokens =
        [.punct '-' .alone, .literal (toString value.natAbs)] := rfl
    rw [if_pos hnegative, htokens, integerValue?, decimal?_toString]
    have hmagnitude : -(value.natAbs : Int) = value := by omega
    exact congrArg some hmagnitude
  · have htokens : (Code.literal (toString value.natAbs)).tokens =
        [.literal (toString value.natAbs)] := rfl
    rw [if_neg hnegative, htokens, integerValue?, decimal?_toString]
    have hmagnitude : (value.natAbs : Int) = value := by omega
    exact congrArg some hmagnitude

/-- **Typed integer literals** spell the integer that they were written for. -/
theorem typedIntegerValue?_typedInteger (value : Int) :
    typedIntegerValue? (Code.typedInteger value).tokens = some value := by
  rw [Code.typedInteger]
  by_cases hleast : value = -0x8000000000000000
  · subst hleast
    rfl
  · rw [if_neg (by simpa using hleast)]
    by_cases hnegative : value < 0
    · have htokens : (Code.operator "-" ++ Code.literal (toString value.natAbs ++ "i64")).tokens =
          [.punct '-' .alone, .literal (toString value.natAbs ++ "i64")] := rfl
      rw [if_pos hnegative, htokens, typedIntegerValue?, typedDecimal?_toString]
      have hmagnitude : -(value.natAbs : Int) = value := by omega
      exact congrArg some hmagnitude
    · have htokens : (Code.literal (toString value.natAbs ++ "i64")).tokens =
          [.literal (toString value.natAbs ++ "i64")] := rfl
      rw [if_neg hnegative, htokens, typedIntegerValue?, typedDecimal?_toString]
      have hmagnitude : (value.natAbs : Int) = value := by omega
      exact congrArg some hmagnitude

end Token

end SchemaTypes
