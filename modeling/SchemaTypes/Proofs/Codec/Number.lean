import SchemaTypes.Proofs.Code.Float
import SchemaTypes.Proofs.Number.Integral
import SchemaTypes.Property.Default

/-!
# Every number has one reading

A number is read twice: when code is generated for a default, and when generated code decodes it.
Both readings see an integer exactly in the numbers that are written as an integer of 64 bits with
sign, and the double of the number in all others.

* `JsonNumber.showsFraction_text_iff`: the text of a number tells the doubles from the integers.
* `NumberValue.numberValue?_code`: the constant that a default is written as.
* `JsonNumber.reads_numberValue`: the one reading.
-/

namespace SchemaTypes

namespace JsonNumber

/-- A number as it is held in memory. -/
def IsHeld : JsonNumber → Prop
  | .integer value => leastSigned ≤ value ∧ value ≤ greatestUnsigned
  | .float value => value.IsDouble

/-! ## The text of a number -/

/-- A text with a decimal point or an exponent. -/
def ShowsFraction (text : String) : Prop := ∃ c ∈ text.toList, c ∈ ['.', 'e', 'E']

end JsonNumber

namespace Decimal

theorem showsFraction_pointed (decimal : Decimal) : JsonNumber.ShowsFraction decimal.pointed := by
  refine ⟨'.', ?_, by decide⟩
  unfold pointed
  dsimp only
  split
  · simp_all
  · simp

theorem showsFraction_scientific (decimal : Decimal) :
    JsonNumber.ShowsFraction decimal.scientific := by
  refine ⟨'e', ?_, by decide⟩
  have hmark : 'e' ∈ (if decimal.leadingExponent < 0 then "e-" else "e+").toList := by
    split <;> decide
  unfold scientific
  dsimp only
  split <;> simp only [String.toList_append, List.mem_append, hmark, true_or, or_true]

end Decimal

namespace JsonNumber

theorem not_showsFraction_toString (value : Int) : ¬ShowsFraction (toString value) := by
  have hdigits : ∀ (n : Nat), ∀ c ∈ (toString n).toList, c.isDigit = true := by
    intro n c hc
    rw [Nat.toString_eq_repr, Nat.toList_repr] at hc
    exact Nat.isDigit_of_mem_toDigits (by decide) (by decide) hc
  rintro ⟨c, hc, hfraction⟩
  have hc : c = '-' ∨ c.isDigit = true := by
    cases value with
    | ofNat n => exact .inr (hdigits n c hc)
    | negSucc n =>
        have htext : toString (Int.negSucc n) = "-" ++ toString (n + 1) := rfl
        rw [htext, String.toList_append, List.mem_append] at hc
        exact hc.imp List.mem_singleton.mp (hdigits (n + 1) c)
  fin_cases hfraction <;> exact absurd hc (by decide)

/-- **The text of a number** shows a fraction or an exponent exactly if the number is a double. -/
theorem showsFraction_text_iff {number : JsonNumber} :
    ShowsFraction number.text ↔ ∃ value, number = .float value := by
  cases number with
  | integer value => exact iff_of_false (not_showsFraction_toString value) nofun
  | float value =>
      refine iff_of_true ?_ ⟨value, rfl⟩
      rw [text, Binary64.jsonText]
      split
      · exact value.shortest.showsFraction_pointed
      · exact value.shortest.showsFraction_scientific

end JsonNumber

/-! ## Constants -/

/-- A number in generated code: an integer of 64 bits, or a double. -/
def Token.numberValue? : List Token → Option NumberValue
  | [.punct ':' .joint, .punct ':' .alone, .ident "schema2rs_support",
      .punct ':' .joint, .punct ':' .alone, .ident "Number",
      .punct ':' .joint, .punct ':' .alone, .ident variant, .group .parenthesis argument] =>
    match variant with
    | "Integer" => (integerValue? argument).bind fun value =>
      if JsonNumber.leastSigned ≤ value ∧ value ≤ JsonNumber.greatestSigned then
        some (.integer value)
      else none
    | "Float" => (floatValue? argument).map .float
    | _ => none
  | _ => none

namespace NumberValue

/-- The constant for a number. -/
def constant : NumberValue → DefaultValue
  | .integer value => .integerNumber value
  | .float value => .floatNumber value

/-- A number of generated code as it is held in memory. -/
def IsHeld : NumberValue → Prop
  | .integer value => Decode.IsSigned value
  | .float value => value.IsDouble

/-- **Number constants** spell the number that they were written for. -/
theorem numberValue?_code {value : NumberValue} (hvalue : value.IsHeld) :
    Token.numberValue? value.constant.code.tokens = some value := by
  cases value with
  | integer value =>
      have hread : Token.numberValue? (constant (.integer value)).code.tokens =
          (Token.integerValue? (Code.integer value).tokens).bind fun value =>
            if JsonNumber.leastSigned ≤ value ∧ value ≤ JsonNumber.greatestSigned then
              some (.integer value)
            else none := rfl
      rw [hread, Token.integerValue?_integer, Option.bind_some]
      exact if_pos hvalue
  | float value =>
      have hread : Token.numberValue? (constant (.float value)).code.tokens =
          (Token.floatValue? (Code.float value).tokens).map .float := rfl
      rw [hread, Token.floatValue?_float hvalue, Option.map_some]

end NumberValue

/-! ## The one reading -/

namespace JsonNumber

/-- A number is read as a value, at run time as well as in a default. -/
structure Reads (number : JsonNumber) (value : NumberValue) : Prop where
  decoded : Decode.number (.number number) = .ok value
  integer_iff : ∀ integer, value = .integer integer ↔
    number = .integer integer ∧ Decode.IsSigned integer
  float_iff : ∀ double, value = .float double ↔
    (¬∃ integer, number = .integer integer ∧ Decode.IsSigned integer) ∧
      double = number.toBinary64
  /-- The kind is told by the text, but for integers that have no sign in 64 bits. -/
  kind : value.isInteger = true ↔ ¬ShowsFraction number.text ∧ number.signed?.isSome
  encoded : (∀ integer, number = .integer integer → integer ≤ greatestSigned) →
    value.toJson = .number number
  constant : ∃ constant, (Property.scalar .number).defaultValue? (.number number) = some constant ∧
    Token.numberValue? constant.code.tokens = some value

variable {number : JsonNumber}

theorem signed?_eq_some_iff {value : Int} :
    number.signed? = some value ↔ number = .integer value ∧ Decode.IsSigned value := by
  constructor
  · exact fun hvalue => Decode.signed?_eq_some hvalue
  · rintro ⟨rfl, hvalue⟩
    simp [signed?, hvalue.1, hvalue.2]

/-- The default of a number property is the constant for what is decoded. -/
theorem defaultValue?_eq :
    (Property.scalar .number).defaultValue? (.number number) =
      some (NumberValue.ofJsonNumber number).constant := by
  rw [Property.defaultValue?, ScalarKind.defaultValue?, Json.number?, Option.map_some,
    NumberValue.ofJsonNumber]
  cases number.signed? <;> rfl

/-- What is read from a number that is held in memory is held as well. -/
theorem isHeld_ofJsonNumber (hnumber : number.IsHeld) :
    (NumberValue.ofJsonNumber number).IsHeld := by
  unfold NumberValue.ofJsonNumber
  split
  · rename_i value hvalue
    exact (signed?_eq_some_iff.mp hvalue).2
  · cases number with
    | integer value => exact Binary64.isDouble_ofInt value
    | float value => exact hnumber

/-- The constant of a default is read as the value that is decoded. -/
theorem exists_constant (hnumber : number.IsHeld) :
    ∃ constant, (Property.scalar .number).defaultValue? (.number number) = some constant ∧
      Token.numberValue? constant.code.tokens = some (NumberValue.ofJsonNumber number) :=
  ⟨_, defaultValue?_eq, NumberValue.numberValue?_code (isHeld_ofJsonNumber hnumber)⟩

theorem reads_of_isSigned {integer : Int} (hsigned : Decode.IsSigned integer)
    (hnumber : (JsonNumber.integer integer).IsHeld) :
    (JsonNumber.integer integer).Reads (.integer integer) := by
  have hsome : (JsonNumber.integer integer).signed? = some integer :=
    signed?_eq_some_iff.mpr ⟨rfl, hsigned⟩
  have hvalue : NumberValue.ofJsonNumber (.integer integer) = .integer integer := by
    rw [NumberValue.ofJsonNumber, hsome]
  exact {
    decoded := congrArg Except.ok hvalue
    integer_iff := by
      intro other
      rw [NumberValue.integer.injEq, JsonNumber.integer.injEq]
      exact ⟨fun hsame => ⟨hsame, hsame ▸ hsigned⟩, And.left⟩
    float_iff := fun double => iff_of_false nofun fun hother => hother.1 ⟨integer, rfl, hsigned⟩
    kind := iff_of_true rfl ⟨not_showsFraction_toString integer, hsome ▸ rfl⟩
    encoded := fun _ => rfl
    constant := hvalue ▸ exists_constant hnumber }

theorem reads_of_signed?_eq_none (hnone : number.signed? = none) (hnumber : number.IsHeld) :
    number.Reads (.float number.toBinary64) := by
  have hunsigned : ¬∃ integer, number = .integer integer ∧ Decode.IsSigned integer := by
    rintro ⟨integer, hinteger⟩
    exact absurd (hnone.symm.trans (signed?_eq_some_iff.mpr hinteger)) nofun
  have hvalue : NumberValue.ofJsonNumber number = .float number.toBinary64 := by
    rw [NumberValue.ofJsonNumber, hnone]
  exact {
    decoded := congrArg Except.ok hvalue
    integer_iff := fun integer => iff_of_false nofun fun hother => hunsigned ⟨integer, hother⟩
    float_iff := by
      intro double
      rw [NumberValue.float.injEq]
      exact ⟨fun hsame => ⟨hunsigned, hsame.symm⟩, fun hother => hother.2.symm⟩
    kind := iff_of_false nofun fun hother => absurd (hnone ▸ hother.2) nofun
    encoded := by
      intro hgreatest
      cases number with
      | integer integer =>
          exact absurd ⟨integer, rfl, hnumber.1, hgreatest integer rfl⟩ hunsigned
      | float double => rfl
    constant := hvalue ▸ exists_constant hnumber }

/-- **Every number has one reading.** -/
theorem reads_numberValue (hnumber : number.IsHeld) :
    number.Reads (NumberValue.ofJsonNumber number) := by
  unfold NumberValue.ofJsonNumber
  cases hsigned : number.signed? with
  | some integer =>
      obtain ⟨rfl, hinteger⟩ := signed?_eq_some_iff.mp hsigned
      exact reads_of_isSigned hinteger hnumber
  | none => exact reads_of_signed?_eq_none hsigned hnumber

/-- The least integer that has no sign in 64 bits is read as a double. -/
theorem reads_leastUnsigned :
    IsHeld (.integer 0x8000000000000000) ∧
      Reads (.integer 0x8000000000000000) (.float ⟨false, Binary64.leastNormal, 11⟩) := by
  have hheld : IsHeld (.integer 0x8000000000000000) := ⟨by decide, by decide⟩
  have hvalue : NumberValue.ofJsonNumber (.integer 0x8000000000000000) =
      .float ⟨false, Binary64.leastNormal, 11⟩ := by
    decide +kernel
  exact ⟨hheld, hvalue ▸ reads_numberValue hheld⟩

end JsonNumber

end SchemaTypes
