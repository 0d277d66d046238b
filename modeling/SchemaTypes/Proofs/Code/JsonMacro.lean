import Mathlib.Data.List.TakeWhile
import SchemaTypes.Proofs.Code.Float
import SchemaTypes.Proofs.Code.Path
import SchemaTypes.Proofs.Json.Reading
import SchemaTypes.Property.Default

/-!
# Values that are rebuilt by a macro

A default without a type of its own is written as the argument of a macro that rebuilds it.  The
macro takes brackets and braces apart and turns literals into values.  What a number stands for
there depends on the type of its literal, so that reading takes the meaning of numbers as a
parameter.

* `Token.rebuilt?`: the value that is built from the argument of the macro.
* `Token.rebuilt?_ofJson_iff`: a value is rebuilt exactly if all its numbers are.
-/

namespace SchemaTypes

/-! ## Reading the argument of the macro -/

namespace Token

/-- The label of an entry and the tokens of its value. -/
def splitLabel? : List Token → Option (String × List Token)
  | key :: .punct ':' .alone :: value => key.stringValue?.map (·, value)
  | _ => none

theorem sizeOf_lt_of_splitLabel? {tokens value : List Token} {key : String}
    (hsplit : splitLabel? tokens = some (key, value)) : sizeOf value < sizeOf tokens := by
  unfold splitLabel? at hsplit
  split at hsplit
  · rename_i first value'
    obtain ⟨text, -, hsame⟩ := Option.map_eq_some_iff.mp hsplit
    cases hsame
    simp only [List.cons.sizeOf_spec]
    omega
  · cases hsplit

/-- The value that the macro builds, where `number?` says what numbers stand for. -/
def rebuilt? (number? : List Token → Option JsonNumber) (tokens : List Token) : Option Json :=
  match tokens with
  | [.ident "null"] => some .null
  | [.ident "true"] => some (.bool true)
  | [.ident "false"] => some (.bool false)
  | [.group .bracket body] =>
    ((items body).attach.mapM fun item => rebuilt? number? item.1).map .array
  | [.group .brace body] =>
    ((items body).attach.mapM fun (entry : {piece // piece ∈ items body}) =>
      match hsplit : splitLabel? entry.1 with
      | some (key, value) =>
        have := sizeOf_lt_of_splitLabel? hsplit
        (rebuilt? number? value).map (key, ·)
      | none => none).map fun members => .object (Members.ofList members)
  | [.literal spelling] =>
    match stringValue? (.literal spelling) with
    | some text => some (.string text)
    | none => (number? [.literal spelling]).map .number
  | tokens => (number? tokens).map .number
termination_by sizeOf tokens
decreasing_by
  · have hitem := sizeOf_le_of_mem_items item.2
    simp only [List.cons.sizeOf_spec, group.sizeOf_spec]
    omega
  · have hentry := sizeOf_le_of_mem_items entry.2
    simp only [List.cons.sizeOf_spec, group.sizeOf_spec]
    omega

section

variable {number? : List Token → Option JsonNumber} {body : List Token}

theorem rebuilt?_bracket :
    rebuilt? number? [.group .bracket body] =
      ((items body).mapM (rebuilt? number?)).map .array := by
  rw [rebuilt?, List.mapM_subtype (g := rebuilt? number?) fun _ _ => rfl, List.unattach_attach]

/-- An entry of an object. -/
def rebuiltMember? (number? : List Token → Option JsonNumber) (entry : List Token) :
    Option (String × Json) :=
  (splitLabel? entry).bind fun label => (rebuilt? number? label.2).map (label.1, ·)

theorem rebuilt?_brace :
    rebuilt? number? [.group .brace body] =
      ((items body).mapM (rebuiltMember? number?)).map fun members =>
        .object (Members.ofList members) := by
  rw [rebuilt?, List.mapM_subtype (g := rebuiltMember? number?), List.unattach_attach]
  intro entry _
  unfold rebuiltMember?
  dsimp only
  split
  · rename_i hsplit
    rw [hsplit]
    rfl
  · rename_i hsplit
    rw [hsplit]
    rfl

end

end Token

open Token (Free isComma)

namespace Code

/-! ## Tokens of a value -/

/-- The tokens of a number: a literal that starts with a digit, with or without a minus. -/
theorem exists_tokens_ofJsonNumber (number : JsonNumber) :
    ∃ spelling, (∃ first rest, spelling.toList = first :: rest ∧ first.isDigit = true) ∧
      ((ofJsonNumber number).tokens = [.literal spelling] ∨
        (ofJsonNumber number).tokens = [.punct '-' .alone, .literal spelling]) := by
  -- a minus is a token of its own, and what remains begins with a digit
  cases number with
  | integer value =>
      refine ⟨toString value.natAbs, ?_, ?_⟩
      · rw [Nat.toString_eq_repr, Nat.toList_repr]
        obtain ⟨hne, hdigits⟩ := Decimal.IsRow.toDigits value.natAbs
        obtain ⟨first, rest, hrow⟩ := List.exists_cons_of_ne_nil hne
        exact ⟨first, rest, hrow, hdigits first (hrow ▸ List.mem_cons_self)⟩
      · rw [ofJsonNumber, integer]
        split
        · exact .inr rfl
        · exact .inl rfl
  | float value =>
      refine ⟨value.abs.pointedText, ?_, ?_⟩
      · have hshows : Decimal.Shows value.abs.pointedText _ :=
          Decimal.shows_pointed value.abs.negative_shortest
        obtain ⟨whole, fraction, htext, hwhole, -⟩ := hshows
        obtain ⟨first, rest, rfl⟩ := List.exists_cons_of_ne_nil hwhole.1
        exact ⟨first, rest ++ '.' :: fraction, htext, hwhole.2 first List.mem_cons_self⟩
      · rw [ofJsonNumber, float]
        split
        · exact .inr rfl
        · exact .inl rfl

theorem tokens_labelled (key : String) (value : Code) :
    (labelled (string key) value).tokens =
      Token.string key :: .punct ':' .alone :: value.tokens := rfl

theorem ofJsonItems_eq (items : List Json) : ofJsonItems items = items.map ofJson := by
  induction items with
  | nil => rfl
  | cons item rest ih => rw [ofJsonItems, ih, List.map_cons]

theorem ofJsonMembers_eq (members : Members) :
    ofJsonMembers members =
      members.map fun member => labelled (string member.1) (ofJson member.2) := by
  induction members with
  | nil => rfl
  | cons member rest ih => rw [ofJsonMembers, ih, List.map_cons]

/-- A value is no empty piece of code, and it has no comma outside of brackets. -/
theorem tokens_ofJson (value : Json) :
    Free isComma (ofJson value).tokens ∧ (ofJson value).tokens ≠ [] := by
  have hone : ∀ token : Token, isComma token = false →
      Free isComma [token] ∧ [token] ≠ [] :=
    fun token htoken => ⟨List.forall_mem_singleton.mpr htoken, List.cons_ne_nil _ _⟩
  cases value with
  | number number =>
      obtain ⟨spelling, -, htokens | htokens⟩ := exists_tokens_ofJsonNumber number
      · rw [ofJson, htokens]
        exact hone _ rfl
      · rw [ofJson, htokens]
        exact ⟨by simp [Free, isComma], List.cons_ne_nil _ _⟩
  | null | bool | string | array | object => exact hone _ rfl

end Code

namespace Token

variable {number? : List Token → Option JsonNumber}

theorem rebuilt?_ofJsonNumber (number : JsonNumber) :
    rebuilt? number? (Code.ofJsonNumber number).tokens =
      (number? (Code.ofJsonNumber number).tokens).map .number := by
  obtain ⟨spelling, ⟨first, rest, hspelling, hfirst⟩, htokens⟩ :=
    Code.exists_tokens_ofJsonNumber number
  rcases htokens with htokens | htokens
  · have hvalue : stringValue? (.literal spelling) = none := by
      rw [stringValue?, hspelling]
      split
      · exact absurd ((List.cons.inj ‹_›).1 ▸ hfirst) (by decide)
      · exact absurd ((List.cons.inj ‹_›).1 ▸ hfirst) (by decide)
      · rfl
    rw [htokens, rebuilt?, hvalue]
  · rw [htokens, rebuilt?]
    all_goals simp

theorem rebuiltMember?_labelled (key : String) (value : Json) :
    rebuiltMember? number? (Code.labelled (.string key) (.ofJson value)).tokens =
      (rebuilt? number? (Code.ofJson value).tokens).map (key, ·) := by
  rw [rebuiltMember?, Code.tokens_labelled, splitLabel?, stringValue?_string]
  rfl

theorem rebuiltMember?_labelled_iff (member : String × Json) :
    rebuiltMember? number? (Code.labelled (.string member.1) (.ofJson member.2)).tokens =
      some member ↔ rebuilt? number? (Code.ofJson member.2).tokens = some member.2 := by
  rw [rebuiltMember?_labelled, Option.map_eq_some_iff]
  constructor
  · rintro ⟨value, hvalue, hsame⟩
    rw [hvalue, ← hsame]
  · exact fun hvalue => ⟨member.2, hvalue, rfl⟩

/-- Items are rebuilt if each of them is. -/
theorem rebuilt?_array_iff {values : List Json} :
    rebuilt? number? (Code.ofJson (.array values)).tokens = some (.array values) ↔
      ∀ item ∈ values, rebuilt? number? (Code.ofJson item).tokens = some item := by
  have htokens : (Code.ofJson (.array values)).tokens =
      [.group .bracket (Code.separated (values.map Code.ofJson)).tokens] := by
    rw [Code.ofJson, Code.ofJsonItems_eq]
    rfl
  have hitems : items (Code.separated (values.map Code.ofJson)).tokens =
      values.map fun item => (Code.ofJson item).tokens := by
    rw [Code.items_separated, List.map_map]
    · rfl
    · exact List.forall_mem_map.mpr fun item _ => (Code.tokens_ofJson item).1
    · exact List.forall_mem_map.mpr fun item _ => (Code.tokens_ofJson item).2
  have hread : (values.map fun item => (Code.ofJson item).tokens).mapM (rebuilt? number?) =
      some (values.map id) ↔
        ∀ item ∈ values, rebuilt? number? (Code.ofJson item).tokens = some (id item) :=
    mapM_map_eq_some_iff
  simp only [List.map_id, id] at hread
  rw [htokens, rebuilt?_bracket, hitems, Option.map_eq_some_iff, ← hread]
  simp

/-- Members are rebuilt if each of them is. -/
theorem rebuilt?_object_iff {members : Members} (hdistinct : (Members.keys members).Nodup) :
    rebuilt? number? (Code.ofJson (.object members)).tokens = some (.object members) ↔
      ∀ member ∈ members, rebuilt? number? (Code.ofJson member.2).tokens = some member.2 := by
  let write := fun member : String × Json => Code.labelled (.string member.1) (.ofJson member.2)
  have htokens : (Code.ofJson (.object members)).tokens =
      [.group .brace (Code.separated (members.map write)).tokens] := by
    rw [Code.ofJson, Code.ofJsonMembers_eq]
    rfl
  have hitems : items (Code.separated (members.map write)).tokens =
      members.map fun member => (write member).tokens := by
    rw [Code.items_separated, List.map_map]
    · rfl
    · refine List.forall_mem_map.mpr fun member _ => ?_
      rw [Code.tokens_labelled, Free, List.forall_mem_cons, List.forall_mem_cons]
      exact ⟨rfl, rfl, (Code.tokens_ofJson member.2).1⟩
    · exact List.forall_mem_map.mpr fun member _ => List.cons_ne_nil _ _
  have hread : (members.map fun member => (write member).tokens).mapM (rebuiltMember? number?) =
      some (members.map id) ↔
        ∀ member ∈ members, rebuiltMember? number? (write member).tokens = some (id member) :=
    mapM_map_eq_some_iff
  simp only [List.map_id, id, write, rebuiltMember?_labelled_iff] at hread
  rw [htokens, rebuilt?_brace, hitems, Option.map_eq_some_iff]
  constructor
  · rintro ⟨pairs, hpairs, hsame⟩
    -- the keys are those of the members, so that they are distinct
    have hkeys : Members.keys pairs = Members.keys members := by
      refine map_eq_of_mapM_map hpairs fun member _ pair hpair => ?_
      rw [rebuiltMember?_labelled] at hpair
      obtain ⟨value, -, rfl⟩ := Option.map_eq_some_iff.mp hpair
      rfl
    rw [Members.ofList_eq_self (hkeys ▸ hdistinct)] at hsame
    obtain rfl := Json.object.inj hsame
    exact hread.mp hpairs
  · intro hmembers
    refine ⟨members, hread.mpr hmembers, ?_⟩
    rw [Members.ofList_eq_self hdistinct]

/-- **Rebuilding a value.**  A value is rebuilt exactly if all its numbers are. -/
theorem rebuilt?_ofJson_iff {value : Json} (hdistinct : value.KeysDistinct) :
    rebuilt? number? (Code.ofJson value).tokens = some value ↔
      value.EachNumber fun number => number? (Code.ofJsonNumber number).tokens = some number := by
  induction hsize : sizeOf value using Nat.strong_induction_on generalizing value with
  | _ size ih =>
      subst hsize
      cases value with
      | null => exact iff_of_true (by rw [Code.ofJson, Code.word, rebuilt?]) .null
      | bool flag =>
          refine iff_of_true ?_ (.bool flag)
          cases flag <;> simp [Code.ofJson, Code.word, rebuilt?]
      | string text =>
          refine iff_of_true ?_ (.string text)
          have hvalue : stringValue? (.literal _) = some text := stringValue?_string text
          rw [Code.ofJson, Code.string, Token.string, rebuilt?, hvalue]
      | number own =>
          rw [Code.ofJson, rebuilt?_ofJsonNumber, Option.map_eq_some_iff, Json.EachNumber.number]
          simp
      | array values =>
          rw [rebuilt?_array_iff, Json.EachNumber.array]
          refine forall_congr' fun item => forall_congr' fun hitem => ?_
          refine ih _ ?_ (Json.KeysDistinct.array.mp hdistinct item hitem) rfl
          have hless := List.sizeOf_lt_of_mem hitem
          simp only [Json.array.sizeOf_spec]
          omega
      | object members =>
          obtain ⟨hkeys, hmembers⟩ := Json.KeysDistinct.object.mp hdistinct
          rw [rebuilt?_object_iff hkeys, Json.EachNumber.object]
          refine forall_congr' fun member => forall_congr' fun hmember => ?_
          refine ih _ ?_ (hmembers member hmember) rfl
          have hless := List.sizeOf_lt_of_mem hmember
          have hsize : sizeOf member = 1 + sizeOf member.1 + sizeOf member.2 := rfl
          simp only [Json.object.sizeOf_spec]
          omega

/-- The value of a call of the macro. -/
def jsonMacro? (number? : List Token → Option JsonNumber) (tokens : List Token) : Option Json :=
  match leadingPath tokens with
  | (["", "schema2rs_support", "serde_json", "json"],
      [.punct '!' .alone, .group .parenthesis body]) => rebuilt? number? body
  | _ => none

theorem jsonMacro?_jsonLiteral (value : Json) :
    jsonMacro? number? (Code.jsonLiteral value).tokens =
      rebuilt? number? (Code.ofJson value).tokens := rfl

/-! ## Literals without type inference -/

/-- The least and the greatest value of the types of integer literals, by their suffix.  Where
nothing else tells the type, a literal without a suffix has 32 bits with sign. -/
def integerTypes : List (String × Int × Int) :=
  [("", -0x80000000, 0x7fffffff),
    ("i8", -0x80, 0x7f), ("i16", -0x8000, 0x7fff), ("i32", -0x80000000, 0x7fffffff),
    ("i64", -0x8000000000000000, 0x7fffffffffffffff),
    ("isize", -0x8000000000000000, 0x7fffffffffffffff),
    ("u8", 0, 0xff), ("u16", 0, 0xffff), ("u32", 0, 0xffffffff),
    ("u64", 0, 0xffffffffffffffff), ("usize", 0, 0xffffffffffffffff)]

/-- An integer by its sign and its size. -/
def signedInteger (negative : Bool) (magnitude : Nat) : Int :=
  if negative then -magnitude else magnitude

/-- The value of an integer literal on its own, which has to fit the type of the literal. -/
def typedLiteral? (negative : Bool) (spelling : String) : Option Int :=
  let digits := spelling.toList.takeWhile Char.isDigit
  let suffix := String.ofList (spelling.toList.dropWhile Char.isDigit)
  (integerTypes.lookup suffix).bind fun (least, greatest) =>
    (decimal? digits).bind fun magnitude =>
      let value := signedInteger negative magnitude
      if least ≤ value ∧ value ≤ greatest ∧ (negative → least < 0) then some value else none

/-- The integer of a literal on its own, with or without a minus. -/
def typedInteger? : List Token → Option Int
  | [.literal spelling] => typedLiteral? false spelling
  | [.punct '-' .alone, .literal spelling] => typedLiteral? true spelling
  | _ => none

/-- The number of a literal on its own. -/
def typedNumber? (tokens : List Token) : Option JsonNumber :=
  ((typedInteger? tokens).map .integer).or ((floatValue? tokens).map .float)

end Token

/-- An integer of 32 bits with sign. -/
def IsSmall (value : Int) : Prop := -0x80000000 ≤ value ∧ value ≤ 0x7fffffff

instance (value : Int) : Decidable (IsSmall value) := inferInstanceAs (Decidable (_ ∧ _))

namespace Token

theorem typedLiteral?_toString (negative : Bool) (magnitude : Nat) :
    typedLiteral? negative (toString magnitude) =
      if IsSmall (signedInteger negative magnitude) then some (signedInteger negative magnitude)
      else none := by
  have hdigits : ∀ c ∈ (toString magnitude).toList, c.isDigit = true := by
    rw [Nat.toString_eq_repr, Nat.toList_repr]
    exact (Decimal.IsRow.toDigits magnitude).2
  have htake : (toString magnitude).toList.takeWhile Char.isDigit = (toString magnitude).toList :=
    List.takeWhile_eq_self_iff.mpr hdigits
  have hdrop : (toString magnitude).toList.dropWhile Char.isDigit = [] :=
    List.dropWhile_eq_nil_iff.mpr hdigits
  have htype : integerTypes.lookup (String.ofList []) = some (-0x80000000, 0x7fffffff) := rfl
  simp only [typedLiteral?, htake, hdrop, htype, Option.bind_some, decimal?_toString]
  refine if_congr ?_ rfl rfl
  rw [IsSmall, ← and_assoc, and_iff_left]
  exact fun _ => by decide

theorem typedInteger?_integer (value : Int) :
    typedInteger? (Code.integer value).tokens = if IsSmall value then some value else none := by
  rw [Code.integer]
  by_cases hnegative : value < 0
  · have htokens : (Code.operator "-" ++ Code.literal (toString value.natAbs)).tokens =
        [.punct '-' .alone, .literal (toString value.natAbs)] := rfl
    have hvalue : signedInteger true value.natAbs = value := by
      rw [signedInteger, if_pos rfl]
      omega
    rw [if_pos hnegative, htokens, typedInteger?, typedLiteral?_toString, hvalue]
  · have htokens : (Code.literal (toString value.natAbs)).tokens =
        [.literal (toString value.natAbs)] := rfl
    have hvalue : signedInteger false value.natAbs = value := by
      rw [signedInteger, if_neg Bool.false_ne_true]
      omega
    rw [if_neg hnegative, htokens, typedInteger?, typedLiteral?_toString, hvalue]

/-- Integers are no floating-point literals. -/
theorem floatValue?_integer (value : Int) : floatValue? (Code.integer value).tokens = none := by
  have hliteral : floatLiteral? (toString value.natAbs) = none := by
    have hpoint : ∀ c ∈ (toString value.natAbs).toList, (c != '.') = true := by
      rw [Nat.toString_eq_repr, Nat.toList_repr]
      rintro c hc
      rw [bne_iff_ne]
      rintro rfl
      exact (Decimal.IsRow.toDigits value.natAbs).point_not_mem hc
    have hdrop : (toString value.natAbs).toList.dropWhile (· != '.') = [] :=
      List.dropWhile_eq_nil_iff.mpr hpoint
    simp only [floatLiteral?, hdrop, List.drop_nil, List.isEmpty_nil, Bool.or_true, if_true]
  rw [Code.integer]
  split
  · exact congrArg (Option.map Binary64.neg) hliteral
  · exact hliteral

/-- Floating-point literals have no type of integers. -/
theorem typedInteger?_float (value : Binary64) :
    typedInteger? (Code.float value).tokens = none := by
  have hliteral : ∀ negative, typedLiteral? negative value.abs.pointedText = none := by
    intro negative
    have hshows : Decimal.Shows value.abs.pointedText _ :=
      Decimal.shows_pointed value.abs.negative_shortest
    obtain ⟨whole, fraction, htext, hwhole, -⟩ := hshows
    have hdrop : value.abs.pointedText.toList.dropWhile Char.isDigit = '.' :: fraction := by
      rw [htext, List.dropWhile_append_of_pos hwhole.2]
      rfl
    have htype : integerTypes.lookup (String.ofList ('.' :: fraction)) = none := by
      have hfirst : ∀ type ∈ integerTypes, type.1.toList.head? ≠ some '.' := by decide
      refine List.lookup_eq_none_iff.mpr fun type htype => ?_
      rw [bne_iff_ne]
      intro hsame
      apply hfirst type htype
      rw [← hsame, String.toList_ofList]
      rfl
    simp only [typedLiteral?, hdrop, htype, Option.bind_none]
  rw [Code.float]
  split
  · exact hliteral true
  · exact hliteral false

end Token

namespace JsonNumber

/-- A number that a literal on its own may stand for. -/
def FitsLiteral : JsonNumber → Prop
  | .integer value => IsSmall value
  | .float _ => True

/-- The doubles among the numbers are doubles indeed. -/
def IsExact : JsonNumber → Prop
  | .integer _ => True
  | .float value => value.IsDouble

theorem typedNumber?_ofJsonNumber_iff {number : JsonNumber} (hnumber : number.IsExact) :
    Token.typedNumber? (Code.ofJsonNumber number).tokens = some number ↔ number.FitsLiteral := by
  cases number with
  | integer value =>
      rw [Code.ofJsonNumber, Token.typedNumber?, Token.typedInteger?_integer,
        Token.floatValue?_integer]
      by_cases hsmall : IsSmall value
      · rw [if_pos hsmall]
        exact iff_of_true rfl hsmall
      · rw [if_neg hsmall]
        exact iff_of_false nofun hsmall
  | float value =>
      rw [Code.ofJsonNumber, Token.typedNumber?, Token.typedInteger?_float,
        Token.floatValue?_float hnumber]
      exact iff_of_true rfl trivial

end JsonNumber

/-! ## Defaults that are rebuilt -/

namespace Code

/-- The expression for a value denotes this value, where nothing but a literal itself tells the
type of its number. -/
def Rebuilds (value : Json) : Prop :=
  Token.jsonMacro? Token.typedNumber? (jsonLiteral value).tokens = .some value

/-- **Defaults are rebuilt** exactly if their integers fit into 32 bits with sign. -/
theorem rebuilds_iff {value : Json} (hdistinct : value.KeysDistinct)
    (hexact : value.EachNumber JsonNumber.IsExact) :
    Rebuilds value ↔ value.EachNumber JsonNumber.FitsLiteral := by
  rw [Rebuilds, Token.jsonMacro?_jsonLiteral, Token.rebuilt?_ofJson_iff hdistinct]
  exact Json.EachNumber.congr fun number hnumber =>
    JsonNumber.typedNumber?_ofJsonNumber_iff (hexact number hnumber)

/-- A list and an object around the least and the greatest integer of 32 bits. -/
def nestedDefault : Json := .object [
  ("least", .array [.number (.integer (-0x80000000)), .null, .string "\"\n"]),
  ("greatest", .object [("empty", .object []), ("value", .number (.integer 0x7fffffff))])]

theorem rebuilds_nestedDefault :
    nestedDefault.KeysDistinct ∧ nestedDefault.EachNumber JsonNumber.IsExact ∧
      Rebuilds nestedDefault := by
  have hdistinct : nestedDefault.KeysDistinct := by simp [nestedDefault]
  have hexact : nestedDefault.EachNumber JsonNumber.IsExact := by
    simp [nestedDefault, JsonNumber.IsExact]
  refine ⟨hdistinct, hexact, (rebuilds_iff hdistinct hexact).mpr ?_⟩
  simp [nestedDefault, JsonNumber.FitsLiteral, IsSmall]

theorem not_rebuilds_threeBillion : ¬Rebuilds (.number (.integer 3000000000)) := by
  have hnone : Token.typedNumber? (ofJsonNumber (.integer 3000000000)).tokens = .none := by
    rw [ofJsonNumber, Token.typedNumber?, Token.typedInteger?_integer, Token.floatValue?_integer]
    rfl
  rw [Rebuilds, Token.jsonMacro?_jsonLiteral, ofJson, Token.rebuilt?_ofJsonNumber, hnone]
  exact (Option.some_ne_none _).symm

end Code

end SchemaTypes
