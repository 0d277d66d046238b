import SchemaTypes.Proofs.Codec.Number
import SchemaTypes.Proofs.Json.Distinct
import SchemaTypes.Proofs.Outcome
import SchemaTypes.Schema.Document

/-!
# Values as they are read

A document is read from JSON or from YAML.  Either way, its numbers are held in memory, as integers
of 64 bits or as doubles, and of repeated keys, one is kept.  Both readers are followed once; what
holds of all values that are read is then shown by induction on `Json.Arises`.

* `Json.EachNumber`: what holds of all numbers inside a value.
* `Json.Arises`: the values that readers build.
* `arises_of_readDocument`: every document that is read is one of them.
* `keysDistinct_of_readDocument`, `eachNumber_of_readDocument`: its keys and its numbers.
-/

namespace SchemaTypes

open Outcome

namespace Json

/-! ## Numbers inside a value -/

/-- All numbers inside a value have some property. -/
def EachNumber (property : JsonNumber → Prop) (value : Json) : Prop :=
  ∀ number, (Json.number number).Within value → property number

namespace EachNumber

variable {property other : JsonNumber → Prop}

@[simp] theorem null : EachNumber property .null := nofun

@[simp] theorem bool (value : Bool) : EachNumber property (.bool value) := nofun

@[simp] theorem string (text : String) : EachNumber property (.string text) := nofun

@[simp] theorem number {number : JsonNumber} :
    EachNumber property (.number number) ↔ property number := by
  refine ⟨fun hnumber => hnumber number .refl, ?_⟩
  rintro hnumber inner ⟨⟩
  exact hnumber

@[simp] theorem array {items : List Json} :
    EachNumber property (.array items) ↔ ∀ item ∈ items, EachNumber property item := by
  constructor
  · exact fun hitems item hitem number hnumber => hitems number (.item hitem hnumber)
  · rintro hitems number (_ | _ | ⟨hitem, hwithin⟩)
    exact hitems _ hitem number hwithin

@[simp] theorem object {members : Members} :
    EachNumber property (.object members) ↔ ∀ member ∈ members, EachNumber property member.2 := by
  constructor
  · exact fun hmembers member hmember number hnumber =>
      hmembers number (.member hmember hnumber)
  · rintro hmembers number (_ | ⟨hmember, hwithin⟩)
    exact hmembers _ hmember number hwithin

theorem congr {value : Json}
    (hvalue : EachNumber (fun number => property number ↔ other number) value) :
    EachNumber property value ↔ EachNumber other value :=
  forall_congr' fun number => forall_congr' fun hnumber => hvalue number hnumber

end EachNumber

/-! ## Values that readers build -/

/-- The values that readers build. -/
inductive Arises : Json → Prop
  | null : Arises .null
  | bool (value) : Arises (.bool value)
  | number {value : JsonNumber} (hvalue : value.IsHeld) : Arises (.number value)
  | string (text) : Arises (.string text)
  | array {items} (hitems : ∀ item ∈ items, Arises item) : Arises (.array items)
  /-- Of repeated keys, one is kept. -/
  | object {pairs : Members} (hpairs : ∀ pair ∈ pairs, Arises pair.2) :
      Arises (.object (Members.ofList pairs))

namespace Arises

variable {value : Json}

theorem keysDistinct (hvalue : value.Arises) : value.KeysDistinct := by
  induction hvalue with
  | null => exact .null
  | bool value => exact .bool value
  | number => exact .number _
  | string text => exact .string text
  | array hitems ih => exact KeysDistinct.array.mpr ih
  | object hpairs ih => exact .object_ofList ih

theorem eachNumber (hvalue : value.Arises) : value.EachNumber JsonNumber.IsHeld := by
  induction hvalue with
  | null => exact .null
  | bool value => exact .bool value
  | number hvalue => exact EachNumber.number.mpr hvalue
  | string text => exact .string text
  | array hitems ih => exact EachNumber.array.mpr ih
  | object hpairs ih =>
      refine EachNumber.object.mpr fun member hmember => ih member ?_
      exact (Members.mem_of_mem_foldl_insert hmember).resolve_left List.not_mem_nil

end Arises

/-! ## Reading JSON -/

namespace Reader

variable {number : JsonNumber} {cursor rest : Cursor} {negative : Bool} {significand : Nat}
  {exponent : Int}

theorem joinDigits_lt {digits : List UInt8} (hsignificand : significand < 2 ^ 64) :
    (joinDigits significand digits).1 < 2 ^ 64 := by
  induction digits generalizing significand with
  | nil => exact hsignificand
  | cons digit digits ih =>
      rw [joinDigits]
      split
      · exact hsignificand
      · exact ih (by omega)

theorem isHeld_of_finishFloat
    (hnumber : finishFloat cursor negative significand exponent = .ok (number, rest)) :
    number.IsHeld := by
  unfold finishFloat at hnumber
  split at hnumber
  · rename_i value hvalue
    obtain ⟨rfl, -⟩ := Prod.mk.inj (Except.ok.inj hnumber)
    exact Binary64.isDouble_ofDecimal? hvalue
  · cases hnumber

theorem isHeld_of_readExponent
    (hnumber : readExponent cursor negative significand exponent = .ok (number, rest)) :
    number.IsHeld := by
  unfold readExponent at hnumber
  -- the direction is taken apart first, whichever it is
  extract_lets start at hnumber
  split at hnumber
  split at hnumber
  · cases hnumber
  · split at hnumber
    · cases hnumber
    · dsimp only at hnumber
      split at hnumber
      · split at hnumber
        · cases hnumber
        · exact isHeld_of_finishFloat hnumber
      · exact isHeld_of_finishFloat hnumber

theorem isHeld_of_readFraction
    (hnumber : readFraction cursor negative significand exponent = .ok (number, rest)) :
    number.IsHeld := by
  unfold readFraction at hnumber
  dsimp only at hnumber
  split at hnumber
  · cases hnumber
  · split at hnumber
    · split at hnumber
      · exact isHeld_of_readExponent hnumber
      · exact isHeld_of_finishFloat hnumber
    · exact isHeld_of_finishFloat hnumber

/-- An integer that does not fit is a double. -/
theorem isHeld_of_finishInteger (hsignificand : significand < 2 ^ 64)
    (hnumber : finishInteger cursor negative significand = .ok (number, rest)) :
    number.IsHeld := by
  unfold finishInteger at hnumber
  split at hnumber
  · obtain ⟨rfl, -⟩ := Prod.mk.inj (Except.ok.inj hnumber)
    simp only [JsonNumber.IsHeld, JsonNumber.leastSigned, JsonNumber.greatestUnsigned]
    omega
  · split at hnumber
    · rename_i hbounds
      obtain ⟨rfl, -⟩ := Prod.mk.inj (Except.ok.inj hnumber)
      simp only [Bool.and_eq_true, decide_eq_true_eq] at hbounds
      simp only [JsonNumber.IsHeld, JsonNumber.leastSigned, JsonNumber.greatestUnsigned]
      omega
    · exact isHeld_of_finishFloat hnumber

/-- **Numbers of a text** are held as integers or as doubles. -/
theorem isHeld_of_readNumber (hnumber : readNumber cursor negative = .ok (number, rest)) :
    number.IsHeld := by
  -- digits beyond 64 bits are dropped, which makes the number a floating-point one
  have hjoined : (joinDigits 0 (leadingDigits cursor)).1 < 2 ^ 64 := joinDigits_lt (by decide)
  have hplain : ∀ dropped finish,
      (if dropped > 0 then
        finishFloat finish negative (joinDigits 0 (leadingDigits cursor)).1 (dropped : Nat)
      else finishInteger finish negative (joinDigits 0 (leadingDigits cursor)).1) =
        .ok (number, rest) → number.IsHeld := by
    intro dropped finish hplain
    split at hplain
    · exact isHeld_of_finishFloat hplain
    · exact isHeld_of_finishInteger hjoined hplain
  unfold readNumber at hnumber
  split at hnumber
  · cases hnumber
  · split at hnumber
    · cases hnumber
    · dsimp only at hnumber
      split at hnumber
      · cases hnumber
      · split at hnumber
        · exact isHeld_of_readFraction hnumber
        · split at hnumber
          · exact isHeld_of_readExponent hnumber
          · exact hplain _ _ hnumber
        · exact hplain _ _ hnumber

theorem arises_of_readNumber {value : Json}
    (hvalue : (do
      let (number, cursor) ← readNumber cursor negative
      .ok (.number number, cursor)) = Except.ok (value, rest)) : value.Arises := by
  obtain ⟨⟨number, cursor⟩, hnumber, hvalue⟩ := bind_eq_ok.mp hvalue
  obtain ⟨rfl, -⟩ := Prod.mk.inj (Except.ok.inj hvalue)
  exact .number (isHeld_of_readNumber hnumber)

theorem eq_of_readWord {value result : Json} {word : List UInt8} {cursor rest : Cursor}
    (hresult : readWord value word cursor = .ok (result, rest)) : result = value := by
  induction word generalizing cursor with
  | nil => exact ((Prod.mk.inj (Except.ok.inj hresult)).1).symm
  | cons expected word ih =>
      rw [readWord] at hresult
      split at hresult
      · cases hresult
      · split at hresult
        · exact ih hresult
        · cases hresult

mutual

theorem arises_of_readValue {value : Json} {rest : Cursor} :
    ∀ {fuel depth : Nat} {cursor : Cursor},
      readValue fuel depth cursor = .ok (value, rest) → value.Arises
  | 0, _, _, hvalue => by cases hvalue
  | fuel + 1, depth, cursor, hvalue => by
      rw [readValue] at hvalue
      dsimp only at hvalue
      split at hvalue
      · cases hvalue
      · -- the first byte tells what comes
        rcases ite_eq_iff.mp hvalue with ⟨-, hvalue⟩ | ⟨-, hvalue⟩
        · exact eq_of_readWord hvalue ▸ Arises.null
        rcases ite_eq_iff.mp hvalue with ⟨-, hvalue⟩ | ⟨-, hvalue⟩
        · exact eq_of_readWord hvalue ▸ Arises.bool true
        rcases ite_eq_iff.mp hvalue with ⟨-, hvalue⟩ | ⟨-, hvalue⟩
        · exact eq_of_readWord hvalue ▸ Arises.bool false
        rcases ite_eq_iff.mp hvalue with ⟨-, hvalue⟩ | ⟨-, hvalue⟩
        · exact arises_of_readNumber hvalue
        rcases ite_eq_iff.mp hvalue with ⟨-, hvalue⟩ | ⟨-, hvalue⟩
        · exact arises_of_readNumber hvalue
        rcases ite_eq_iff.mp hvalue with ⟨-, hvalue⟩ | ⟨-, hvalue⟩
        · obtain ⟨⟨text, cursor⟩, -, hvalue⟩ := bind_eq_ok.mp hvalue
          exact (Prod.mk.inj (Except.ok.inj hvalue)).1 ▸ Arises.string text
        rcases ite_eq_iff.mp hvalue with ⟨-, hvalue⟩ | ⟨-, hvalue⟩
        · obtain ⟨-, hvalue⟩ := (ite_eq_iff.mp hvalue).resolve_left fun herror => nomatch herror.2
          exact arises_of_readItems (List.forall_mem_nil _) hvalue
        rcases ite_eq_iff.mp hvalue with ⟨-, hvalue⟩ | ⟨-, hvalue⟩
        · obtain ⟨-, hvalue⟩ := (ite_eq_iff.mp hvalue).resolve_left fun herror => nomatch herror.2
          exact arises_of_readMembers (List.forall_mem_nil _) hvalue
        · cases hvalue

theorem arises_of_readItems {value : Json} {rest : Cursor} :
    ∀ {fuel depth : Nat} {cursor : Cursor} {first : Bool} {items : List Json},
      (∀ item ∈ items, item.Arises) →
        readItems fuel depth cursor first items = .ok (value, rest) → value.Arises
  | 0, _, _, _, _, _, hvalue => by cases hvalue
  | fuel + 1, depth, cursor, first, items, hitems, hvalue => by
      obtain ⟨⟨more, cursor⟩, -, hvalue⟩ := bind_eq_ok.mp hvalue
      cases more with
      | false =>
          obtain ⟨rfl, -⟩ := Prod.mk.inj (Except.ok.inj hvalue)
          exact .array fun item hitem => hitems item (List.mem_reverse.mp hitem)
      | true =>
          obtain ⟨⟨item, cursor⟩, hitem, hvalue⟩ := bind_eq_ok.mp hvalue
          have hitem := arises_of_readValue hitem
          exact arises_of_readItems (List.forall_mem_cons.mpr ⟨hitem, hitems⟩) hvalue

theorem arises_of_readMembers {value : Json} {rest : Cursor} :
    ∀ {fuel depth : Nat} {cursor : Cursor} {first : Bool} {members : Members},
      (∀ member ∈ members, member.2.Arises) →
        readMembers fuel depth cursor first members = .ok (value, rest) → value.Arises
  | 0, _, _, _, _, _, hvalue => by cases hvalue
  | fuel + 1, depth, cursor, first, members, hmembers, hvalue => by
      obtain ⟨⟨more, cursor⟩, -, hvalue⟩ := bind_eq_ok.mp hvalue
      cases more with
      | false =>
          obtain ⟨rfl, -⟩ := Prod.mk.inj (Except.ok.inj hvalue)
          exact .object fun member hmember => hmembers member (List.mem_reverse.mp hmember)
      | true =>
          dsimp only at hvalue
          split at hvalue
          · obtain ⟨⟨key, cursor⟩, -, hvalue⟩ := bind_eq_ok.mp hvalue
            obtain ⟨cursor, -, hvalue⟩ := bind_eq_ok.mp hvalue
            obtain ⟨⟨child, cursor⟩, hchild, hvalue⟩ := bind_eq_ok.mp hvalue
            have hchild := arises_of_readValue hchild
            exact arises_of_readMembers (List.forall_mem_cons.mpr ⟨hchild, hmembers⟩) hvalue
          · cases hvalue

end

end Reader

theorem arises_of_parse {bytes : List UInt8} {value : Json}
    (hvalue : parse bytes = .ok value) : value.Arises := by
  obtain ⟨⟨value, cursor⟩, hread, hvalue⟩ := bind_eq_ok.mp hvalue
  dsimp only at hvalue
  split at hvalue
  · exact Except.ok.inj hvalue ▸ Reader.arises_of_readValue hread
  · cases hvalue

end Json

/-! ## Reading YAML -/

namespace Yaml

open Json

namespace Scalar

variable {text : String} {value : Json}

theorem isDouble_of_nearest? {negative : Bool} {digits : Nat} {exponent : Int} {value : Binary64}
    (hvalue : nearest? negative digits exponent = some value) : value.IsDouble := by
  unfold nearest? at hvalue
  dsimp only at hvalue
  split_ifs at hvalue
  · exact Binary64.isDouble_of_ofRatio? Nat.one_pos hvalue
  · exact Binary64.isDouble_of_ofRatio? Nat.one_pos hvalue
  · exact Binary64.isDouble_of_ofRatio? (Nat.pow_pos (by decide)) hvalue

theorem arises_of_ofInteger {number : Int} (hvalue : ofInteger number = some value) :
    value.Arises := by
  unfold ofInteger at hvalue
  split at hvalue
  · rename_i hbounds
    rw [Bool.and_eq_true, decide_eq_true_eq, decide_eq_true_eq] at hbounds
    obtain rfl := Option.some.inj hvalue
    exact .number hbounds
  · cases hvalue

theorem arises_of_float? (hvalue : float? text = some value) : value.Arises := by
  unfold float? at hvalue
  split at hvalue
  · exact Option.some.inj hvalue ▸ Arises.null
  · obtain ⟨number, hnumber, rfl⟩ := Option.map_eq_some_iff.mp hvalue
    obtain ⟨decimal, -, hnumber⟩ := Option.bind_eq_some_iff.mp hnumber
    obtain ⟨digits, -, hnumber⟩ := Option.bind_eq_some_iff.mp hnumber
    exact .number (isDouble_of_nearest? hnumber)

theorem arises_of_ofPlain (hvalue : ofPlain text = some value) : value.Arises := by
  unfold ofPlain at hvalue
  split at hvalue
  · exact Option.some.inj hvalue ▸ Arises.null
  · split at hvalue
    · exact Option.some.inj hvalue ▸ Arises.bool _
    · split at hvalue
      · exact arises_of_ofInteger hvalue
      · split at hvalue
        · exact Option.some.inj hvalue ▸ Arises.string text
        · rcases Option.or_eq_some_iff.mp hvalue with hfloat | ⟨-, htext⟩
          · exact arises_of_float? hfloat
          · exact Option.some.inj htext ▸ Arises.string text

/-- A tag asks for one of the scalars, and there is nothing else that it gives. -/
theorem arises_of_value? {tag : Option String} {plain : Bool}
    (hvalue : Scalar.value? tag plain text = some value) : value.Arises := by
  unfold value? at hvalue
  split at hvalue
  · split at hvalue
    · exact arises_of_ofPlain hvalue
    · exact Option.some.inj hvalue ▸ Arises.string text
  · split_ifs at hvalue
    · obtain ⟨flag, -, rfl⟩ := Option.map_eq_some_iff.mp hvalue
      exact .bool flag
    · obtain ⟨number, -, hnumber⟩ := Option.bind_eq_some_iff.mp hvalue
      exact arises_of_ofInteger hnumber
    · exact arises_of_float? hvalue
    · obtain ⟨_, -, rfl⟩ := Option.map_eq_some_iff.mp hvalue
      exact .null
    · exact Option.some.inj hvalue ▸ Arises.string text

end Scalar

namespace Document

variable {document : Document}

theorem run_bind_eq_some {α β : Type} {first : Convert α} {next : α → Convert β} {left : Nat}
    {result : β × Nat} : (first >>= next) left = some result ↔
      ∃ value rest, first left = some (value, rest) ∧ next value rest = some result := by
  constructor
  · intro hresult
    obtain ⟨⟨value, rest⟩, hfirst, hnext⟩ := Option.bind_eq_some_iff.mp hresult
    exact ⟨value, rest, hfirst, hnext⟩
  · rintro ⟨value, rest, hfirst, hnext⟩
    exact Option.bind_eq_some_iff.mpr ⟨(value, rest), hfirst, hnext⟩

/-- What holds of every result of a step holds of all results. -/
theorem forall_of_mapM {α β : Type} {step : α → Convert β} {kind : β → Prop}
    (hstep : ∀ item left result rest, step item left = some (result, rest) → kind result)
    {items : List α} {results : List β} {left rest : Nat}
    (hresults : items.mapM step left = some (results, rest)) : ∀ result ∈ results, kind result := by
  induction items generalizing results left rest with
  | nil =>
      obtain ⟨rfl, -⟩ := Prod.mk.inj (Option.some.inj hresults)
      exact List.forall_mem_nil _
  | cons item later ih =>
      rw [List.mapM_cons] at hresults
      obtain ⟨first, middle, hfirst, hresults⟩ := run_bind_eq_some.mp hresults
      obtain ⟨others, middle, hothers, hresults⟩ := run_bind_eq_some.mp hresults
      obtain ⟨rfl, -⟩ := Prod.mk.inj (Option.some.inj hresults)
      exact List.forall_mem_cons.mpr ⟨hstep _ _ _ _ hfirst, ih hothers⟩

theorem arises_of_valueOf {fuel depth : Nat} {node : Node} {left rest : Nat} {value : Json}
    (hvalue : document.valueOf fuel depth node left = some (value, rest)) : value.Arises := by
  induction fuel generalizing depth node left rest value with
  | zero => cases hvalue
  | succ fuel ih =>
      rw [valueOf.eq_def] at hvalue
      dsimp only at hvalue
      -- a scalar, an anchored node, a sequence, a mapping, or the end of the fuel
      split at hvalue
      · obtain ⟨scalar, hscalar, hsame⟩ := Option.map_eq_some_iff.mp hvalue
        obtain ⟨rfl, -⟩ := Prod.mk.inj hsame
        exact Scalar.arises_of_value? hscalar
      · obtain ⟨target, left, -, hvalue⟩ := run_bind_eq_some.mp hvalue
        exact ih hvalue
      · split at hvalue
        · cases hvalue
        · obtain ⟨items, left, hitems, hvalue⟩ := run_bind_eq_some.mp hvalue
          obtain ⟨rfl, -⟩ := Prod.mk.inj (Option.some.inj hvalue)
          exact .array (forall_of_mapM (fun _ _ _ _ hitem => ih hitem) hitems)
      · split at hvalue
        · cases hvalue
        · obtain ⟨pairs, left, hpairs, hvalue⟩ := run_bind_eq_some.mp hvalue
          obtain ⟨rfl, -⟩ := Prod.mk.inj (Option.some.inj hvalue)
          refine .object (forall_of_mapM ?_ hpairs)
          intro entry left pair rest hpair
          obtain ⟨key, left, -, hpair⟩ := run_bind_eq_some.mp hpair
          obtain ⟨child, left, hchild, hpair⟩ := run_bind_eq_some.mp hpair
          obtain ⟨rfl, -⟩ := Prod.mk.inj (Option.some.inj hpair)
          exact ih hchild
      · cases hvalue

end Document

theorem arises_of_parse? {bytes : List UInt8} {value : Json}
    (hvalue : parse? bytes = some value) : value.Arises := by
  obtain ⟨text, -, hvalue⟩ := Option.bind_eq_some_iff.mp hvalue
  obtain ⟨tokens, -, hvalue⟩ := Option.bind_eq_some_iff.mp hvalue
  obtain ⟨document, -, hvalue⟩ := Option.bind_eq_some_iff.mp hvalue
  obtain ⟨result, hresult, rfl⟩ := Option.map_eq_some_iff.mp hvalue
  exact Document.arises_of_valueOf hresult

end Yaml

/-- **Documents arise from readers.** -/
theorem arises_of_readDocument {format : DocumentFormat} {bytes : List UInt8} {document : Json}
    (hdocument : readDocument format bytes = .ok document) : document.Arises := by
  -- both formats end with the check that the value is an object
  have hchecked : ∀ value : Json, value.Arises →
      (if value.isObject then Except.ok value else .error DocumentFault.notAnObject) = .ok document →
        document.Arises := by
    intro value hvalue hchecked
    split at hchecked
    · exact Except.ok.inj hchecked ▸ hvalue
    · cases hchecked
  unfold readDocument at hdocument
  cases format with
  | json =>
      obtain ⟨value, hvalue, hdocument⟩ := bind_eq_ok.mp hdocument
      exact hchecked value (Json.arises_of_parse (mapError_eq_ok.mp hvalue)) hdocument
  | yaml =>
      dsimp only at hdocument
      split at hdocument
      · rename_i value hvalue
        exact hchecked value (Yaml.arises_of_parse? hvalue) hdocument
      · cases hdocument

/-- **Documents have distinct keys.**  No object of a document that is read has a key twice. -/
theorem keysDistinct_of_readDocument {format : DocumentFormat} {bytes : List UInt8}
    {document : Json} (hdocument : readDocument format bytes = .ok document) :
    document.KeysDistinct :=
  (arises_of_readDocument hdocument).keysDistinct

/-- **Documents hold their numbers** as integers of 64 bits and as doubles. -/
theorem eachNumber_of_readDocument {format : DocumentFormat} {bytes : List UInt8}
    {document : Json} (hdocument : readDocument format bytes = .ok document) :
    document.EachNumber JsonNumber.IsHeld :=
  (arises_of_readDocument hdocument).eachNumber

end SchemaTypes
