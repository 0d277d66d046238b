import SchemaTypes.Proofs.Query.Decodability

/-!
# Queries in memory and their encoding

A query is made from its required fields or decoded, and then changed one field at a time.  Whatever
query comes about in this way, its encoding is decoded again.  The result may differ in two fields:
encoding does not tell which alternative a value is held by, and decoding takes the first one that
accepts it.

* `Query.Obtainable`: the queries that can be made.
* `Query.isTyped_of_apply` and `Query.Obtainable.isTyped`: their integers have 64 bits with sign.
* `Query.ofJson_toJson_of_isTyped`: what an encoded query is decoded to.
* `Query.ofJson_toJson_of_obtainable`: which queries decoding gives back.
-/

namespace SchemaTypes

open Outcome

/-! ## Alternatives that decoding chooses -/

namespace QueryValue

/-- No alternative before the one that holds a value accepts it. -/
def IsFirstMatch : QueryValue → Prop
  | .unmatched input =>
    (¬∃ number, input = .number number ∧ Decode.Readable number) ∧ ¬∃ text, input = .string text
  | _ => True

/-- Decoding chooses the first alternative. -/
theorem ofJson_toJson_eq_iff {value : QueryValue} (hvalue : value.IsTyped) :
    ofJson value.toJson = .ok value ↔ value.IsFirstMatch := by
  cases value with
  | integer number =>
      refine iff_of_true ?_ trivial
      have hread := Decode.integer?_of_isSigned hvalue
      have hinteger : Decode.isInteger (.number (.integer number)) := by
        rw [Decode.isInteger, hread, Option.isSome_some]
      rw [toJson, ofJson, if_pos hinteger]
      exact bind_eq_ok.mpr ⟨number, Decode.integer_eq_ok.mpr hread, rfl⟩
  | text content => exact iff_of_true rfl trivial
  | unmatched input =>
      have hstring : input.isString ↔ ∃ text, input = .string text := by
        cases input <;> simp [Json.isString, Json.string?]
      rw [IsFirstMatch, ← hstring, ← Decode.isSome_integer?_iff, toJson]
      constructor
      · intro hsame
        rcases ofJson_cases hsame with ⟨_, -, hother⟩ | ⟨_, hother⟩ | ⟨-, hinteger, htext⟩
        · cases hother
        · cases hother
        · exact ⟨Bool.eq_false_iff.mp hinteger, Bool.eq_false_iff.mp htext⟩
      · rintro ⟨hinteger, htext⟩
        rw [ofJson, Decode.isInteger, if_neg hinteger, if_neg htext]
        rfl

end QueryValue

namespace QueryPick

/-- No alternative before the one that holds a value accepts it.  The first one accepts all objects
of the second. -/
def IsFirstMatch : QueryPick → Prop
  | .foo _ => True
  | .fooBar _ => False
  | .unmatched input =>
    ¬∃ members : Members, input = .object members ∧
      ∃ text, members.get? "foo" = some (.string text)

/-- Decoding chooses the first alternative. -/
theorem ofJson_toJson_eq_iff {pick : QueryPick} {validating : Bool} :
    ofJson pick.toJson validating = .ok pick ↔ pick.IsFirstMatch := by
  cases pick with
  | foo value => exact iff_of_true (ofJson_object (by simp) validating) trivial
  | fooBar value =>
      refine iff_of_false (fun hsame => ?_) id
      rcases ofJson_cases hsame with ⟨other, hother⟩ | ⟨hother, -, -⟩ <;> cases hother
  | unmatched input =>
      rw [IsFirstMatch, ← acceptsFoo_iff, toJson]
      constructor
      · intro hsame
        rcases ofJson_cases hsame with ⟨other, hother⟩ | ⟨-, hfoo, -⟩
        · cases hother
        · simpa using hfoo
      · intro hfoo
        have hfooBar : ¬acceptsFooBar input :=
          fun haccepts => hfoo (acceptsFoo_of_acceptsFooBar haccepts)
        rw [ofJson, if_neg hfoo, if_neg hfooBar]
        rfl

end QueryPick

namespace Query

/-! ## Queries that can be made -/

/-- A call that sets or drops one field of a query. -/
inductive Change
  | name (name : String)
  | limit (limit : Int)
  | noLimit
  | tags (tags : List String)
  | noTags
  | code (code : QueryCode)
  | noCode
  | value (value : QueryValue)
  | noValue
  | nick (nick : Option String)
  | pick (pick : QueryPick)
  | noPick

namespace Change

/-- Integers among the arguments have 64 bits with sign. -/
def IsTyped : Change → Prop
  | .limit number => Decode.IsSigned number
  | .value held => held.IsTyped
  | _ => True

/-- The changed query, unless the new value violates the schema. -/
def apply (query : Query) : Change → Decoded Query
  | .name text => query.withName text
  | .limit number => query.withLimit number
  | .noLimit => .ok query.withoutLimit
  | .tags texts => query.withTags texts
  | .noTags => .ok query.withoutTags
  | .code named => .ok (query.withCode named)
  | .noCode => .ok query.withoutCode
  | .value held => .ok (query.withValue held)
  | .noValue => .ok query.withoutValue
  | .nick text => query.withNick text
  | .pick held => .ok (query.withPick held)
  | .noPick => .ok query.withoutPick

end Change

/-- The queries that can be made, decoded and changed. -/
inductive Obtainable : Query → Prop
  | new (name : String) (nick : Option String) : Obtainable (new name nick)
  | decoded {input : Json} {validating : Bool} {query : Query}
      (hquery : ofJson input validating = .ok query) : Obtainable query
  | changed {query result : Query} (change : Change) (hquery : Obtainable query)
      (hchange : change.IsTyped) (hresult : change.apply query = .ok result) : Obtainable result

/-- Changing a field keeps the integers of a query within range. -/
theorem isTyped_of_apply {query result : Query} {change : Change} (hquery : query.IsTyped)
    (hchange : change.IsTyped) (hresult : change.apply query = .ok result) : result.IsTyped := by
  cases change with
  | name name | tags tags | nick nick =>
      obtain ⟨_, -, hresult⟩ := bind_eq_ok.mp hresult
      obtain rfl := pure_eq_ok.mp hresult
      exact ⟨hquery.limit, hquery.value⟩
  | limit limit =>
      obtain ⟨_, -, hresult⟩ := bind_eq_ok.mp hresult
      obtain rfl := pure_eq_ok.mp hresult
      exact ⟨hchange, hquery.value⟩
  | noLimit =>
      obtain rfl := Except.ok.inj hresult
      exact ⟨isSigned_defaultLimit, hquery.value⟩
  | value value =>
      obtain rfl := Except.ok.inj hresult
      exact ⟨hquery.limit, fun own hown => Option.some.inj hown ▸ hchange⟩
  | noValue =>
      obtain rfl := Except.ok.inj hresult
      exact ⟨hquery.limit, nofun⟩
  | noTags | code code | noCode | pick pick | noPick =>
      obtain rfl := Except.ok.inj hresult
      exact ⟨hquery.limit, hquery.value⟩

/-- **Queries that can be made** hold integers of 64 bits with sign. -/
theorem Obtainable.isTyped {query : Query} (hquery : Obtainable query) : query.IsTyped := by
  induction hquery with
  | new name nick => exact ⟨isSigned_defaultLimit, nofun⟩
  | decoded hquery =>
      obtain ⟨-, members, -, hreads⟩ := ofJson_eq_ok.mp hquery
      exact hreads.isTyped
  | changed change _ hchange hresult ih => exact isTyped_of_apply ih hchange hresult

/-! ## Decoding what has been encoded -/

/-- **Encoded queries are decoded.**  All fields but the value and the pick come back as they are,
and these two as what their own encoding is decoded to. -/
theorem ofJson_toJson_of_isTyped {query : Query} (hquery : query.IsTyped) :
    ∃ value pick, ofJson query.toJson false = .ok { query with value, pick } ∧
      query.value.mapM (fun own => QueryValue.ofJson own.toJson) = .ok value ∧
      query.pick.mapM (fun own => QueryPick.ofJson own.toJson false) = .ok pick := by
  obtain ⟨value, hvalue⟩ := exists_mapM query.value fun own => QueryValue.exists_ofJson own.toJson
  obtain ⟨pick, hpick⟩ := exists_mapM query.pick fun own => QueryPick.exists_ofJson own.toJson false
  exact ⟨value, pick, ofJson_eq_ok.mpr
    ⟨nofun, _, query.toJson_eq, reads_members_of_isTyped hquery hvalue hpick⟩, hvalue, hpick⟩

/-- **Which queries decoding gives back.**  The encoding of a query that can be made is always
decoded, to a query with all other fields the same and with the value and the pick that decoding
chooses for their encodings.  It is decoded to the query itself exactly when the value and the pick
are held by the first alternative that accepts them. -/
theorem ofJson_toJson_of_obtainable {query : Query} (hquery : Obtainable query) :
    (∃ value pick, ofJson query.toJson false = .ok { query with value, pick } ∧
      query.value.mapM (fun own => QueryValue.ofJson own.toJson) = .ok value ∧
      query.pick.mapM (fun own => QueryPick.ofJson own.toJson false) = .ok pick) ∧
    (ofJson query.toJson false = .ok query ↔
      (∀ value, query.value = some value → value.IsFirstMatch) ∧
        ∀ pick, query.pick = some pick → pick.IsFirstMatch) := by
  have hfirstValue : ∀ value, query.value = some value →
      (QueryValue.ofJson value.toJson = .ok value ↔ value.IsFirstMatch) :=
    fun value hvalue => QueryValue.ofJson_toJson_eq_iff (hquery.isTyped.value value hvalue)
  obtain ⟨value, pick, hdecoded, hvalue, hpick⟩ := ofJson_toJson_of_isTyped hquery.isTyped
  refine ⟨⟨value, pick, hdecoded, hvalue, hpick⟩, ?_⟩
  rw [hdecoded]
  constructor
  · intro hsame
    -- only unions are decoded anew, so the two queries can differ in their value and pick alone
    have hfields := Except.ok.inj hsame
    obtain rfl : value = query.value := congrArg Query.value hfields
    obtain rfl : pick = query.pick := congrArg Query.pick hfields
    refine ⟨fun value hfield => ?_, fun pick hfield => ?_⟩
    · exact (hfirstValue value hfield).mp (mapM_eq_self_iff.mp hvalue value hfield)
    · exact QueryPick.ofJson_toJson_eq_iff.mp (mapM_eq_self_iff.mp hpick pick hfield)
  · rintro ⟨hvalues, hpicks⟩
    have hownValue := mapM_eq_self_iff.mpr fun value hfield =>
      (hfirstValue value hfield).mpr (hvalues value hfield)
    have hownPick := mapM_eq_self_iff.mpr fun pick hfield =>
      (@QueryPick.ofJson_toJson_eq_iff pick false).mpr (hpicks pick hfield)
    obtain rfl := Except.ok.inj (hvalue.symm.trans hownValue)
    obtain rfl := Except.ok.inj (hpick.symm.trans hownPick)
    rfl

/-- A query with a value that no alternative accepts and a pick. -/
def pickyQuery : Query :=
  ((new "n" none).withValue (.unmatched (.bool true))).withPick (.foo ⟨"a"⟩)

theorem ofJson_toJson_pickyQuery :
    Obtainable pickyQuery ∧ ofJson pickyQuery.toJson false = .ok pickyQuery := by
  have hobtainable : Obtainable pickyQuery :=
    .changed (.pick (.foo ⟨"a"⟩))
      (.changed (.value (.unmatched (.bool true))) (.new "n" none) trivial rfl) trivial rfl
  refine ⟨hobtainable, (ofJson_toJson_of_obtainable hobtainable).2.mpr ⟨?_, ?_⟩⟩
  · rintro value hvalue
    obtain rfl := Option.some.inj hvalue
    exact ⟨nofun, nofun⟩
  · rintro pick hpick
    obtain rfl := Option.some.inj hpick
    trivial

/-- A pick of the second alternative is decoded as one of the first. -/
theorem not_ofJson_toJson_fooBarQuery :
    Obtainable ((new "n" none).withPick (.fooBar ⟨"a", "b"⟩)) ∧
      ofJson ((new "n" none).withPick (.fooBar ⟨"a", "b"⟩)).toJson false ≠
        .ok ((new "n" none).withPick (.fooBar ⟨"a", "b"⟩)) := by
  refine ⟨.changed (.pick (.fooBar ⟨"a", "b"⟩)) (.new "n" none) trivial rfl, fun hsame => ?_⟩
  obtain ⟨-, members, -, hreads⟩ := ofJson_eq_ok.mp hsame
  obtain ⟨input, -, hpick⟩ := decodeOptional_some hreads.pick
  rcases QueryPick.ofJson_cases hpick with ⟨value, hvalue⟩ | ⟨hvalue, -⟩ <;> cases hvalue

end Query

end SchemaTypes
