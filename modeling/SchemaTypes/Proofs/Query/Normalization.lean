import SchemaTypes.Proofs.Number.Integral
import SchemaTypes.Proofs.Outcome
import SchemaTypes.Proofs.Query.Validity

/-!
# Decoding queries normalises them

A decoded query is written without the keys that the schema does not declare, with the default
where the limit was absent, with integers for the doubles that stand for them, and without a code
that is `null`.  Written this way it is decoded to itself, and it stays valid when the input was.

* `Query.ofJson_eq_ok`: what decoding reads from each member.
* `Query.reads_members`: a query that has been decoded is read back from its own members.
* `Query.valid_members`: validity carries over to these members.
* `Query.ofJson_toJson_of_ofJson`: decoding is stable after one pass.
-/

namespace SchemaTypes

open Outcome

/-! ## Alternatives -/

namespace Decode

theorem string_eq_ok {input : Json} {text : String} :
    string input = .ok text ↔ input = .string text := by
  cases input <;> simp [string]

theorem object_eq_ok {input : Json} {members : Members} :
    object input = .ok members ↔ input = .object members := by
  cases input <;> simp [object]

theorem integer_eq_ok {input : Json} {value : Int} :
    integer input = .ok value ↔ integer? input = some value := by
  unfold integer
  cases integer? input <;> simp

theorem required_eq_ok {members : Members} {key : String} {value : Json} :
    required members key = .ok value ↔ members.get? key = some value := by
  unfold required
  cases members.get? key <;> simp

end Decode

theorem requiredText_eq_ok {members : Members} {key text : String} :
    requiredText members key = .ok text ↔ members.get? key = some (.string text) := by
  rw [requiredText, mapError_eq_ok, bind_eq_ok]
  simp only [Decode.required_eq_ok, Decode.string_eq_ok, exists_eq_right]

namespace QueryValue

/-- A value is decoded as an integer or a text, or kept as it is. -/
theorem ofJson_cases {input : Json} {value : QueryValue} (hvalue : ofJson input = .ok value) :
    (∃ number, Decode.integer? input = some number ∧ value = .integer number) ∨
      (∃ content, value = .text content) ∨
      (value = .unmatched input ∧ Decode.isInteger input = false ∧ input.isString = false) := by
  unfold ofJson at hvalue
  by_cases hinteger : Decode.isInteger input
  · rw [if_pos hinteger] at hvalue
    obtain ⟨number, hnumber, hresult⟩ := bind_eq_ok.mp hvalue
    exact .inl ⟨number, Decode.integer_eq_ok.mp hnumber, (pure_eq_ok.mp hresult).symm⟩
  · rw [if_neg hinteger] at hvalue
    by_cases hstring : input.isString
    · rw [if_pos hstring] at hvalue
      obtain ⟨content, -, hresult⟩ := bind_eq_ok.mp hvalue
      exact .inr (.inl ⟨content, (pure_eq_ok.mp hresult).symm⟩)
    · rw [if_neg hstring] at hvalue
      refine .inr (.inr ⟨(pure_eq_ok.mp hvalue).symm, ?_, ?_⟩)
      · simpa using hinteger
      · simpa using hstring

/-- What a value has been decoded to is decoded to itself. -/
theorem ofJson_toJson {input : Json} {value : QueryValue} (hvalue : ofJson input = .ok value) :
    ofJson value.toJson = .ok value := by
  rcases ofJson_cases hvalue with ⟨number, hnumber, rfl⟩ | ⟨content, rfl⟩ | ⟨rfl, hinteger, hstring⟩
  · have hagain := Decode.integer?_integer hnumber
    have hinteger : Decode.isInteger (.number (.integer number)) := by
      rw [Decode.isInteger, hagain, Option.isSome_some]
    rw [toJson, ofJson, if_pos hinteger, Decode.integer_eq_ok.mpr hagain]
    rfl
  · rfl
  · rw [toJson, ofJson, hinteger, hstring]
    rfl

/-- An integer has 64 bits with sign. -/
def IsTyped : QueryValue → Prop
  | .integer value => Decode.IsSigned value
  | _ => True

theorem isTyped_of_ofJson {input : Json} {value : QueryValue} (hvalue : ofJson input = .ok value) :
    value.IsTyped := by
  rcases ofJson_cases hvalue with ⟨number, hnumber, rfl⟩ | ⟨content, rfl⟩ | ⟨rfl, -, -⟩
  · exact Decode.isSigned_of_integer? hnumber
  · trivial
  · trivial

/-- A value stays within its schema. -/
theorem hasType_toJson {input : Json} {value : QueryValue} (hvalue : ofJson input = .ok value)
    (hinput : input.hasType "integer" ∨ ∃ text, input = .string text) :
    value.toJson.hasType "integer" ∨ ∃ text, value.toJson = .string text := by
  rcases ofJson_cases hvalue with ⟨number, -, rfl⟩ | ⟨content, rfl⟩ | ⟨rfl, -, -⟩
  · exact .inl rfl
  · exact .inr ⟨content, rfl⟩
  · exact hinput

end QueryValue

namespace FooPick

variable {members : Members} {text : String}

/-- An object is decoded as soon as it has the text. -/
theorem ofJson_object (hfoo : members.get? "foo" = some (.string text)) (validating : Bool) :
    ofJson (.object members) validating = .ok ⟨text⟩ := by
  have hvalid : validate schema (.object members) = .ok () := by
    have haccepts : QueryPick.acceptsFoo (.object members) :=
      QueryPick.acceptsFoo_iff.mpr ⟨_, rfl, text, hfoo⟩
    rwa [QueryPick.acceptsFoo, QueryPick.toBool_validate of?_schema, ← validate_eq_ok of?_schema]
      at haccepts
  have hdecoded : (do
      let members ← Decode.object (.object members)
      return { foo := ← requiredText members "foo" } : Decoded FooPick) = .ok ⟨text⟩ :=
    bind_eq_ok.mpr ⟨_, rfl, bind_eq_ok.mpr ⟨_, requiredText_eq_ok.mpr hfoo, rfl⟩⟩
  cases validating with
  | false => exact hdecoded
  | true => exact bind_eq_ok.mpr ⟨(), hvalid, hdecoded⟩

end FooPick

namespace QueryPick

theorem ofJson_cases {input : Json} {validating : Bool} {pick : QueryPick}
    (hpick : ofJson input validating = .ok pick) :
    (∃ value, pick = .foo value) ∨
      (pick = .unmatched input ∧ acceptsFoo input = false ∧ acceptsFooBar input = false) := by
  unfold ofJson at hpick
  by_cases hfoo : acceptsFoo input
  · rw [if_pos hfoo] at hpick
    obtain ⟨value, -, hresult⟩ := bind_eq_ok.mp hpick
    exact .inl ⟨value, (pure_eq_ok.mp hresult).symm⟩
  · have hfooBar : ¬acceptsFooBar input :=
      fun haccepts => hfoo (acceptsFoo_of_acceptsFooBar haccepts)
    rw [if_neg hfoo, if_neg hfooBar] at hpick
    refine .inr ⟨(pure_eq_ok.mp hpick).symm, ?_, ?_⟩
    · simpa using hfoo
    · simpa using hfooBar

theorem ofJson_object {members : Members} {text : String}
    (hfoo : members.get? "foo" = some (.string text)) (validating : Bool) :
    ofJson (.object members) validating = .ok (.foo ⟨text⟩) := by
  rw [ofJson, if_pos (acceptsFoo_iff.mpr ⟨_, rfl, text, hfoo⟩), FooPick.ofJson_object hfoo]
  rfl

/-- What a value has been decoded to is decoded to itself. -/
theorem ofJson_toJson {input : Json} {validating : Bool} {pick : QueryPick}
    (hpick : ofJson input validating = .ok pick) : ofJson pick.toJson validating = .ok pick := by
  rcases ofJson_cases hpick with ⟨value, rfl⟩ | ⟨rfl, hfoo, hfooBar⟩
  · exact ofJson_object (by simp) validating
  · rw [toJson, ofJson, hfoo, hfooBar]
    rfl

/-- A value stays within its schema. -/
theorem acceptsFoo_toJson {input : Json} {validating : Bool} {pick : QueryPick}
    (hpick : ofJson input validating = .ok pick) (hinput : acceptsFoo input) :
    acceptsFoo pick.toJson := by
  rcases ofJson_cases hpick with ⟨value, rfl⟩ | ⟨rfl, -, -⟩
  · exact acceptsFoo_iff.mpr ⟨_, rfl, value.foo, by simp⟩
  · exact hinput

end QueryPick

namespace Query

/-! ## What decoding reads -/

theorem decodeOptional_eq_ok {α : Type} {members : Members} {key : String}
    {decode : Json → Decoded α} {field : Option α} :
    decodeOptional members key decode = .ok field ↔
      (members.get? key = none ∧ field = none) ∨
        ∃ input value, members.get? key = some input ∧ decode input = .ok value ∧
          field = some value := by
  unfold decodeOptional
  cases members.get? key with
  | none => simp [eq_comm]
  | some input =>
      simp only [mapError_eq_ok, map_eq_ok, reduceCtorEq, false_and, false_or, Option.some.injEq]
      constructor
      · rintro ⟨value, hvalue, rfl⟩
        exact ⟨input, value, rfl, hvalue, rfl⟩
      · rintro ⟨own, value, rfl, hvalue, rfl⟩
        exact ⟨value, hvalue, rfl⟩

theorem decodeOptional_some {α : Type} {members : Members} {key : String}
    {decode : Json → Decoded α} {value : α}
    (hfield : decodeOptional members key decode = .ok (some value)) :
    ∃ input, members.get? key = some input ∧ decode input = .ok value := by
  rcases decodeOptional_eq_ok.mp hfield with ⟨-, hnone⟩ | ⟨input, found, hinput, hfound, hsame⟩
  · cases hnone
  · rw [Option.some.injEq] at hsame
    subst hsame
    exact ⟨input, hinput, hfound⟩

/-- The fields of a query as they are read from members. -/
structure Reads (members : Members) (validating : Bool) (query : Query) : Prop where
  name : requiredText members "name" = .ok query.name
  limit : ∃ limit, decodeOptional members "limit" Decode.integer = .ok limit ∧
    query.limit = limit.getD defaultLimit
  tags : decodeOptional members "tags" decodeTags = .ok query.tags
  code : ∃ code, decodeOptional members "code" decodeCode = .ok code ∧ query.code = code.join
  value : decodeOptional members "value" QueryValue.ofJson = .ok query.value
  nick : Decode.required members "nick" >>= decodeNick = .ok query.nick
  pick : decodeOptional members "pick" (QueryPick.ofJson · validating) = .ok query.pick

/-- **Decoding.**  Input is decoded when it is an object from which every field can be read, and
valid if that is asked for. -/
theorem ofJson_eq_ok {input : Json} {validating : Bool} {query : Query} :
    ofJson input validating = .ok query ↔
      (validating → validate schema input = .ok ()) ∧
        ∃ members : Members, input = .object members ∧ Reads members validating query := by
  -- reading the fields is the same with and without validation
  have hread : (do
      let members ← Decode.object input
      let name ← requiredText members "name"
      let limit ← decodeOptional members "limit" Decode.integer
      let tags ← decodeOptional members "tags" decodeTags
      let code ← decodeOptional members "code" decodeCode
      let value ← decodeOptional members "value" QueryValue.ofJson
      let nick ← (Decode.required members "nick" >>= decodeNick).mapError (·.under "nick")
      let pick ← decodeOptional members "pick" (QueryPick.ofJson · validating)
      return {
        name, limit := limit.getD defaultLimit, tags, code := code.join, value, nick, pick } :
        Decoded Query) = .ok query ↔
      ∃ members : Members, input = .object members ∧ Reads members validating query := by
    rw [bind_eq_ok]
    refine exists_congr fun members => and_congr Decode.object_eq_ok ?_
    constructor
    · intro hdecoded
      obtain ⟨name, hname, hdecoded⟩ := bind_eq_ok.mp hdecoded
      obtain ⟨limit, hlimit, hdecoded⟩ := bind_eq_ok.mp hdecoded
      obtain ⟨tags, htags, hdecoded⟩ := bind_eq_ok.mp hdecoded
      obtain ⟨code, hcode, hdecoded⟩ := bind_eq_ok.mp hdecoded
      obtain ⟨value, hvalue, hdecoded⟩ := bind_eq_ok.mp hdecoded
      obtain ⟨nick, hnick, hdecoded⟩ := bind_eq_ok.mp hdecoded
      obtain ⟨pick, hpick, hdecoded⟩ := bind_eq_ok.mp hdecoded
      obtain rfl := pure_eq_ok.mp hdecoded
      exact ⟨hname, ⟨limit, hlimit, rfl⟩, htags, ⟨code, hcode, rfl⟩, hvalue,
        mapError_eq_ok.mp hnick, hpick⟩
    · rintro ⟨hname, ⟨limit, hlimit, hlimitField⟩, htags, ⟨code, hcode, hcodeField⟩, hvalue, hnick,
        hpick⟩
      refine bind_eq_ok.mpr ⟨_, hname, ?_⟩
      refine bind_eq_ok.mpr ⟨_, hlimit, ?_⟩
      refine bind_eq_ok.mpr ⟨_, htags, ?_⟩
      refine bind_eq_ok.mpr ⟨_, hcode, ?_⟩
      refine bind_eq_ok.mpr ⟨_, hvalue, ?_⟩
      refine bind_eq_ok.mpr ⟨_, mapError_eq_ok.mpr hnick, ?_⟩
      refine bind_eq_ok.mpr ⟨_, hpick, ?_⟩
      rw [← hlimitField, ← hcodeField]
      rfl
  cases validating with
  | false =>
      constructor
      · exact fun hdecoded => ⟨nofun, hread.mp hdecoded⟩
      · exact fun hread' => hread.mpr hread'.2
  | true =>
      rw [← hread]
      refine bind_eq_ok.trans ⟨?_, ?_⟩
      · rintro ⟨done, hvalid, hdecoded⟩
        exact ⟨fun _ => hvalid, hdecoded⟩
      · rintro ⟨hvalid, hdecoded⟩
        exact ⟨(), hvalid rfl, hdecoded⟩

/-! ## The members that encoding writes -/

/-- The members of an encoded query. -/
def members (query : Query) : Members := query.toJson.members?.getD []

theorem toJson_eq (query : Query) : query.toJson = .object query.members := rfl

theorem get?_optionalMember {α : Type} (key other : String) (encode : α → Json)
    (field : Option α) :
    Members.get? (optionalMember key encode field) other =
      if other = key then field.map encode else none := by
  cases field with
  | none => simp [optionalMember]
  | some value => simp [optionalMember, Members.get?_cons]

section

variable (query : Query)

/-- Looking up a key in the members of a query, which are a list of lists. -/
theorem get?_members (key : String) :
    query.members.get? key =
      if key = "name" then some (.string query.name)
      else if key = "limit" then some (.number (.integer query.limit))
      else if key = "tags" then query.tags.map encodeTags
      else if key = "code" then query.code.map QueryCode.toJson
      else if key = "value" then query.value.map QueryValue.toJson
      else if key = "nick" then some (encodeNick query.nick)
      else if key = "pick" then query.pick.map QueryPick.toJson
      else none := by
  rw [members, toJson, Json.members?, Option.getD_some]
  simp only [Members.get?_append, Members.get?_cons, get?_optionalMember, Members.get?_nil]
  split_ifs <;> simp_all

end

/-! ## Reading a query back -/

/-- Integers among the fields have 64 bits with sign. -/
structure IsTyped (query : Query) : Prop where
  limit : Decode.IsSigned query.limit
  value : ∀ value, query.value = some value → value.IsTyped

theorem isSigned_defaultLimit : Decode.IsSigned defaultLimit := by
  constructor <;> decide

/-- What is read from an object is within range. -/
theorem Reads.isTyped {members : Members} {validating : Bool} {query : Query}
    (hquery : Reads members validating query) : query.IsTyped where
  limit := by
    obtain ⟨limit, hlimit, hfield⟩ := hquery.limit
    rw [hfield]
    cases limit with
    | none => exact isSigned_defaultLimit
    | some value =>
        obtain ⟨own, -, hvalue⟩ := decodeOptional_some hlimit
        exact Decode.isSigned_of_integer? (Decode.integer_eq_ok.mp hvalue)
  value value hvalue := by
    obtain ⟨own, -, hdecoded⟩ := decodeOptional_some (hvalue ▸ hquery.value)
    exact QueryValue.isTyped_of_ofJson hdecoded

/-- A field that is left out when it is absent is decoded to what its own encoding is decoded to. -/
theorem decodeOptional_of_mapM {α : Type} {members : Members} {key : String}
    {decode : Json → Decoded α} {encode : α → Json} {field result : Option α}
    (hmember : members.get? key = field.map encode)
    (hresult : field.mapM (fun value => decode (encode value)) = .ok result) :
    decodeOptional members key decode = .ok result := by
  rw [decodeOptional_eq_ok, hmember]
  cases field with
  | none => exact .inl ⟨rfl, (pure_eq_ok.mp hresult).symm⟩
  | some value =>
      obtain ⟨found, hfound, rfl⟩ := map_eq_ok.mp hresult
      exact .inr ⟨encode value, found, rfl, hfound, rfl⟩

theorem exists_mapM {α : Type} {decode : α → Decoded α} (field : Option α)
    (hdecode : ∀ value, ∃ found, decode value = .ok found) :
    ∃ result, field.mapM decode = .ok result := by
  cases field with
  | none => exact ⟨none, rfl⟩
  | some value =>
      obtain ⟨found, hfound⟩ := hdecode value
      exact ⟨some found, map_eq_ok.mpr ⟨found, hfound, rfl⟩⟩

theorem mapM_eq_self_iff {α : Type} {decode : α → Decoded α} {field : Option α} :
    field.mapM decode = .ok field ↔ ∀ value, field = some value → decode value = .ok value := by
  cases field with
  | none => exact iff_of_true rfl nofun
  | some value =>
      refine map_eq_ok.trans ⟨?_, fun hall => ⟨value, hall value rfl, rfl⟩⟩
      rintro ⟨found, hfound, hsame⟩ own hown
      obtain rfl := Option.some.inj hown
      rwa [Option.some.inj hsame] at hfound

/-- A field that is encoded and decoded on its own is also read back from an object. -/
theorem decodeOptional_encoded {α : Type} {members : Members} {key : String}
    {decode : Json → Decoded α} {encode : α → Json} {field : Option α}
    (hmember : members.get? key = field.map encode)
    (hfield : ∀ value, field = some value → decode (encode value) = .ok value) :
    decodeOptional members key decode = .ok field :=
  decodeOptional_of_mapM hmember (mapM_eq_self_iff.mpr hfield)

theorem mapM_decodeString (texts : List String) :
    (texts.map Json.string).mapM Decode.string = .ok texts := by
  induction texts with
  | nil => rfl
  | cons text rest ih =>
      rw [List.map_cons, mapM_cons_eq_ok]
      exact ⟨text, rest, rfl, ih, rfl⟩

theorem decodeTags_encodeTags (tags : List String) : decodeTags (encodeTags tags) = .ok tags :=
  bind_eq_ok.mpr ⟨_, rfl, mapM_decodeString tags⟩

theorem decodeCode_toJson (code : QueryCode) : decodeCode code.toJson = .ok (some code) := by
  cases code <;> rfl

theorem decodeNick_encodeNick (nick : Option String) : decodeNick (encodeNick nick) = .ok nick := by
  cases nick <;> rfl

/-- **Reading back.**  From the members that encoding writes all fields but the value and the pick
are read as they are, and these two as what their own encoding is decoded to. -/
theorem reads_members_of_isTyped {query : Query} (hquery : query.IsTyped) {validating : Bool}
    {value : Option QueryValue} {pick : Option QueryPick}
    (hvalue : query.value.mapM (fun own => QueryValue.ofJson own.toJson) = .ok value)
    (hpick : query.pick.mapM (fun own => QueryPick.ofJson own.toJson validating) = .ok pick) :
    Reads query.members validating { query with value, pick } where
  name := requiredText_eq_ok.mpr (by simp [get?_members])
  limit := by
    have hmember : query.members.get? "limit" = some (.number (.integer query.limit)) := by
      simp [get?_members]
    refine ⟨some query.limit, decodeOptional_eq_ok.mpr (.inr ⟨_, _, hmember, ?_, rfl⟩), rfl⟩
    exact Decode.integer_eq_ok.mpr (Decode.integer?_of_isSigned hquery.limit)
  tags := decodeOptional_encoded (by simp [get?_members]) fun tags _ => decodeTags_encodeTags tags
  code := by
    refine ⟨query.code.map some, ?_, by cases query.code <;> rfl⟩
    cases hcode : query.code with
    | none => exact decodeOptional_eq_ok.mpr (.inl ⟨by simp [get?_members, hcode], rfl⟩)
    | some code =>
        refine decodeOptional_eq_ok.mpr (.inr ⟨code.toJson, some code, ?_, ?_, rfl⟩)
        · simp [get?_members, hcode]
        · exact decodeCode_toJson code
  value := decodeOptional_of_mapM (by simp [get?_members]) hvalue
  nick := bind_eq_ok.mpr
    ⟨_, Decode.required_eq_ok.mpr (by simp [get?_members]), decodeNick_encodeNick query.nick⟩
  pick := decodeOptional_of_mapM (by simp [get?_members]) hpick

/-- What has been read from an object is read again from the members that encoding writes. -/
theorem reads_members {input : Members} {validating : Bool} {query : Query}
    (hquery : Reads input validating query) : Reads query.members validating query := by
  refine reads_members_of_isTyped hquery.isTyped (mapM_eq_self_iff.mpr fun value hfield => ?_)
    (mapM_eq_self_iff.mpr fun pick hfield => ?_)
  · obtain ⟨own, -, hvalue⟩ := decodeOptional_some (hfield ▸ hquery.value)
    exact QueryValue.ofJson_toJson hvalue
  · obtain ⟨own, -, hpick⟩ := decodeOptional_some (hfield ▸ hquery.pick)
    exact QueryPick.ofJson_toJson hpick

/-! ## Validity of what is written -/

/-- What has been read from the members of a valid query is written as a valid query. -/
theorem valid_members {input : Members} {validating : Bool} {query : Query}
    (hvalid : Valid input) (hquery : Reads input validating query) : Valid query.members where
  name := by
    obtain ⟨own, hown, text, rfl, hlength⟩ := hvalid.name
    have hname := requiredText_eq_ok.mp hquery.name
    rw [hown, Option.some.injEq, Json.string.injEq] at hname
    exact ⟨_, by simp [get?_members], query.name, rfl, hname ▸ hlength⟩
  limit := by
    intro value hvalue
    rw [get?_members] at hvalue
    obtain rfl : .number (.integer query.limit) = value := by simpa using hvalue
    -- the limit as written may be a float, but it is decoded to a positive integer
    have hone : 1 ≤ query.limit := by
      obtain ⟨limit, hlimit, hfield⟩ := hquery.limit
      rw [hfield]
      cases limit with
      | none => decide
      | some own =>
          obtain ⟨written, hwritten, hown⟩ := decodeOptional_some hlimit
          obtain ⟨number, rfl, hintegral, hminimum⟩ := hvalid.limit written hwritten
          exact Decode.one_le_integer hintegral hminimum (Decode.integer_eq_ok.mp hown)
    refine ⟨_, rfl, rfl, ?_⟩
    rw [JsonNumber.compareValue, Ordering.isGE_iff_ne_lt, compare_lt_iff_lt]
    exact not_lt.mpr hone
  tags := by
    intro value hvalue
    rw [get?_members] at hvalue
    obtain ⟨tags, -, rfl⟩ : ∃ tags, query.tags = some tags ∧ encodeTags tags = value := by
      simpa using hvalue
    exact ⟨tags, rfl⟩
  code := by
    intro value hvalue
    rw [get?_members] at hvalue
    obtain ⟨code, -, rfl⟩ : ∃ code, query.code = some code ∧ code.toJson = value := by
      simpa using hvalue
    exact .inr ⟨code, by cases code <;> decide, by cases code <;> decide⟩
  value := by
    intro value hvalue
    rw [get?_members] at hvalue
    obtain ⟨own, hown, rfl⟩ : ∃ own, query.value = some own ∧ own.toJson = value := by
      simpa using hvalue
    obtain ⟨written, hwritten, hdecoded⟩ := decodeOptional_some (hown ▸ hquery.value)
    exact QueryValue.hasType_toJson hdecoded (hvalid.value written hwritten)
  nick := by
    refine ⟨encodeNick query.nick, by simp [get?_members], ?_⟩
    cases query.nick with
    | none => exact .inl rfl
    | some nick => exact .inr ⟨nick, rfl⟩
  pick := by
    intro value hvalue
    rw [get?_members] at hvalue
    obtain ⟨own, hown, rfl⟩ : ∃ own, query.pick = some own ∧ own.toJson = value := by
      simpa using hvalue
    obtain ⟨written, hwritten, hdecoded⟩ := decodeOptional_some (hown ▸ hquery.pick)
    exact QueryPick.acceptsFoo_toJson hdecoded (hvalid.pick written hwritten)

/-- **Decoding is stable after one pass.**  Whatever input a query has been decoded from, its own
encoding is decoded to the same query, with and without validation; and when the input has been
validated, the schema finds nothing wrong with the encoding either. -/
theorem ofJson_toJson_of_ofJson {input : Json} {validating : Bool} {query : Query}
    (hquery : ofJson input validating = .ok query) :
    ofJson query.toJson validating = .ok query ∧
      (validating → violations schema query.toJson = []) := by
  obtain ⟨hvalidated, members, rfl, hreads⟩ := ofJson_eq_ok.mp hquery
  -- encoding drops what is not declared, so validity is shown of the written members anew
  have hvalid : validating → validate schema query.toJson = .ok () := by
    intro hvalidating
    obtain ⟨own, hown, hmembers⟩ := validate_schema_eq_ok.mp (hvalidated hvalidating)
    obtain rfl := Json.object.inj hown
    exact validate_schema_eq_ok.mpr ⟨_, query.toJson_eq, valid_members hmembers hreads⟩
  refine ⟨?_, fun hvalidating => (validate_eq_ok of?_schema).mp (hvalid hvalidating)⟩
  exact ofJson_eq_ok.mpr ⟨hvalid, _, query.toJson_eq, reads_members hreads⟩

/-- Members of valid input that no query is encoded as: a key that is not declared, the limit
`2.0`, the code `null`, an integer past 64 bits with sign and a pick that both alternatives
accept. -/
def looseMembers : Members := [
  ("extra", .bool true),
  ("pick", .object [("bar", .string "b"), ("foo", .string "a")]),
  ("limit", .number (.float ⟨false, 0x10000000000000, -51⟩)),
  ("code", .null),
  ("value", .number (.integer 0x8000000000000000)),
  ("nick", .null),
  ("name", .string "n")]

/-- The query that these members are decoded to. -/
def looseQuery : Query :=
  { new "n" none with
    limit := 2
    value := some (.unmatched (.number (.integer 0x8000000000000000)))
    pick := some (.foo ⟨"a"⟩) }

theorem ofJson_toJson_looseQuery :
    ofJson (.object looseMembers) true = .ok looseQuery ∧
      ofJson looseQuery.toJson true = .ok looseQuery ∧
        violations schema looseQuery.toJson = [] := by
  have hinput : violations schema (.object looseMembers) = [] :=
    List.isEmpty_iff.mp (by decide +kernel)
  have hlimit : Decode.integer? (.number (.float ⟨false, 0x10000000000000, -51⟩)) = some 2 := by
    decide +kernel
  have hvalue : Decode.isInteger (.number (.integer 0x8000000000000000)) = false := by
    decide +kernel
  have hreads : Reads looseMembers true looseQuery := {
    name := rfl
    limit := ⟨some 2,
      decodeOptional_eq_ok.mpr (.inr ⟨_, 2, rfl, Decode.integer_eq_ok.mpr hlimit, rfl⟩), rfl⟩
    tags := rfl
    code := ⟨some none, rfl, rfl⟩
    value := by
      refine decodeOptional_eq_ok.mpr (.inr ⟨_, _, rfl, ?_, rfl⟩)
      rw [QueryValue.ofJson, hvalue]
      rfl
    nick := rfl
    pick := decodeOptional_eq_ok.mpr (.inr ⟨_, _, rfl, QueryPick.ofJson_object rfl true, rfl⟩) }
  have hquery : ofJson (.object looseMembers) true = .ok looseQuery :=
    ofJson_eq_ok.mpr ⟨fun _ => (validate_eq_ok of?_schema).mpr hinput, _, rfl, hreads⟩
  obtain ⟨hagain, hvalid⟩ := ofJson_toJson_of_ofJson hquery
  exact ⟨hquery, hagain, hvalid rfl⟩

end Query

end SchemaTypes
