import SchemaTypes.Proofs.Query.Normalization

/-!
# Valid queries are decoded, unless their limit or their code is refused

The schema of queries takes numbers for what they are worth, and the decoder does not.  Any number
without a fraction is an integer to the schema, whereas the limit of a query is an integer of 64
bits with sign.  The schema lists the code `1` and accepts `1.0` for it, whereas a code is decoded
if it is one of the literals as they are written.  All other input that the schema accepts is
decoded, and these two failures are told by a message about the limit or the code.

* `QueryValue.exists_ofJson` and `QueryPick.exists_ofJson`: alternatives are always decoded.
* `Query.exists_decodeLimit`, `Query.exists_decodeTags`, `Query.exists_decodeCode`: what can be read
  from the members of a valid query, one lemma for each field that is more than a text.
* `Query.exists_reads`: the fields together.
* `Query.ofJson_of_validate`: decoding after validation.
-/

namespace SchemaTypes

open Outcome

/-! ## Decoding single members -/

/-- Every value is decoded, since one that no alternative accepts is kept. -/
theorem QueryValue.exists_ofJson (input : Json) : ∃ value, ofJson input = .ok value := by
  unfold ofJson
  split
  · rename_i hinteger
    obtain ⟨number, hnumber⟩ := Option.isSome_iff_exists.mp hinteger
    exact ⟨.integer number, bind_eq_ok.mpr ⟨number, Decode.integer_eq_ok.mpr hnumber, rfl⟩⟩
  · split
    · rename_i hstring
      obtain ⟨text, htext⟩ := Option.isSome_iff_exists.mp hstring
      cases input <;> cases htext
      exact ⟨.text text, rfl⟩
    · exact ⟨.unmatched input, rfl⟩

theorem QueryPick.exists_ofJson (input : Json) (validating : Bool) :
    ∃ pick, ofJson input validating = .ok pick := by
  by_cases hfoo : acceptsFoo input
  · obtain ⟨members, rfl, text, htext⟩ := acceptsFoo_iff.mp hfoo
    exact ⟨_, ofJson_object htext validating⟩
  · have hfooBar : ¬acceptsFooBar input :=
      fun haccepts => hfoo (acceptsFoo_of_acceptsFooBar haccepts)
    rw [ofJson, if_neg hfoo, if_neg hfooBar]
    exact ⟨.unmatched input, rfl⟩

namespace Query

/-- Input whose limit, if there is one, an integer can be read from. -/
def HasReadableLimit (input : Json) : Prop :=
  ∀ limit, input.get? "limit" = some (.number limit) → Decode.Readable limit

/-- Input whose code is not written as a double. -/
def HasExactCode (input : Json) : Prop :=
  ∀ value, input.get? "code" ≠ some (.number (.float value))

/-- Why valid input is refused all the same.  The limit is read before the code, so its failure is
the one that is told. -/
inductive Refused (input : Json) : ValidationFailure → Prop
  | limit {number : JsonNumber} (hlimit : input.get? "limit" = some (.number number))
      (hunreadable : ¬Decode.Readable number) :
      Refused input ((ValidationFailure.unexpected "integer" (.number number)).under "limit")
  | code {value : Binary64} (hlimit : HasReadableLimit input)
      (hcode : input.get? "code" = some (.number (.float value))) :
      Refused input
        ((ValidationFailure.ofMessage (value.jsonText ++ " is not a valid QueryCode")).under "code")

/-- A literal that is not written as a double is a code when it has the value of one. -/
theorem exists_decodeCode {input : Json} (hfloat : ∀ x, input ≠ .number (.float x))
    (hinput : input = .null ∨ ∃ code ∈ QueryCode.all, input.sameValue code.toJson) :
    ∃ code, decodeCode input = .ok code := by
  rcases hinput with rfl | ⟨code, -, hsame⟩
  · exact ⟨none, rfl⟩
  · refine ⟨some code, ?_⟩
    have hexact : input = code.toJson := by
      cases input with
      | number number =>
          cases number with
          | integer value =>
              cases code <;>
                simp_all [QueryCode.toJson, Json.sameValue, JsonNumber.compareValue]
          | float x => exact absurd rfl (hfloat x)
      | string text => cases code <;> simp_all [QueryCode.toJson, Json.sameValue]
      | null | bool | array | object =>
          cases code <;> simp [QueryCode.toJson, Json.sameValue] at hsame
    rw [hexact]
    exact decodeCode_toJson code

/-- No literal is written as a double. -/
theorem decodeCode_float (value : Binary64) :
    decodeCode (.number (.float value)) =
      .error (.ofMessage (value.jsonText ++ " is not a valid QueryCode")) :=
  rfl

theorem exists_decodeOptional {α : Type} {members : Members} {key : String}
    {decode : Json → Decoded α}
    (hdecode : ∀ input, members.get? key = some input → ∃ value, decode input = .ok value) :
    ∃ field, decodeOptional members key decode = .ok field := by
  cases hmember : members.get? key with
  | none => exact ⟨none, decodeOptional_eq_ok.mpr (.inl ⟨hmember, rfl⟩)⟩
  | some input =>
      obtain ⟨value, hvalue⟩ := hdecode input hmember
      exact ⟨some value, decodeOptional_eq_ok.mpr (.inr ⟨input, value, hmember, hvalue, rfl⟩)⟩

/-- A member that is refused is refused as what stands under its key. -/
theorem decodeOptional_eq_error {α : Type} {members : Members} {key : String} {input : Json}
    {decode : Json → Decoded α} {failure : ValidationFailure}
    (hmember : members.get? key = some input) (hdecode : decode input = .error failure) :
    decodeOptional members key decode = .error (failure.under key) := by
  rw [decodeOptional, hmember]
  simp only [hdecode]
  rfl

section

variable {members : Members} (hvalid : Valid members)

include hvalid

theorem exists_decodeLimit (hlimit : HasReadableLimit (.object members)) :
    ∃ limit, decodeOptional members "limit" Decode.integer = .ok limit := by
  refine exists_decodeOptional fun input hinput => ?_
  obtain ⟨number, rfl, -⟩ := hvalid.limit input hinput
  obtain ⟨value, hvalue⟩ := Option.isSome_iff_exists.mp
    (Decode.isSome_integer?_iff.mpr ⟨number, rfl, hlimit number hinput⟩)
  exact ⟨value, Decode.integer_eq_ok.mpr hvalue⟩

theorem exists_decodeTags : ∃ tags, decodeOptional members "tags" decodeTags = .ok tags := by
  refine exists_decodeOptional fun input hinput => ?_
  obtain ⟨texts, rfl⟩ := hvalid.tags input hinput
  exact ⟨texts, decodeTags_encodeTags texts⟩

/-- **Reading a valid query.**  Every field can be read from the members of a valid query, when an
integer can be read from the limit and the code is not written as a double. -/
theorem exists_reads (hlimit : HasReadableLimit (.object members))
    (hcode : HasExactCode (.object members)) (validating : Bool) :
    ∃ query, Reads members validating query := by
  obtain ⟨_, hname, name, rfl, -⟩ := hvalid.name
  obtain ⟨limit, hlimit⟩ := exists_decodeLimit hvalid hlimit
  obtain ⟨tags, htags⟩ := exists_decodeTags hvalid
  obtain ⟨code, hcode⟩ : ∃ code, decodeOptional members "code" decodeCode = .ok code := by
    refine exists_decodeOptional fun input hinput => ?_
    exact exists_decodeCode (fun x hfloat => hcode x (hfloat ▸ hinput)) (hvalid.code input hinput)
  obtain ⟨value, hvalue⟩ : ∃ value,
      decodeOptional members "value" QueryValue.ofJson = .ok value :=
    exists_decodeOptional fun input _ => QueryValue.exists_ofJson input
  obtain ⟨nick, hnick⟩ : ∃ nick, Decode.required members "nick" >>= decodeNick = .ok nick := by
    obtain ⟨input, hinput, rfl | ⟨text, rfl⟩⟩ := hvalid.nick
    · exact ⟨none, bind_eq_ok.mpr ⟨_, Decode.required_eq_ok.mpr hinput, rfl⟩⟩
    · exact ⟨some text, bind_eq_ok.mpr ⟨_, Decode.required_eq_ok.mpr hinput, rfl⟩⟩
  obtain ⟨pick, hpick⟩ : ∃ pick,
      decodeOptional members "pick" (QueryPick.ofJson · validating) = .ok pick :=
    exists_decodeOptional fun input _ => QueryPick.exists_ofJson input validating
  exact ⟨⟨name, limit.getD defaultLimit, tags, code.join, value, nick, pick⟩,
    ⟨requiredText_eq_ok.mpr hname, ⟨limit, hlimit, rfl⟩, htags, ⟨code, hcode, rfl⟩, hvalue, hnick,
      hpick⟩⟩

end

/-! ## Decoding valid input -/

section

variable {members : Members} {validating : Bool} {failure : ValidationFailure} {name : String}
  (hvalid : validating → validate schema (.object members) = .ok ())
  (hname : requiredText members "name" = .ok name)

include hvalid hname

/-- The limit is read right after the name, so a limit that cannot be read is what is reported. -/
theorem ofJson_eq_error_of_limit
    (hlimit : decodeOptional members "limit" Decode.integer = .error failure) :
    ofJson (.object members) validating = .error failure := by
  cases validating with
  | false => simp [ofJson, Decode.object, hname, hlimit, bind, Except.bind]
  | true => simp [ofJson, Decode.object, hvalid rfl, hname, hlimit, bind, Except.bind]

/-- The code is read after the limit and the tags. -/
theorem ofJson_eq_error_of_code {limit : Option Int} {tags : Option (List String)}
    (hlimit : decodeOptional members "limit" Decode.integer = .ok limit)
    (htags : decodeOptional members "tags" decodeTags = .ok tags)
    (hcode : decodeOptional members "code" decodeCode = .error failure) :
    ofJson (.object members) validating = .error failure := by
  cases validating with
  | false => simp [ofJson, Decode.object, hname, hlimit, htags, hcode, bind, Except.bind]
  | true =>
      simp [ofJson, Decode.object, hvalid rfl, hname, hlimit, htags, hcode, bind, Except.bind]

end

/-- What valid input is refused for is what decoding reports. -/
theorem ofJson_of_refused {input : Json} (hvalid : validate schema input = .ok ())
    (validating : Bool) {failure : ValidationFailure} (hrefused : Refused input failure) :
    ofJson input validating = .error failure := by
  obtain ⟨members, rfl, hmembers⟩ := validate_schema_eq_ok.mp hvalid
  obtain ⟨_, hname, name, rfl, -⟩ := hmembers.name
  rw [← requiredText_eq_ok] at hname
  cases hrefused with
  | @limit number hlimit hunreadable =>
      refine ofJson_eq_error_of_limit (fun _ => hvalid) hname (decodeOptional_eq_error hlimit ?_)
      have hnone : Decode.integer? (.number number) = none := by
        rw [← Option.not_isSome_iff_eq_none, Decode.isSome_integer?_iff]
        rintro ⟨own, hsame, hreadable⟩
        exact hunreadable (Json.number.inj hsame ▸ hreadable)
      simp only [Decode.integer, hnone]
  | code hlimit hcode =>
      obtain ⟨limit, hlimit⟩ := exists_decodeLimit hmembers hlimit
      obtain ⟨tags, htags⟩ := exists_decodeTags hmembers
      exact ofJson_eq_error_of_code (fun _ => hvalid) hname hlimit htags
        (decodeOptional_eq_error hcode (decodeCode_float _))

/-- **Valid queries are decoded**, with and without validation, when an integer can be read from
their limit and their code is not written as a double.  Otherwise decoding says what is wrong with
the limit or the code, and it fails in no other way. -/
theorem ofJson_of_validate {input : Json} (hvalid : validate schema input = .ok ())
    (validating : Bool) :
    ((∃ query, ofJson input validating = .ok query) ↔
        HasReadableLimit input ∧ HasExactCode input) ∧
      ∀ failure, ofJson input validating = .error failure ↔ Refused input failure := by
  -- input is refused, or else it has all that is read
  have houtcome : (∃ failure, Refused input failure) ∨
      (HasReadableLimit input ∧ HasExactCode input) ∧
        ∃ query, ofJson input validating = .ok query := by
    by_cases hlimit : HasReadableLimit input
    · by_cases hcode : HasExactCode input
      · obtain ⟨members, rfl, hmembers⟩ := validate_schema_eq_ok.mp hvalid
        obtain ⟨query, hreads⟩ := exists_reads hmembers hlimit hcode validating
        exact .inr ⟨⟨hlimit, hcode⟩, query,
          ofJson_eq_ok.mpr ⟨fun _ => hvalid, members, rfl, hreads⟩⟩
      · obtain ⟨value, hvalue⟩ := not_forall_not.mp hcode
        exact .inl ⟨_, .code hlimit hvalue⟩
    · obtain ⟨number, hnumber⟩ := not_forall.mp hlimit
      obtain ⟨hmember, hunreadable⟩ := Classical.not_imp.mp hnumber
      exact .inl ⟨_, .limit hmember hunreadable⟩
  have hrefuses : ∀ {failure}, Refused input failure →
      ¬(HasReadableLimit input ∧ HasExactCode input)
    | _, .limit hmember hunreadable, hexact => hunreadable (hexact.1 _ hmember)
    | _, .code _ hcode, hexact => hexact.2 _ hcode
  rcases houtcome with ⟨failure, hrefused⟩ | ⟨hexact, query, hquery⟩
  · have hfailure := ofJson_of_refused hvalid validating hrefused
    refine ⟨iff_of_false ?_ (hrefuses hrefused), fun other => ?_⟩
    · rintro ⟨query, hquery⟩
      rw [hfailure] at hquery
      cases hquery
    · refine ⟨fun hother => ?_, ofJson_of_refused hvalid validating⟩
      obtain rfl := Except.error.inj (hfailure.symm.trans hother)
      exact hrefused
  · refine ⟨iff_of_true ⟨query, hquery⟩ hexact, fun failure => iff_of_false ?_ ?_⟩
    · rw [hquery]
      nofun
    · exact fun hrefused => hrefuses hrefused hexact

/-- Members of valid input with the least limit past 64 bits with sign. -/
def wideMembers : Members := [
  ("name", .string "n"),
  ("limit", .number (.integer 0x8000000000000000)),
  ("nick", .null)]

/-- Members of valid input with the code `1.0`. -/
def floatMembers : Members := [
  ("name", .string "n"),
  ("code", .number (.float ⟨false, Binary64.leastNormal, -52⟩)),
  ("nick", .null)]

theorem validate_wideMembers : validate schema (.object wideMembers) = .ok () :=
  (validate_eq_ok of?_schema).mpr (List.isEmpty_iff.mp (by decide +kernel))

theorem validate_floatMembers : validate schema (.object floatMembers) = .ok () :=
  (validate_eq_ok of?_schema).mpr (List.isEmpty_iff.mp (by decide +kernel))

theorem refused_wideMembers :
    Refused (.object wideMembers) ⟨["limit: expected integer, found integer"]⟩ := by
  have hunreadable : ¬Decode.Readable (.integer 0x8000000000000000) := by
    simp [Decode.Readable, Decode.IsSigned, JsonNumber.greatestSigned]
  exact .limit rfl hunreadable

theorem refused_floatMembers :
    Refused (.object floatMembers) ⟨["code: 1.0 is not a valid QueryCode"]⟩ := by
  have htext : Binary64.jsonText ⟨false, Binary64.leastNormal, -52⟩ = "1.0" := by decide +kernel
  have hcode : Refused (.object floatMembers) _ := .code nofun rfl
  rw [htext] at hcode
  exact hcode

/-- Both kinds of failure, with and without validation. -/
theorem ofJson_of_validate_refused :
    validate schema (.object wideMembers) = .ok () ∧
      validate schema (.object floatMembers) = .ok () ∧
        ∀ validating,
          ofJson (.object wideMembers) validating =
              .error ⟨["limit: expected integer, found integer"]⟩ ∧
            ofJson (.object floatMembers) validating =
              .error ⟨["code: 1.0 is not a valid QueryCode"]⟩ := by
  refine ⟨validate_wideMembers, validate_floatMembers, fun validating => ⟨?_, ?_⟩⟩
  · exact ((ofJson_of_validate validate_wideMembers validating).2 _).mpr refused_wideMembers
  · exact ((ofJson_of_validate validate_floatMembers validating).2 _).mpr refused_floatMembers

/-- Not all valid input is decoded. -/
theorem not_ofJson_wideMembers :
    validate schema (.object wideMembers) = .ok () ∧
      ∀ validating query, ofJson (.object wideMembers) validating ≠ .ok query := by
  refine ⟨validate_wideMembers, fun validating query hquery => ?_⟩
  rw [ofJson_of_refused validate_wideMembers validating refused_wideMembers] at hquery
  cases hquery

end Query

end SchemaTypes
