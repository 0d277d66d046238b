import SchemaTypes.Proofs.Query.RoundTrip

/-!
# Changing one field of a valid query

Setting a field checks the new value where the schema asks for more than the type of the field.
The value and the pick are not checked: their types hold what no alternative accepts as it is, so
that a query can be made invalid through them, and through nothing else.

* `Query.validate_toJson_eq_ok`: the fields of a query whose encoding is valid.
* `Query.Change.apply_eq_ok`: which calls return, and the query that they return.
* `Query.sound_set_iff`: one call.
* `Query.sound_of_foldlM`: a run of calls.
* `Query.validate_toJson_apply_iff`: when a call on a valid query returns a valid query.
-/

namespace SchemaTypes

open Outcome

/-! ## Payloads that are held as they are -/

namespace QueryValue

/-- The schema of values accepts what is held.  Nothing ensures this of a value that is held as it
is. -/
def Fits : QueryValue → Prop
  | .unmatched input => input.hasType "integer" ∨ ∃ text, input = .string text
  | _ => True

theorem fits_iff {value : QueryValue} :
    value.Fits ↔ value.toJson.hasType "integer" ∨ ∃ text, value.toJson = .string text := by
  cases value with
  | integer number => exact iff_of_true trivial (.inl rfl)
  | text content => exact iff_of_true trivial (.inr ⟨content, rfl⟩)
  | unmatched input => exact Iff.rfl

end QueryValue

namespace QueryPick

/-- The schema of picks accepts what is held.  Nothing ensures this of a value that is held as it
is. -/
def Fits : QueryPick → Prop
  | .unmatched input => ∃ members : Members, input = .object members ∧
      ∃ text, members.get? "foo" = some (.string text)
  | _ => True

theorem fits_iff {pick : QueryPick} : pick.Fits ↔ acceptsFoo pick.toJson := by
  cases pick with
  | foo value =>
      exact iff_of_true trivial (acceptsFoo_iff.mpr ⟨_, rfl, value.foo, by simp⟩)
  | fooBar value =>
      exact iff_of_true trivial (acceptsFoo_iff.mpr ⟨_, rfl, value.foo, by simp⟩)
  | unmatched input => exact acceptsFoo_iff.symm

end QueryPick

namespace Query

/-! ## Fields of valid queries -/

/-- What the schema asks of the fields of a query beyond their types. -/
structure Sound (query : Query) : Prop where
  name : 1 ≤ query.name.length
  limit : 1 ≤ query.limit
  value : ∀ value, query.value = some value → value.Fits
  pick : ∀ pick, query.pick = some pick → pick.Fits

theorem isGE_compareValue_one {limit : Int} :
    (JsonNumber.compareValue (.integer limit) (.integer 1)).isGE ↔ 1 ≤ limit := by
  rw [JsonNumber.compareValue, Ordering.isGE_iff_ne_lt, ← not_lt]
  exact not_congr compare_lt_iff_lt

theorem Sound.of_valid_members {query : Query} (hvalid : Valid query.members) : query.Sound where
  name := by
    obtain ⟨own, hown, text, rfl, hlength⟩ := hvalid.name
    obtain rfl : query.name = text := by simpa [get?_members] using hown
    exact hlength
  limit := by
    have hmember : query.members.get? "limit" = some (.number (.integer query.limit)) := by
      simp [get?_members]
    obtain ⟨number, hnumber, -, hminimum⟩ := hvalid.limit _ hmember
    obtain rfl := Json.number.inj hnumber
    exact isGE_compareValue_one.mp hminimum
  value value hfield :=
    QueryValue.fits_iff.mpr (hvalid.value value.toJson (by simp [get?_members, hfield]))
  pick pick hfield :=
    QueryPick.fits_iff.mpr (hvalid.pick pick.toJson (by simp [get?_members, hfield]))

theorem Sound.valid_members {query : Query} (hsound : query.Sound) : Valid query.members where
  name := ⟨_, by simp [get?_members], query.name, rfl, hsound.name⟩
  limit := by
    intro value hvalue
    obtain rfl : .number (.integer query.limit) = value := by simpa [get?_members] using hvalue
    exact ⟨_, rfl, rfl, isGE_compareValue_one.mpr hsound.limit⟩
  tags := by
    intro value hvalue
    obtain ⟨tags, -, rfl⟩ : ∃ tags, query.tags = some tags ∧ encodeTags tags = value := by
      simpa [get?_members] using hvalue
    exact ⟨tags, rfl⟩
  code := by
    intro value hvalue
    obtain ⟨code, -, rfl⟩ : ∃ code, query.code = some code ∧ code.toJson = value := by
      simpa [get?_members] using hvalue
    exact .inr ⟨code, by cases code <;> decide, by cases code <;> decide⟩
  value := by
    intro value hvalue
    obtain ⟨own, hown, rfl⟩ : ∃ own, query.value = some own ∧ own.toJson = value := by
      simpa [get?_members] using hvalue
    exact QueryValue.fits_iff.mp (hsound.value own hown)
  nick := by
    refine ⟨encodeNick query.nick, by simp [get?_members], ?_⟩
    cases query.nick with
    | none => exact .inl rfl
    | some nick => exact .inr ⟨nick, rfl⟩
  pick := by
    intro value hvalue
    obtain ⟨own, hown, rfl⟩ : ∃ own, query.pick = some own ∧ own.toJson = value := by
      simpa [get?_members] using hvalue
    exact QueryPick.fits_iff.mp (hsound.pick own hown)

/-- **Fields of valid queries.**  The encoding of a query is valid when its name is not empty, its
limit is positive, and its value and pick are accepted. -/
theorem validate_toJson_eq_ok {query : Query} :
    validate schema query.toJson = .ok () ↔ query.Sound := by
  rw [validate_schema_eq_ok]
  constructor
  · rintro ⟨members, hmembers, hvalid⟩
    obtain rfl : query.members = members := Json.object.inj hmembers
    exact .of_valid_members hvalid
  · exact fun hsound => ⟨query.members, query.toJson_eq, hsound.valid_members⟩

theorem sound_new_iff {name : String} {nick : Option String} :
    (new name nick).Sound ↔ 1 ≤ name.length :=
  ⟨Sound.name, fun hname => ⟨hname, show 1 ≤ defaultLimit by decide, nofun, nofun⟩⟩

/-! ## What calls check -/

/-- The check of one property finds nothing wrong when the schema of the property accepts the
value. -/
theorem validateProperty_eq_ok {key : String} {document declared value : Json} {accepted : Prop}
    (hdeclared : propertySchema document key = declared)
    (hschema : SchemaFault.of? declared = none)
    (haccepted : ∀ root fuel, Check.withFuel root (fuel + 3) declared value = [] ↔ accepted) :
    validateProperty document key value = .ok () ↔ accepted := by
  subst hdeclared
  have hrequire : requireSchema (propertySchema document key) = .ok () := by
    rw [requireSchema, hschema]
  -- a property is checked like a document of its own
  have hsame : validateProperty document key value = .ok () ↔
      validate (propertySchema document key) value = .ok () := by
    constructor
    · intro hchecked
      obtain ⟨_, -, hchecked⟩ := bind_eq_ok.mp hchecked
      exact bind_eq_ok.mpr ⟨(), hrequire, mapError_eq_ok.mp hchecked⟩
    · intro hvalid
      obtain ⟨_, -, hvalid⟩ := bind_eq_ok.mp hvalid
      exact bind_eq_ok.mpr ⟨(), hrequire, mapError_eq_ok.mpr hvalid⟩
  obtain ⟨fuel, hfuel⟩ := exists_checkFuel (propertySchema document key) value
  rw [hsame, validate_eq_ok hschema, violations, hfuel]
  exact haccepted _ fuel

theorem validateProperty_name {text : String} :
    validateProperty schema "name" (.string text) = .ok () ↔ 1 ≤ text.length := by
  refine validateProperty_eq_ok rfl (Option.isNone_iff_eq_none.mp ?_) fun root fuel => ?_
  · decide +kernel
  refine Check.withFuel_nameSchema.trans ?_
  simp only [Json.string.injEq, exists_eq_left']

theorem validateProperty_limit {limit : Int} :
    validateProperty schema "limit" (.number (.integer limit)) = .ok () ↔ 1 ≤ limit := by
  refine validateProperty_eq_ok rfl (Option.isNone_iff_eq_none.mp ?_) fun root fuel => ?_
  · decide +kernel
  refine Check.withFuel_limitSchema.trans ?_
  rw [← isGE_compareValue_one]
  constructor
  · rintro ⟨number, hnumber, -, hminimum⟩
    obtain rfl := Json.number.inj hnumber
    exact hminimum
  · exact fun hminimum => ⟨_, rfl, rfl, hminimum⟩

theorem validateProperty_tags (tags : List String) :
    validateProperty schema "tags" (encodeTags tags) = .ok () := by
  refine (validateProperty_eq_ok rfl (Option.isNone_iff_eq_none.mp ?_) fun root fuel =>
    Check.withFuel_tagsSchema).mpr ⟨tags, rfl⟩
  decide +kernel

theorem validateProperty_nick (nick : Option String) :
    validateProperty schema "nick" (encodeNick nick) = .ok () := by
  have hnick : encodeNick nick = .null ∨ ∃ text, encodeNick nick = .string text := by
    cases nick with
    | none => exact .inl rfl
    | some text => exact .inr ⟨text, rfl⟩
  refine (validateProperty_eq_ok rfl (Option.isNone_iff_eq_none.mp ?_) fun root fuel =>
    Check.withFuel_nickSchema).mpr hnick
  decide +kernel

/-! ## One call -/

namespace Change

/-- What the schema asks of an argument that is checked. -/
def IsChecked : Change → Prop
  | .name text => 1 ≤ text.length
  | .limit number => 1 ≤ number
  | _ => True

/-- What the schema asks of an argument that is not checked. -/
def Fits : Change → Prop
  | .value held => held.Fits
  | .pick held => held.Fits
  | _ => True

/-- The query with the field changed, whatever the argument is. -/
def set (query : Query) : Change → Query
  | .name text => { query with name := text }
  | .limit number => { query with limit := number }
  | .noLimit => query.withoutLimit
  | .tags texts => { query with tags := some texts }
  | .noTags => query.withoutTags
  | .code named => query.withCode named
  | .noCode => query.withoutCode
  | .value held => query.withValue held
  | .noValue => query.withoutValue
  | .nick text => { query with nick := text }
  | .pick held => query.withPick held
  | .noPick => query.withoutPick

/-- Whether a call returns depends on its argument alone, and what it returns is the query with
the field changed. -/
theorem apply_eq_ok {query result : Query} {change : Change} :
    change.apply query = .ok result ↔ change.IsChecked ∧ change.set query = result := by
  -- a check followed by the change
  have hchecked : ∀ {key : String} {value : Json} {accepted : Prop} {changed : Query},
      (validateProperty schema key value = .ok () ↔ accepted) →
      ((do validateProperty schema key value; return changed : Decoded Query) = .ok result ↔
        accepted ∧ changed = result) := by
    intro key value accepted changed haccepted
    rw [bind_eq_ok, ← haccepted]
    constructor
    · rintro ⟨_, hvalid, hresult⟩
      exact ⟨hvalid, pure_eq_ok.mp hresult⟩
    · rintro ⟨hvalid, hresult⟩
      exact ⟨(), hvalid, pure_eq_ok.mpr hresult⟩
  cases change with
  | name name => exact hchecked validateProperty_name
  | limit limit => exact hchecked validateProperty_limit
  | tags tags => exact hchecked (iff_of_true (validateProperty_tags tags) trivial)
  | nick nick => exact hchecked (iff_of_true (validateProperty_nick nick) trivial)
  | noLimit | noTags | code | noCode | value | noValue | pick | noPick =>
      exact (iff_of_eq (Except.ok.injEq _ _)).trans (iff_of_eq (true_and _)).symm

end Change

/-- One call keeps the fields of a query sound when its argument is as the schema asks, and at no
other time. -/
theorem sound_set_iff {query : Query} {change : Change} (hquery : query.Sound) :
    (change.set query).Sound ↔ change.IsChecked ∧ change.Fits := by
  -- a change touches one field, and the other ones stay as sound as they were
  obtain ⟨hname, hlimit, hvalue, hpick⟩ := hquery
  constructor
  · intro hsound
    cases change with
    | name name => exact ⟨hsound.name, trivial⟩
    | limit limit => exact ⟨hsound.limit, trivial⟩
    | value value => exact ⟨trivial, hsound.value value rfl⟩
    | pick pick => exact ⟨trivial, hsound.pick pick rfl⟩
    | noLimit | tags | noTags | code | noCode | noValue | nick | noPick => exact ⟨trivial, trivial⟩
  · rintro ⟨hchecked, hfits⟩
    cases change with
    | name name => exact ⟨hchecked, hlimit, hvalue, hpick⟩
    | limit limit => exact ⟨hname, hchecked, hvalue, hpick⟩
    | noLimit => exact ⟨hname, show 1 ≤ defaultLimit by decide, hvalue, hpick⟩
    | value value =>
        refine ⟨hname, hlimit, fun own hown => ?_, hpick⟩
        obtain rfl := Option.some.inj hown
        exact hfits
    | noValue => exact ⟨hname, hlimit, nofun, hpick⟩
    | pick pick =>
        refine ⟨hname, hlimit, hvalue, fun own hown => ?_⟩
        obtain rfl := Option.some.inj hown
        exact hfits
    | noPick => exact ⟨hname, hlimit, hvalue, nofun⟩
    | tags | noTags | code | noCode | nick => exact ⟨hname, hlimit, hvalue, hpick⟩

/-- A run of calls keeps a query valid when no argument is held as it is that the schema does not
accept. -/
theorem sound_of_foldlM {query result : Query} {changes : List Change} (hquery : query.Sound)
    (hchanges : ∀ change ∈ changes, change.Fits)
    (hresult : changes.foldlM (fun current change => change.apply current) query = .ok result) :
    result.Sound := by
  induction changes generalizing query with
  | nil => exact pure_eq_ok.mp hresult ▸ hquery
  | cons change rest ih =>
      rw [List.foldlM_cons] at hresult
      obtain ⟨next, hnext, hrest⟩ := bind_eq_ok.mp hresult
      obtain ⟨hchecked, rfl⟩ := Change.apply_eq_ok.mp hnext
      have hfits := hchanges change List.mem_cons_self
      refine ih (sound_set_iff hquery |>.mpr ⟨hchecked, hfits⟩) (fun other hother => ?_) hrest
      exact hchanges other (List.mem_cons_of_mem change hother)

/-- **Calls on valid queries.**  When a call on a valid query returns, the query that it returns is
valid as well, unless the argument is a value or a pick that is held as it is and that the schema
does not accept. -/
theorem validate_toJson_apply_iff {query result : Query} {change : Change}
    (hquery : validate schema query.toJson = .ok ()) (hresult : change.apply query = .ok result) :
    validate schema result.toJson = .ok () ↔ change.Fits := by
  obtain ⟨hchecked, rfl⟩ := Change.apply_eq_ok.mp hresult
  rw [validate_toJson_eq_ok, sound_set_iff (validate_toJson_eq_ok.mp hquery)]
  exact and_iff_right hchecked

/-- A valid query stays valid with an integer past 64 bits with sign as its value, which is held as
it is. -/
theorem validate_toJson_withValue :
    validate schema (new "n" none).toJson = .ok () ∧
      validate schema ((new "n" none).withValue
        (.unmatched (.number (.integer 0x8000000000000000)))).toJson = .ok () := by
  have hnew : validate schema (new "n" none).toJson = .ok () :=
    validate_toJson_eq_ok.mpr (sound_new_iff.mpr (by decide))
  have happly : (Change.value (.unmatched (.number (.integer 0x8000000000000000)))).apply
      (new "n" none) = .ok _ := rfl
  exact ⟨hnew, (validate_toJson_apply_iff hnew happly).mpr (.inl rfl)⟩

/-- A value that no alternative accepts makes a valid query invalid. -/
theorem not_validate_toJson_withValue :
    validate schema (new "n" none).toJson = .ok () ∧
      validate schema ((new "n" none).withValue (.unmatched (.bool true))).toJson ≠ .ok () := by
  refine ⟨validate_toJson_eq_ok.mpr (sound_new_iff.mpr (by decide)), fun hvalid => ?_⟩
  rcases (validate_toJson_eq_ok.mp hvalid).value _ rfl with htype | ⟨text, htext⟩
  · cases htype
  · cases htext

end Query

end SchemaTypes
