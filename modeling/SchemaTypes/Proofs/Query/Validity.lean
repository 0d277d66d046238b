import SchemaTypes.Proofs.Validation.Keyword
import SchemaTypes.Query.Basic

/-!
# Valid queries

What the schema of queries asks for, member by member.

* `Query.Valid`: the members of a valid query.
* `Query.withFuel_schema`: the values that the schema accepts are the objects with such members.
* `Query.validate_schema_eq_ok`: the schema can be used for checks, so that nothing else keeps
  valid queries out.
-/

namespace SchemaTypes

namespace Check

variable {root value : Json} {fuel : Nat}

theorem withFuel_textSchema :
    withFuel root (fuel + 1) textSchema value = [] ↔ ∃ text, value = .string text := by
  rw [textSchema, withFuel_eq_nil, List.forall_mem_singleton, keyword_type, type_eq_nil]
  simp only [allowedTypes, List.mem_singleton, exists_eq_left, Json.hasType_string]

theorem withFuel_textsSchema {keys : List String} :
    withFuel root (fuel + 2) (textsSchema keys) value = [] ↔
      ∃ members : Members, value = .object members ∧
        ∀ key ∈ keys, ∃ text, members.get? key = some (.string text) := by
  have hshape :=
    @objectSchema_eq_nil root value (fuel + 1) [] (keys.map (·, textSchema)) keys (by simp)
  rw [List.nil_append, ← textsSchema] at hshape
  rw [hshape]
  refine exists_congr fun members => and_congr_right fun _ => ?_
  rw [List.forall_mem_map]
  constructor
  · rintro ⟨hdeclared, hrequired⟩ key hkey
    obtain ⟨child, hchild⟩ := Option.isSome_iff_exists.mp (hrequired key hkey)
    obtain ⟨text, rfl⟩ := withFuel_textSchema.mp (hdeclared key hkey child hchild)
    exact ⟨text, hchild⟩
  · intro htexts
    refine ⟨fun key hkey child hchild => ?_, fun key hkey => ?_⟩
    · obtain ⟨text, htext⟩ := htexts key hkey
      rw [hchild, Option.some.injEq] at htext
      exact withFuel_textSchema.mpr ⟨text, htext⟩
    · obtain ⟨text, htext⟩ := htexts key hkey
      rw [Members.contains, htext, Option.isSome_some]

/-! ## Schemas of the members -/

theorem withFuel_nameSchema :
    withFuel root (fuel + 1)
        (.object [("type", .string "string"), ("minLength", .number (.integer 1))]) value = [] ↔
      ∃ text, value = .string text ∧ 1 ≤ text.length := by
  rw [withFuel_eq_nil, List.forall_mem_cons, List.forall_mem_singleton, keyword_type,
    keyword_minLength, type_eq_nil]
  simp only [allowedTypes, List.mem_singleton, exists_eq_left, Json.hasType_string]
  constructor
  · rintro ⟨⟨text, rfl⟩, hlength⟩
    exact ⟨text, rfl, minLength_eq_nil.mp hlength⟩
  · rintro ⟨text, rfl, hlength⟩
    exact ⟨⟨text, rfl⟩, minLength_eq_nil.mpr hlength⟩

theorem withFuel_limitSchema :
    withFuel root (fuel + 1)
        (.object [("type", .string "integer"), ("minimum", .number (.integer 1)),
          ("default", .number (.integer 10000))]) value = [] ↔
      ∃ number : JsonNumber, value = .number number ∧ number.isIntegral ∧
        (number.compareValue (.integer 1)).isGE := by
  rw [withFuel_eq_nil, List.forall_mem_cons, List.forall_mem_cons, List.forall_mem_singleton,
    keyword_type, keyword_minimum, keyword_default, type_eq_nil]
  simp only [allowedTypes, List.mem_singleton, exists_eq_left, Json.hasType_integer, and_true]
  constructor
  · rintro ⟨⟨number, rfl, hintegral⟩, hminimum⟩
    exact ⟨number, rfl, hintegral, minimum_eq_nil.mp hminimum⟩
  · rintro ⟨number, rfl, hintegral, hminimum⟩
    exact ⟨⟨number, rfl, hintegral⟩, minimum_eq_nil.mpr hminimum⟩

theorem withFuel_tagsSchema :
    withFuel root (fuel + 2)
        (.object [("type", .string "array"), ("items", textSchema)]) value = [] ↔
      ∃ texts : List String, value = .array (texts.map .string) := by
  rw [withFuel_eq_nil, List.forall_mem_cons, List.forall_mem_singleton, keyword_type,
    keyword_items, type_eq_nil]
  simp only [allowedTypes, List.mem_singleton, exists_eq_left, Json.hasType_array]
  -- items that are all texts are the image of a list of texts
  have hitems : ∀ items : List Json, (∀ item ∈ items, ∃ text, item = .string text) ↔
      ∃ texts : List String, items = texts.map .string := by
    intro items
    have hrange := Set.ext_iff.mp (Set.range_list_map Json.string) items
    simpa only [Set.mem_range, Set.mem_ofPred_eq, eq_comm, iff_comm] using hrange
  constructor
  · rintro ⟨⟨items, rfl⟩, htexts⟩
    rw [items_eq_nil (by simp [Members.get?_cons])] at htexts
    obtain ⟨texts, rfl⟩ := (hitems items).mp fun item hitem =>
      withFuel_textSchema.mp (htexts item hitem)
    exact ⟨texts, rfl⟩
  · rintro ⟨texts, rfl⟩
    rw [items_eq_nil (by simp [Members.get?_cons])]
    refine ⟨⟨_, rfl⟩, fun item hitem => withFuel_textSchema.mpr ?_⟩
    exact (hitems _).mpr ⟨texts, rfl⟩ item hitem

/-- The codes that the schema lists, `null` among them. -/
theorem withFuel_codeSchema :
    withFuel root (fuel + 1)
        (.object [("enum", .array [.number (.integer 1), .string "2", .string "two", .null])])
        value = [] ↔
      value = .null ∨ ∃ code ∈ QueryCode.all, value.sameValue code.toJson := by
  -- the list has the codes in order, and `null` last
  have hoptions : [.number (.integer 1), .string "2", .string "two", .null]
      = QueryCode.all.map QueryCode.toJson ++ [Json.null] := rfl
  have hnull : value.sameValue .null ↔ value = .null := by
    cases value <;> simp [Json.sameValue]
  rw [withFuel_eq_nil, List.forall_mem_singleton, keyword_enum, enum_eq_nil, hoptions]
  simp only [List.mem_append, List.mem_map, List.mem_singleton, or_and_right, exists_or,
    exists_eq_left, hnull, exists_exists_and_eq_and]
  exact or_comm

theorem withFuel_valueSchema :
    withFuel root (fuel + 2)
        (.object [("anyOf", .array [.object [("type", .string "integer")], textSchema])])
        value = [] ↔
      value.hasType "integer" ∨ ∃ text, value = .string text := by
  have hinteger : withFuel root (fuel + 1) (.object [("type", .string "integer")]) value = [] ↔
      value.hasType "integer" := by
    rw [withFuel_eq_nil, List.forall_mem_singleton, keyword_type, type_eq_nil]
    simp only [allowedTypes, List.mem_singleton, exists_eq_left]
  rw [withFuel_eq_nil, List.forall_mem_singleton, keyword_anyOf, anyOf_eq_nil]
  simp only [List.mem_cons, List.not_mem_nil, or_false, exists_eq_or_imp, exists_eq_left,
    hinteger, withFuel_textSchema]

theorem withFuel_nickSchema :
    withFuel root (fuel + 1)
        (.object [("type", .array [.string "string", .string "null"])]) value = [] ↔
      value = .null ∨ ∃ text, value = .string text := by
  have hallowed :
      allowedTypes (.array [.string "string", .string "null"]) = ["null", "string"] := by
    decide +kernel
  rw [withFuel_eq_nil, List.forall_mem_singleton, keyword_type, type_eq_nil, hallowed]
  simp only [List.mem_cons, List.not_mem_nil, or_false, exists_eq_or_imp, exists_eq_left,
    Json.hasType_null, Json.hasType_string]

/-- An object with two texts is one with the first of them. -/
theorem withFuel_pickSchema :
    withFuel root (fuel + 3)
        (.object [("anyOf", .array [FooPick.schema, FooBarPick.schema])]) value = [] ↔
      withFuel root (fuel + 2) FooPick.schema value = [] := by
  rw [withFuel_eq_nil, List.forall_mem_singleton, keyword_anyOf, anyOf_eq_nil]
  simp only [List.mem_cons, List.not_mem_nil, or_false, exists_eq_or_imp, exists_eq_left,
    FooPick.schema, FooBarPick.schema, withFuel_textsSchema]
  constructor
  · rintro (hfoo | ⟨members, rfl, htexts⟩)
    · exact hfoo
    · exact ⟨members, rfl, fun key hkey => htexts key (.inl hkey)⟩
  · exact .inl

end Check

/-! ## Validation by a schema that can be used -/

theorem Json.one_le_nodeCount (value : Json) : 1 ≤ value.nodeCount := by
  cases value <;> simp [nodeCount]

/-- Checks always have fuel for a schema and the schemas right under it. -/
theorem exists_checkFuel (root value : Json) : ∃ fuel, checkFuel root value = fuel + 3 := by
  have hsize : 1 * 2 ≤ root.nodeCount * (value.depth + 2) :=
    Nat.mul_le_mul root.one_le_nodeCount (Nat.le_add_left _ _)
  exact ⟨checkFuel root value - 3, by unfold checkFuel; omega⟩

theorem validate_eq_ok {schema value : Json} (hschema : SchemaFault.of? schema = none) :
    validate schema value = .ok () ↔ violations schema value = [] := by
  have hrequire : requireSchema schema = .ok () := by
    rw [requireSchema, hschema]
  rw [validate, hrequire]
  change requireValid schema value = .ok () ↔ _
  unfold requireValid
  cases violations schema value with
  | nil => simp
  | cons violation rest => simp

theorem FooPick.of?_schema : SchemaFault.of? FooPick.schema = none :=
  Option.isNone_iff_eq_none.mp (by decide +kernel)

theorem FooBarPick.of?_schema : SchemaFault.of? FooBarPick.schema = none :=
  Option.isNone_iff_eq_none.mp (by decide +kernel)

theorem Query.of?_schema : SchemaFault.of? Query.schema = none :=
  Option.isNone_iff_eq_none.mp (by decide +kernel)

namespace QueryPick

open Check

theorem toBool_validate {schema value : Json} (hschema : SchemaFault.of? schema = none) :
    (validate schema value).toBool ↔ violations schema value = [] := by
  rw [← validate_eq_ok hschema]
  cases validate schema value with
  | ok done => simp [Except.toBool]
  | error failure => simp [Except.toBool]

/-- Objects with members that are texts. -/
theorem toBool_validate_textsSchema {keys : List String} {value : Json}
    (hschema : SchemaFault.of? (textsSchema keys) = none) :
    (validate (textsSchema keys) value).toBool ↔ ∃ members : Members, value = .object members ∧
      ∀ key ∈ keys, ∃ text, members.get? key = some (.string text) := by
  obtain ⟨fuel, hfuel⟩ := exists_checkFuel (textsSchema keys) value
  rw [toBool_validate hschema, violations, hfuel, withFuel_textsSchema]

theorem acceptsFoo_iff {value : Json} :
    acceptsFoo value ↔ ∃ members : Members, value = .object members ∧
      ∃ text, members.get? "foo" = some (.string text) := by
  rw [acceptsFoo, FooPick.schema, toBool_validate_textsSchema FooPick.of?_schema]
  simp only [List.mem_singleton, forall_eq]

theorem acceptsFooBar_iff {value : Json} :
    acceptsFooBar value ↔ ∃ members : Members, value = .object members ∧
      (∃ text, members.get? "foo" = some (.string text)) ∧
        ∃ text, members.get? "bar" = some (.string text) := by
  rw [acceptsFooBar, FooBarPick.schema, toBool_validate_textsSchema FooBarPick.of?_schema]
  simp only [List.forall_mem_cons, List.not_mem_nil, IsEmpty.forall_iff, implies_true, and_true]

/-- Objects with two texts are taken for objects with one. -/
theorem acceptsFoo_of_acceptsFooBar {value : Json} (hvalue : acceptsFooBar value) :
    acceptsFoo value := by
  obtain ⟨members, rfl, hfoo, -⟩ := acceptsFooBar_iff.mp hvalue
  exact acceptsFoo_iff.mpr ⟨members, rfl, hfoo⟩

end QueryPick

namespace Query

open Check

/-- The value under a key is as it should be, if there is one. -/
def Declared (members : Members) (key : String) (accepted : Json → Prop) : Prop :=
  ∀ value, members.get? key = some value → accepted value

/-- There is a value under a key, and it is as it should be. -/
def Required (members : Members) (key : String) (accepted : Json → Prop) : Prop :=
  ∃ value, members.get? key = some value ∧ accepted value

theorem required_iff {members : Members} {key : String} {accepted : Json → Prop} :
    Required members key accepted ↔ Declared members key accepted ∧ members.contains key := by
  unfold Required Declared Members.contains
  cases members.get? key with
  | none => simp
  | some value => simp

/-- The members of a valid query. -/
structure Valid (members : Members) : Prop where
  name : Required members "name" fun value => ∃ text, value = .string text ∧ 1 ≤ text.length
  limit : Declared members "limit" fun value =>
    ∃ number : JsonNumber, value = .number number ∧ number.isIntegral ∧
      (number.compareValue (.integer 1)).isGE
  tags : Declared members "tags" fun value =>
    ∃ texts : List String, value = .array (texts.map .string)
  code : Declared members "code" fun value =>
    value = .null ∨ ∃ code ∈ QueryCode.all, value.sameValue code.toJson
  value : Declared members "value" fun value =>
    value.hasType "integer" ∨ ∃ text, value = .string text
  nick : Required members "nick" fun value => value = .null ∨ ∃ text, value = .string text
  pick : Declared members "pick" fun value => QueryPick.acceptsFoo value

/-- **Valid queries.**  The schema accepts the objects with the members of a valid query, and
nothing else. -/
theorem withFuel_schema {root value : Json} {fuel : Nat} :
    withFuel root (fuel + 4) schema value = [] ↔
      ∃ members : Members, value = .object members ∧ Valid members := by
  have hpick : ∀ input : Json, withFuel root (fuel + 3)
      (.object [("anyOf", .array [FooPick.schema, FooBarPick.schema])]) input = [] ↔
        QueryPick.acceptsFoo input := by
    intro input
    rw [withFuel_pickSchema, FooPick.schema, withFuel_textsSchema, QueryPick.acceptsFoo_iff]
    simp only [List.mem_singleton, forall_eq]
  rw [schema]
  -- the schema is a title in front of the schema of an object
  refine (@objectSchema_eq_nil root value (fuel + 3) [(_, _)] _ ["name", "nick"] (by simp)).trans ?_
  refine exists_congr fun members => and_congr_right fun _ => ?_
  simp only [List.forall_mem_cons, List.not_mem_nil, IsEmpty.forall_iff, implies_true, and_true,
    withFuel_nameSchema, withFuel_limitSchema, withFuel_tagsSchema, withFuel_codeSchema,
    withFuel_valueSchema, withFuel_nickSchema, hpick]
  constructor
  · rintro ⟨⟨hname, hlimit, htags, hcode, hvalue, hnick, hpick⟩, hhasName, hhasNick⟩
    exact {
      name := required_iff.mpr ⟨hname, hhasName⟩
      limit := hlimit
      tags := htags
      code := hcode
      value := hvalue
      nick := required_iff.mpr ⟨hnick, hhasNick⟩
      pick := hpick }
  · intro hvalid
    obtain ⟨hname, hhasName⟩ := required_iff.mp hvalid.name
    obtain ⟨hnick, hhasNick⟩ := required_iff.mp hvalid.nick
    exact ⟨⟨hname, hvalid.limit, hvalid.tags, hvalid.code, hvalid.value, hnick, hvalid.pick⟩,
      hhasName, hhasNick⟩

theorem validate_schema_eq_ok {value : Json} :
    validate schema value = .ok () ↔ ∃ members : Members, value = .object members ∧
      Valid members := by
  have hsize : schema.nodeCount = 53 := by decide +kernel
  have hfuel : ∃ fuel, checkFuel schema value = fuel + 4 := by
    refine ⟨checkFuel schema value - 4, ?_⟩
    rw [checkFuel, hsize]
    omega
  obtain ⟨fuel, hfuel⟩ := hfuel
  rw [validate_eq_ok of?_schema, violations, hfuel, withFuel_schema]

end Query

end SchemaTypes
