import SchemaTypes.Proofs.Json.Members
import SchemaTypes.Validation.Check

/-!
# What keywords accept

When a keyword of a schema finds nothing wrong with a value.

* `Check.withFuel_eq_nil`: a schema accepts what all its keywords accept.
* `Check.type_eq_nil`, `Check.required_eq_nil` and so on: one keyword.
* `Check.objectSchema_eq_nil`: a schema of objects with declared and required members.
-/

namespace SchemaTypes

namespace Json

/-! ## Types by name -/

theorem hasType_object {value : Json} :
    value.hasType "object" ↔ ∃ members : Members, value = .object members := by
  cases value <;> simp [hasType]

theorem hasType_array {value : Json} :
    value.hasType "array" ↔ ∃ items, value = .array items := by
  cases value <;> simp [hasType]

theorem hasType_string {value : Json} :
    value.hasType "string" ↔ ∃ text, value = .string text := by
  cases value <;> simp [hasType]

theorem hasType_null {value : Json} : value.hasType "null" ↔ value = .null := by
  cases value <;> simp [hasType]

theorem hasType_integer {value : Json} :
    value.hasType "integer" ↔
      ∃ number : JsonNumber, value = .number number ∧ number.isIntegral := by
  cases value <;> simp [hasType]

end Json

namespace Check

variable {check : Check} {root value : Json} {fuel : Nat}

theorem withFuel_eq_nil {members : Members} :
    withFuel root (fuel + 1) (.object members) value = [] ↔
      ∀ entry ∈ members,
        keyword (withFuel root fuel) root fuel members entry.1 entry.2 value = [] :=
  List.flatMap_eq_nil_iff

/-! ## Dispatch -/

section

variable {members : Members} {part : Json}

@[simp]
theorem keyword_title : keyword check root fuel members "title" part value = [] := rfl

@[simp]
theorem keyword_default : keyword check root fuel members "default" part value = [] := rfl

@[simp]
theorem keyword_type : keyword check root fuel members "type" part value = type part value := rfl

@[simp]
theorem keyword_enum : keyword check root fuel members "enum" part value = enum part value := rfl

@[simp]
theorem keyword_minimum :
    keyword check root fuel members "minimum" part value = minimum part value := rfl

@[simp]
theorem keyword_minLength :
    keyword check root fuel members "minLength" part value =
      characters value fun size => Check.least .characters size part value := rfl

@[simp]
theorem keyword_items :
    keyword check root fuel members "items" part value = items check members part value := rfl

@[simp]
theorem keyword_anyOf :
    keyword check root fuel members "anyOf" part value = anyOf check part value := rfl

@[simp]
theorem keyword_required :
    keyword check root fuel members "required" part value = required part value := rfl

@[simp]
theorem keyword_properties :
    keyword check root fuel members "properties" part value = properties check members value := rfl

end

/-! ## Keywords -/

theorem type_eq_nil {declared : Json} :
    type declared value = [] ↔ ∃ name ∈ allowedTypes declared, value.hasType name := by
  unfold type
  simp

theorem enum_eq_nil {options : List Json} :
    enum (.array options) value = [] ↔ ∃ option ∈ options, value.sameValue option := by
  unfold enum
  simp [Json.items?]

theorem minimum_eq_nil {bound number : JsonNumber} :
    minimum (.number bound) (.number number) = [] ↔ (number.compareValue bound).isGE := by
  unfold minimum limit
  simp [Ordering.isGE_iff_ne_lt]

theorem minLength_eq_nil {text : String} {least : Nat} :
    characters (.string text) (fun size =>
        Check.least .characters size (.number (.integer least)) (.string text)) = [] ↔
      least ≤ text.length := by
  simp [characters, Json.string?, Check.least, count?]

theorem items_eq_nil {members : Members} {schema : Json} {items : List Json}
    (hstart : members.get? "prefixItems" = none) :
    Check.items check members schema (.array items) = [] ↔
      ∀ item ∈ items, check schema item = [] := by
  unfold Check.items
  simp [hstart, Json.items?]

theorem anyOf_eq_nil {schemas : List Json} :
    anyOf check (.array schemas) value = [] ↔ ∃ schema ∈ schemas, check schema value = [] := by
  unfold anyOf
  simp [Json.items?, accepts]

theorem required_eq_nil {keys : List String} {object : Members} :
    required (.array (keys.map .string)) (.object object) = [] ↔
      ∀ key ∈ keys, object.contains key := by
  unfold required
  simp [List.filterMap_map, Function.comp_def, Json.string?]

theorem properties_eq_nil {members : Members} (hrestricted : restricted members = false)
    {object : Members} :
    properties check members (.object object) = [] ↔
      ∀ entry ∈ declared members, ∀ child, object.get? entry.1 = some child →
        check entry.2 child = [] := by
  unfold properties
  simp only [hrestricted, Bool.false_eq_true, if_false, List.flatMap_eq_nil_iff]
  refine forall₂_congr fun entry _ => ?_
  have hget : (Json.object object).get? entry.1 = object.get? entry.1 := rfl
  rw [hget]
  cases object.get? entry.1 with
  | none => simp
  | some child => simp

/-! ## Objects -/

/-- **Objects with declared and required members.**  Such a schema accepts the objects that have
the required members and whose declared members are accepted, each by its own schema. -/
theorem objectSchema_eq_nil {notes properties : Members} {keys : List String}
    (hnotes : ∀ note ∈ notes, note.1 = "title") :
    withFuel root (fuel + 1) (.object (notes ++ [
        ("type", .string "object"),
        ("properties", .object properties),
        ("required", .array (keys.map .string))])) value = [] ↔
      ∃ object : Members, value = .object object ∧
        (∀ entry ∈ properties, ∀ child, object.get? entry.1 = some child →
          withFuel root fuel entry.2 child = []) ∧
        ∀ key ∈ keys, object.contains key := by
  -- notes are titles, so other keywords are found behind them
  have hskip : ∀ key, key ≠ "title" → ∀ rest : Members,
      Members.get? (notes ++ rest) key = Members.get? rest key := by
    intro key hkey rest
    rw [Members.get?_append, Members.get?_eq_none, Option.none_or]
    intro note hnote hsame
    exact hkey (hsame ▸ hnotes note hnote)
  set members : Members := notes ++ [
    ("type", .string "object"),
    ("properties", .object properties),
    ("required", .array (keys.map .string))] with hmembers
  have hrestricted : restricted members = false := by
    rw [restricted, hmembers, hskip _ (by decide)]
    simp [Members.get?_cons]
  have hdeclared : declared members = properties := by
    rw [declared, hmembers, hskip _ (by decide)]
    simp [Members.get?_cons, Json.members?]
  -- and titles check nothing
  have hquiet : ∀ note ∈ notes,
      keyword (withFuel root fuel) root fuel members note.1 note.2 value = [] := by
    intro note hnote
    rw [hnotes note hnote, keyword_title]
  rw [withFuel_eq_nil]
  nth_rewrite 1 [hmembers]
  rw [List.forall_mem_append, List.forall_mem_cons, List.forall_mem_cons,
    List.forall_mem_singleton]
  simp only [keyword_type, keyword_properties, keyword_required, type_eq_nil, allowedTypes,
    List.mem_singleton, exists_eq_left, Json.hasType_object]
  constructor
  · rintro ⟨-, ⟨object, rfl⟩, hproperties, hrequired⟩
    rw [properties_eq_nil hrestricted, hdeclared] at hproperties
    exact ⟨object, rfl, hproperties, required_eq_nil.mp hrequired⟩
  · rintro ⟨object, rfl, hproperties, hrequired⟩
    refine ⟨hquiet, ⟨object, rfl⟩, ?_, required_eq_nil.mpr hrequired⟩
    rw [properties_eq_nil hrestricted, hdeclared]
    exact hproperties

end Check

end SchemaTypes
