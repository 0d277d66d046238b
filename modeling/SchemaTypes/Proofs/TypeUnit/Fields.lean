import SchemaTypes.Proofs.Name.Module
import SchemaTypes.Proofs.Name.Numbering
import SchemaTypes.TypeUnit.Assemble

/-!
# Fields as identifiers

A field and its raw form are the same identifier: `r#x` is `x`.  Names of fields are kept apart as
texts, and a keyword only ever comes raw, so that two fields are the same identifier in one case: a
keyword stands for several keys, and the number that one of them gets turns the keyword into a plain
name that another field has already, or gets later on.

* `FieldUnit.IsIdentifier`: what the name of a field looks like.
* `FieldUnit.mem_identifiers_iff`: the numbers that a keyword gets.
* `StructUnit.nodup_bare_idents_iff`: when the fields of a struct are distinct identifiers.
-/

namespace SchemaTypes

open Name

namespace Name

/-- No keyword ends in a digit. -/
theorem isUnnumbered_of_mem_forbiddenWords {word : String} (hword : word ∈ forbiddenWords) :
    IsUnnumbered word := by
  have hwords : ∀ word ∈ forbiddenWords, IsUnnumbered word := by decide
  exact hwords word hword

theorem isUnnumbered_raw {word : String} (hword : word ∈ forbiddenWords) :
    IsUnnumbered ("r#" ++ word) := by
  have hwords : ∀ word ∈ forbiddenWords, IsUnnumbered ("r#" ++ word) := by decide
  exact hwords word hword

theorem isPlain_number (number : Nat) : IsPlain (toString number).toList := by
  rw [toList_toString]
  intro c hc
  have hdigit : c.isDigit = true := Nat.isDigit_of_mem_toDigits (by decide) le_rfl hc
  left
  exact Bool.or_eq_true_iff.mpr (.inr hdigit)

theorem IsPlain.append {name other : String} (hname : IsPlain name.toList)
    (hother : IsPlain other.toList) : IsPlain (name ++ other).toList := by
  rw [String.toList_append]
  exact List.forall_mem_append.mpr ⟨hname, hother⟩

/-- A plain name has no mark of raw identifiers in front. -/
theorem IsPlain.ne_raw {name : String} (hname : IsPlain name.toList) (word : String) :
    name ≠ "r#" ++ word := by
  rintro rfl
  have hmark : '#' ∈ ("r#" ++ word).toList := by simp
  exact absurd (hname '#' hmark) (by decide)

/-- Whatever numbers they get, other names are not mistaken for a keyword. -/
theorem keepsClear_raw {word name : String} (hword : word ∈ forbiddenWords)
    (hname : IsModuleName name) (hne : name ≠ "r#" ++ word) :
    KeepsClear ("r#" ++ word) name := by
  rcases hname with ⟨other, hother, rfl⟩ | ⟨hplain, -⟩
  · refine ⟨fun number => (isUnnumbered_raw hother).ne_append _ _, fun number number' hsame => ?_⟩
    exact hne (append_number_inj (isUnnumbered_raw hother) (isUnnumbered_raw hword) hsame).1
  · constructor
    · intro number
      rw [String.append_assoc]
      exact hplain.ne_raw _
    · intro number number'
      have hraw : "r#" ++ word ++ toString number' = "r#" ++ (word ++ toString number') :=
        String.append_assoc
      rw [hraw]
      exact (hplain.append (isPlain_number number)).ne_raw _

end Name

section

variable [Spelling]

namespace FieldUnit

/-! ## Names of fields -/

/-- A raw keyword with a number or without one, or a plain name that is no keyword. -/
inductive IsIdentifier : String → Prop
  | keyword {word : String} (hword : word ∈ forbiddenWords) : IsIdentifier ("r#" ++ word)
  | numbered {word : String} {number : Nat} (hword : word ∈ forbiddenWords)
      (hnumber : 2 ≤ number) : IsIdentifier ("r#" ++ (word ++ toString number))
  | plain {name : String} (hplain : IsPlain name.toList) (hfree : name ∉ forbiddenWords) :
      IsIdentifier name

/-- A keyword stands for so many keys that it gets a number which turns it into the name of another
field. -/
def Meets (keys : List String) (word : String) (number : Nat) : Prop :=
  2 ≤ number ∧ number ≤ (keys.map moduleName).count ("r#" ++ word) ∧
    word ++ toString number ∈ identifiers keys

section

variable {keys : List String} {word ident : String} (hsnake : WritesSnakeCase Spelling.snake)

include hsnake

theorem isModuleName_of_mem {name : String} (hname : name ∈ keys.map moduleName) :
    IsModuleName name := by
  obtain ⟨key, -, rfl⟩ := List.mem_map.mp hname
  exact isModuleName_moduleName hsnake key

theorem isIdentifier_of_mem (hident : ident ∈ identifiers keys) : IsIdentifier ident := by
  obtain ⟨name, hname, hform⟩ := exists_of_mem_ensureAllUnique hident
  rcases isModuleName_of_mem hsnake hname with ⟨word, hword, rfl⟩ | ⟨hplain, hfree⟩
  · rcases hform with rfl | ⟨number, hnumber, rfl⟩
    · exact .keyword hword
    · rw [String.append_assoc]
      exact .numbered hword hnumber
  · rcases hform with rfl | ⟨number, hnumber, rfl⟩
    · exact .plain hplain hfree
    · refine .plain (hplain.append (isPlain_number number)) fun hmember => ?_
      exact (isUnnumbered_of_mem_forbiddenWords hmember).ne_append name number rfl

/-- **Numbers of a keyword.**  They go up to the number of keys that the keyword stands for. -/
theorem mem_identifiers_iff (hword : word ∈ forbiddenWords) {number : Nat} (hnumber : 2 ≤ number) :
    "r#" ++ (word ++ toString number) ∈ identifiers keys ↔
      number ≤ (keys.map moduleName).count ("r#" ++ word) := by
  rw [← String.append_assoc]
  exact mem_ensureAllUnique_iff (isUnnumbered_raw hword)
    (fun name hname hne => keepsClear_raw hword (isModuleName_of_mem hsnake hname) hne) hnumber

/-- A raw name and a plain one are the same identifier only if the raw one has a number. -/
theorem exists_meets_of_raw {raw plain : String} (hraw : IsIdentifier raw)
    (hmem : raw ∈ identifiers keys) (hfree : plain ∉ forbiddenWords)
    (hplain : plain ∈ identifiers keys) (hsame : raw = "r#" ++ plain) :
    ∃ word ∈ forbiddenWords, ∃ number, Meets keys word number := by
  cases hraw with
  | keyword hword =>
      obtain rfl := (String.append_right_inj _).mp hsame
      exact absurd hword hfree
  | @numbered word number hword hnumber =>
      obtain rfl := (String.append_right_inj _).mp hsame
      have hcount := (mem_identifiers_iff hsnake hword hnumber).mp hmem
      exact ⟨word, hword, number, hnumber, hcount, hplain⟩
  | plain hname _ => exact absurd hsame (hname.ne_raw plain)

/-- Without such a keyword, the identifiers tell the names of fields apart. -/
theorem bare_injOn (hapart : ∀ word ∈ forbiddenWords, ∀ number, ¬Meets keys word number)
    {other : String} (hident : ident ∈ identifiers keys) (hother : other ∈ identifiers keys)
    (hbare : bare ident = bare other) : ident = other := by
  -- a raw name is its identifier with the mark in front
  have hraw : ∀ raw plain : String, raw ∈ identifiers keys → plain ∈ identifiers keys →
      plain ∉ forbiddenWords → raw ≠ "r#" ++ plain := by
    intro raw plain hmem hplain hfree hsame
    obtain ⟨word, hword, number, hmeets⟩ :=
      exists_meets_of_raw hsnake (isIdentifier_of_mem hsnake hmem) hmem hfree hplain hsame
    exact hapart word hword number hmeets
  have hform := isIdentifier_of_mem hsnake hident
  have hform' := isIdentifier_of_mem hsnake hother
  cases hform with
  | keyword | numbered =>
      rw [bare_raw] at hbare
      cases hform' with
      | keyword | numbered => rw [hbare, bare_raw]
      | plain hplain hfree =>
          rw [bare_plain hplain] at hbare
          exact absurd (congrArg _ hbare) (hraw _ _ hident hother hfree)
  | plain hplain hfree =>
      rw [bare_plain hplain] at hbare
      cases hform' with
      | keyword | numbered =>
          rw [bare_raw] at hbare
          exact absurd (congrArg _ hbare.symm) (hraw _ _ hother hident hfree)
      | plain hplain' _ => rw [hbare, bare_plain hplain']

/-- With such a keyword, two fields are the same identifier. -/
theorem not_nodup_of_meets {number : Nat} (hword : word ∈ forbiddenWords)
    (hmeets : Meets keys word number) : ¬((identifiers keys).map bare).Nodup := by
  obtain ⟨hnumber, hcount, hplain⟩ := hmeets
  have hraw := (mem_identifiers_iff hsnake hword hnumber).mpr hcount
  have hname : IsPlain (word ++ toString number).toList := by
    have hwords : ∀ word ∈ forbiddenWords, IsPlain word.toList := by decide
    exact (hwords word hword).append (isPlain_number number)
  intro hdistinct
  refine hname.ne_raw (word ++ toString number) ?_
  apply List.inj_on_of_nodup_map hdistinct hplain hraw
  rw [bare_raw, bare_plain hname]

end

end FieldUnit

/-! ## Fields of a struct -/

namespace StructUnit

variable (request : ClassRequest) (document : Json) (fields : List ResolvedField)

theorem fields_assemble :
    (assemble request document fields).fields =
      (fields.zip (FieldUnit.identifiers (fields.map (·.key)))).map
        fun pair => FieldUnit.ofField pair.1 pair.2 := by
  rw [assemble, List.zip, List.map_zipWith]

theorem length_identifiers :
    (FieldUnit.identifiers (fields.map (·.key))).length = fields.length := by
  rw [FieldUnit.identifiers, length_ensureAllUnique, List.length_map, List.length_map]

/-- There is one field for each key, in order. -/
theorem keys_assemble :
    (assemble request document fields).fields.map (·.key) = fields.map (·.key) := by
  rw [fields_assemble, List.map_map]
  show (fields.zip _).map ((·.key) ∘ Prod.fst) = _
  rw [← List.map_map, List.map_fst_zip (length_identifiers fields).ge]

theorem idents_assemble :
    (assemble request document fields).fields.map (·.ident) =
      FieldUnit.identifiers (fields.map (·.key)) := by
  rw [fields_assemble, List.map_map]
  show (fields.zip _).map Prod.snd = _
  exact List.map_snd_zip (length_identifiers fields).le

/-- **Fields as identifiers.**  A struct has one field for each key, in order.  The fields are
distinct identifiers unless a keyword stands for several keys and one of its numbers turns it into
the name of another field. -/
theorem nodup_bare_idents_iff (hsnake : WritesSnakeCase Spelling.snake) :
    (assemble request document fields).fields.map (·.key) = fields.map (·.key) ∧
      (((assemble request document fields).fields.map fun field => bare field.ident).Nodup ↔
        ∀ word ∈ forbiddenWords, ∀ number, ¬FieldUnit.Meets (fields.map (·.key)) word number) := by
  refine ⟨keys_assemble request document fields, ?_⟩
  have hidents : ((assemble request document fields).fields.map fun field => bare field.ident) =
      (FieldUnit.identifiers (fields.map (·.key))).map bare := by
    rw [← idents_assemble request document fields, List.map_map]
    rfl
  rw [hidents]
  constructor
  · intro hdistinct word hword number hmeets
    exact FieldUnit.not_nodup_of_meets hsnake hword hmeets hdistinct
  · intro hapart
    apply List.Nodup.map_on _ (nodup_ensureAllUnique _ _)
    intro ident hident other hother hbare
    exact FieldUnit.bare_injOn hsnake hapart hident hother hbare

/-- The struct with these keys, all of them optional and of any value. -/
def ofKeys (keys : List String) : StructUnit :=
  let schema := Json.object [("properties", .object (keys.map fun key => (key, .bool true)))]
  assemble ⟨schema, "Root", ["crate"], [], "#", 0⟩ schema
    (keys.map fun key => ⟨key, .bool true, .decorate .mixed false none false⟩)

theorem idents_ofKeys (keys : List String) :
    (ofKeys keys).fields.map (·.ident) = FieldUnit.identifiers keys := by
  rw [ofKeys, idents_assemble, List.map_map]
  exact congrArg _ (List.map_id' keys)

theorem keys_ofKeys (keys : List String) : (ofKeys keys).fields.map (·.key) = keys := by
  rw [ofKeys, keys_assemble, List.map_map]
  exact List.map_id' keys

end StructUnit

end

namespace StructUnit

attribute [local instance] Spelling.plain

/-- A keyword stands for two keys, and its number turns it into no other key. -/
theorem nodup_bare_idents_ofKeys :
    WritesSnakeCase Spelling.snake ∧
      (ofKeys ["type", "Type", "kind"]).fields.map (·.ident) = ["r#type", "r#type2", "kind"] ∧
        ((ofKeys ["type", "Type", "kind"]).fields.map fun field => bare field.ident).Nodup ∧
          ∀ word ∈ forbiddenWords, ∀ number,
            ¬FieldUnit.Meets ["type", "Type", "kind"] word number := by
  have hidents : (ofKeys ["type", "Type", "kind"]).fields.map (·.ident) =
      ["r#type", "r#type2", "kind"] := by
    rw [idents_ofKeys]
    decide +kernel
  have hbare : ["r#type", "r#type2", "kind"].map bare = ["type", "type2", "kind"] := by
    decide +kernel
  rw [← hidents, List.map_map] at hbare
  change (ofKeys _).fields.map (fun field => bare field.ident) = _ at hbare
  have hdistinct : ((ofKeys ["type", "Type", "kind"]).fields.map
      fun field => bare field.ident).Nodup := by
    rw [hbare]
    decide
  exact ⟨writesSnakeCase_snakeCase, hidents, hdistinct,
    (nodup_bare_idents_iff _ _ _ writesSnakeCase_snakeCase).2.mp hdistinct⟩

/-- A keyword stands for two keys, and its number turns it into the third key. -/
theorem not_nodup_bare_idents_ofKeys :
    (ofKeys ["type", "Type", "type2"]).fields.map (·.key) = ["type", "Type", "type2"] ∧
      (ofKeys ["type", "Type", "type2"]).fields.map (·.ident) = ["r#type", "r#type2", "type2"] ∧
        ¬((ofKeys ["type", "Type", "type2"]).fields.map fun field => bare field.ident).Nodup := by
  have hidents : (ofKeys ["type", "Type", "type2"]).fields.map (·.ident) =
      ["r#type", "r#type2", "type2"] := by
    rw [idents_ofKeys]
    decide +kernel
  refine ⟨keys_ofKeys _, hidents, fun hdistinct => ?_⟩
  have hbare : ["r#type", "r#type2", "type2"].map bare = ["type", "type2", "type2"] := by
    decide +kernel
  rw [← hidents, List.map_map] at hbare
  change (ofKeys _).fields.map (fun field => bare field.ident) = _ at hbare
  rw [hbare] at hdistinct
  revert hdistinct
  decide

end StructUnit

end SchemaTypes
