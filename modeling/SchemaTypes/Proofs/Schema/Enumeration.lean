import SchemaTypes.Proofs.Name.Unique
import SchemaTypes.Schema.Enumeration

/-!
# Cases of enumerations

An enumeration has one case for each literal of the schema, in order of first occurrence.  All
literals are strings or integers, for which equality of meaning is equality, and no two cases share
their identifier or their literal.

* `EnumDefinition.literal_beq_iff`: equality with a supported literal.
* `EnumDefinition.firstOccurrences_distinctLiterals`: the literals that become cases.
* `EnumDefinition.isEnumeration_of_ofSchema`: what is known of an enumeration.
* `EnumDefinition.caseFor?_eq_some`: the case of a literal.
-/

namespace SchemaTypes

namespace Json

variable {value : Json}

theorem string?_eq_some {text : String} : value.string? = some text ↔ value = .string text := by
  cases value <;> simp [string?]

theorem eq_of_signed? {number : Int} (hvalue : value.signed? = some number) :
    value = .number (.integer number) := by
  cases value with
  | number own =>
      cases own with
      | integer own =>
          have hread : JsonNumber.signed? (.integer own) = some number := hvalue
          rw [JsonNumber.signed?] at hread
          split at hread
          · rw [Option.some.inj hread]
          · cases hread
      | float own => cases hvalue
  | null | bool | string | array | object => cases hvalue

end Json

namespace EnumDefinition

/-! ## Equality of literals -/

variable {literal value : Json}

/-- A supported literal is a string or an integer of 64 bits with sign. -/
theorem exists_of_isSupportedLiteral (hliteral : isSupportedLiteral literal) :
    (∃ text, literal = .string text) ∨
      ∃ number, literal = .number (.integer number) ∧ literal.signed? = some number := by
  rcases Bool.or_eq_true_iff.mp hliteral with hstring | hsigned
  · obtain ⟨text, htext⟩ := Option.isSome_iff_exists.mp hstring
    exact .inl ⟨text, Json.string?_eq_some.mp htext⟩
  · obtain ⟨number, hnumber⟩ := Option.isSome_iff_exists.mp hsigned
    exact .inr ⟨number, Json.eq_of_signed? hnumber, hnumber⟩

/-- Equality of meaning with a supported literal is equality, on either side. -/
theorem literal_beq_iff (hliteral : isSupportedLiteral literal) :
    (literal == value) = true ↔ value = literal := by
  change literal.equiv value = true ↔ _
  rcases exists_of_isSupportedLiteral hliteral with ⟨text, rfl⟩ | ⟨number, rfl, -⟩
  · cases value with
    | string other =>
        simp only [Json.equiv, beq_iff_eq, Json.string.injEq]
        exact eq_comm
    | null | bool | number | array | object => simp [Json.equiv]
  · cases value with
    | number other =>
        cases other with
        | integer other =>
            simp only [Json.equiv, JsonNumber.equiv, beq_iff_eq, Json.number.injEq,
              JsonNumber.integer.injEq]
            exact eq_comm
        | float other => simp [Json.equiv, JsonNumber.equiv]
    | null | bool | string | array | object => simp [Json.equiv]

theorem beq_literal_iff (hliteral : isSupportedLiteral literal) :
    (value == literal) = true ↔ value = literal := by
  change value.equiv literal = true ↔ _
  rcases exists_of_isSupportedLiteral hliteral with ⟨text, rfl⟩ | ⟨number, rfl, -⟩
  · cases value with
    | string other => simp [Json.equiv]
    | null | bool | number | array | object => simp [Json.equiv]
  · cases value with
    | number other =>
        cases other with
        | integer other => simp [Json.equiv, JsonNumber.equiv]
        | float other => simp [Json.equiv, JsonNumber.equiv]
    | null | bool | string | array | object => simp [Json.equiv]

/-! ## Distinct literals -/

/-- Literals that are the values other than `null`, each at the place of its first occurrence. -/
structure FirstOccurrences (values literals : List Json) : Prop where
  nodup : literals.Nodup
  mem_iff : ∀ literal, literal ∈ literals ↔ literal ∈ values ∧ literal ≠ .null
  /-- A literal occurs among the values before those that come after it. -/
  ordered : literals.Pairwise fun literal later =>
    ∃ before after, values = before ++ literal :: after ∧ later ∉ before

theorem distinctLiterals_concat (values : List Json) (value : Json) :
    distinctLiterals (values ++ [value]) =
      if value.isNull || (distinctLiterals values).any (· == value) then distinctLiterals values
      else distinctLiterals values ++ [value] := by
  rw [distinctLiterals, List.foldl_append, ← distinctLiterals]
  rfl

theorem isNull_iff : value.isNull = true ↔ value = .null := by
  cases value <;> simp [Json.isNull]

namespace FirstOccurrences

variable {values literals : List Json} (hfirst : FirstOccurrences values literals)

include hfirst

/-- One more value leaves the literals before it where they are. -/
theorem ordered_concat (value : Json) :
    literals.Pairwise fun literal later =>
      ∃ before after, values ++ [value] = before ++ literal :: after ∧ later ∉ before := by
  refine hfirst.ordered.imp fun hbefore => ?_
  obtain ⟨before, after, hvalues, hlater⟩ := hbefore
  refine ⟨before, after ++ [value], ?_, hlater⟩
  rw [hvalues, List.append_assoc, List.cons_append]

/-- `null` is passed over, and a literal that is repeated counts once. -/
theorem concat_known (hvalue : value = .null ∨ value ∈ literals) :
    FirstOccurrences (values ++ [value]) literals where
  nodup := hfirst.nodup
  mem_iff literal := by
    rw [hfirst.mem_iff, List.mem_append, List.mem_singleton]
    constructor
    · exact fun hliteral => ⟨.inl hliteral.1, hliteral.2⟩
    · rintro ⟨hliteral | rfl, hnull⟩
      · exact ⟨hliteral, hnull⟩
      · exact (hfirst.mem_iff _).mp (hvalue.resolve_left hnull)
  ordered := hfirst.ordered_concat value

/-- A new literal comes last. -/
theorem concat_new (hnull : value ≠ .null) (hnew : value ∉ literals) :
    FirstOccurrences (values ++ [value]) (literals ++ [value]) where
  nodup := hfirst.nodup.append (List.nodup_singleton value) (List.disjoint_singleton.mpr hnew)
  mem_iff literal := by
    rw [List.mem_append, List.mem_append, List.mem_singleton, hfirst.mem_iff]
    constructor
    · rintro (⟨hliteral, hother⟩ | rfl)
      · exact ⟨.inl hliteral, hother⟩
      · exact ⟨.inr rfl, hnull⟩
    · rintro ⟨hliteral | rfl, hother⟩
      · exact .inl ⟨hliteral, hother⟩
      · exact .inr rfl
  ordered := by
    have hfresh : value ∉ values := fun hvalue => hnew ((hfirst.mem_iff value).mpr ⟨hvalue, hnull⟩)
    refine List.pairwise_append.mpr
      ⟨hfirst.ordered_concat value, List.pairwise_singleton _ _, ?_⟩
    intro literal hliteral later hlater
    obtain rfl := List.mem_singleton.mp hlater
    obtain ⟨before, after, hvalues⟩ := List.append_of_mem ((hfirst.mem_iff literal).mp hliteral).1
    refine ⟨before, after ++ [later], ?_, fun hlater => ?_⟩
    · rw [hvalues, List.append_assoc, List.cons_append]
    · exact hfresh (hvalues ▸ List.mem_append_left _ hlater)

end FirstOccurrences

theorem firstOccurrences_distinctLiterals {values : List Json}
    (hsupported : ∀ literal ∈ distinctLiterals values, isSupportedLiteral literal) :
    FirstOccurrences values (distinctLiterals values) := by
  -- from the first value on
  induction values using List.reverseRecOn with
  | nil => exact ⟨List.nodup_nil, by simp [distinctLiterals], List.Pairwise.nil⟩
  | append_singleton values value ih =>
      rw [distinctLiterals_concat] at hsupported ⊢
      split at hsupported
      · rename_i hknown
        rw [if_pos hknown]
        refine (ih hsupported).concat_known ?_
        rcases Bool.or_eq_true_iff.mp hknown with hnull | hfound
        · exact .inl (isNull_iff.mp hnull)
        · obtain ⟨literal, hliteral, hsame⟩ := List.any_eq_true.mp hfound
          obtain rfl := (literal_beq_iff (hsupported literal hliteral)).mp hsame
          exact .inr hliteral
      · rename_i hknown
        rw [if_neg hknown]
        rw [Bool.or_eq_true_iff, not_or, isNull_iff] at hknown
        rw [List.forall_mem_append, List.forall_mem_singleton] at hsupported
        refine (ih hsupported.1).concat_new hknown.1 fun hvalue => hknown.2 ?_
        exact List.any_eq_true.mpr ⟨value, hvalue, (literal_beq_iff hsupported.2).mpr rfl⟩

/-! ## Enumerations of a schema -/

/-- What is known of the enumeration that a list of values gives. -/
structure IsEnumeration (values : List Json) (definition : EnumDefinition) : Prop where
  literals : FirstOccurrences values (definition.cases.map (·.literal))
  idents : (definition.cases.map (·.ident)).Nodup
  supported : ∀ case ∈ definition.cases, isSupportedLiteral case.literal
  strings : definition.backing = .string → ∀ case ∈ definition.cases, case.literal.isString
  integers : definition.backing = .integer → ∀ case ∈ definition.cases, case.literal.isSigned

theorem length_caseIdentifiers [Spelling] (literals : List Json) :
    (Name.caseIdentifiers literals).length = literals.length := by
  rw [Name.caseIdentifiers, Name.caseIdentifiersBy, Name.length_ensureAllUnique, List.length_map,
    List.length_map]

section

variable (literals : List Json)

theorem zipWith_mk_eq (idents : List String) :
    idents.zipWith EnumCase.mk literals =
      (idents.zip literals).map fun pair => ⟨pair.1, pair.2⟩ := by
  rw [List.zip, List.map_zipWith]

theorem map_literal_cases [Spelling] :
    ((Name.caseIdentifiers literals).zipWith EnumCase.mk literals).map (·.literal) = literals := by
  rw [zipWith_mk_eq, List.map_map]
  exact List.map_snd_zip (length_caseIdentifiers literals).ge

theorem map_ident_cases [Spelling] :
    ((Name.caseIdentifiers literals).zipWith EnumCase.mk literals).map (·.ident) =
      Name.caseIdentifiers literals := by
  rw [zipWith_mk_eq, List.map_map]
  exact List.map_fst_zip (length_caseIdentifiers literals).le

end

theorem isString_of_backingFor {declared : Option String} {literals : List Json}
    (hbacking : backingFor declared literals = .string) : literals.all Json.isString := by
  unfold backingFor at hbacking
  split at hbacking <;> grind

theorem isSigned_of_backingFor {declared : Option String} {literals : List Json}
    (hbacking : backingFor declared literals = .integer) : literals.all Json.isSigned := by
  unfold backingFor at hbacking
  split at hbacking <;> grind

/-- An `enum` keyword that is accepted gives one case for each of its literals. -/
theorem eq_of_ofSchema [Spelling] {schema : Json} {supported : Bool} {definition : EnumDefinition}
    (hdefinition : ofSchema schema supported = .ok definition) :
    ∃ literals, literals = distinctLiterals (schema.enumValues?.getD []) ∧
      (∀ literal ∈ literals, isSupportedLiteral literal) ∧
      definition = {
        backing := backingFor schema.schemaType? literals
        cases := (Name.caseIdentifiers literals).zipWith EnumCase.mk literals } := by
  unfold ofSchema at hdefinition
  dsimp only at hdefinition
  set literals := distinctLiterals (schema.enumValues?.getD [])
  split at hdefinition
  · cases hdefinition
  · split at hdefinition
    · cases hdefinition
    · cases hfind : literals.find? fun literal => !isSupportedLiteral literal with
      | some literal => simp [hfind] at hdefinition
      | none =>
          rw [hfind] at hdefinition
          exact ⟨literals, rfl, by simpa using hfind, (Except.ok.inj hdefinition).symm⟩

/-- **Cases.**  The enumeration of a schema has a case for each literal, and the cases are told
apart by their identifiers. -/
theorem isEnumeration_of_ofSchema [Spelling] {schema : Json} {supported : Bool}
    {definition : EnumDefinition} (hdefinition : ofSchema schema supported = .ok definition) :
    IsEnumeration (schema.enumValues?.getD []) definition := by
  obtain ⟨literals, hliterals, hsupported, rfl⟩ := eq_of_ofSchema hdefinition
  have hcase : ∀ case ∈ (Name.caseIdentifiers literals).zipWith EnumCase.mk literals,
      case.literal ∈ literals := by
    intro case hcase
    have hmem := List.mem_map_of_mem (f := (·.literal)) hcase
    rwa [map_literal_cases] at hmem
  exact {
    literals := by
      rw [map_literal_cases, hliterals]
      exact firstOccurrences_distinctLiterals (hliterals ▸ hsupported)
    idents := by
      rw [map_ident_cases]
      exact Name.nodup_ensureAllUnique _ _
    supported := fun case hmem => hsupported _ (hcase case hmem)
    strings := fun hbacking case hmem =>
      List.all_eq_true.mp (isString_of_backingFor hbacking) _ (hcase case hmem)
    integers := fun hbacking case hmem =>
      List.all_eq_true.mp (isSigned_of_backingFor hbacking) _ (hcase case hmem) }

/-- The identifiers of cases come from their literals alone. -/
theorem idents_of_ofSchema [Spelling] {schema : Json} {supported : Bool}
    {definition : EnumDefinition} (hdefinition : ofSchema schema supported = .ok definition) :
    definition.cases.map (·.ident) =
      Name.caseIdentifiers (definition.cases.map (·.literal)) := by
  obtain ⟨literals, -, -, rfl⟩ := eq_of_ofSchema hdefinition
  rw [map_ident_cases, map_literal_cases]

/-! ## The case of a literal -/

section

variable {values : List Json} {definition : EnumDefinition}

theorem mem_of_caseFor? (hdefinition : IsEnumeration values definition) {case : EnumCase}
    (hcase : definition.caseFor? value = some case) :
    case ∈ definition.cases ∧ value = case.literal := by
  have hmem := List.mem_of_find?_eq_some hcase
  have hsame := List.find?_some hcase
  exact ⟨hmem, (literal_beq_iff (hdefinition.supported case hmem)).mp hsame⟩

/-- **The case of a value** is the case that has it as its literal. -/
theorem caseFor?_eq_some (hdefinition : IsEnumeration values definition) {case : EnumCase} :
    definition.caseFor? value = some case ↔ case ∈ definition.cases ∧ value = case.literal := by
  refine ⟨mem_of_caseFor? hdefinition, ?_⟩
  rintro ⟨hmem, rfl⟩
  -- a case with this literal is found, and there is no other
  have hself : (case.literal == case.literal) = true :=
    (literal_beq_iff (hdefinition.supported case hmem)).mpr rfl
  obtain ⟨other, hother⟩ : ∃ other, definition.caseFor? case.literal = some other := by
    rw [← Option.isSome_iff_exists, caseFor?, List.find?_isSome]
    exact ⟨case, hmem, hself⟩
  obtain ⟨hotherMem, hliteral⟩ := mem_of_caseFor? hdefinition hother
  rw [hother, List.inj_on_of_nodup_map hdefinition.literals.nodup hmem hotherMem hliteral]

end

end EnumDefinition

end SchemaTypes
