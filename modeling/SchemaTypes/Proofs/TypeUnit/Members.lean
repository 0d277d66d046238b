import SchemaTypes.Proofs.Code.Functions
import SchemaTypes.Proofs.TypeUnit.Enumeration
import SchemaTypes.Proofs.TypeUnit.Fields

/-!
# Members of generated types

The methods of a struct come in four groups, and the names of a group are distinct when the fields
are distinct identifiers.  Between two groups, names meet as follows.

```text
fixed methods   accessors                     never, for these accessors are renamed
fixed methods   with_ and without_            never, by the first letter
with_           without_                      never, by the fifth letter
accessors       renamed accessors             a field is called like a renamed accessor
accessors       with_ and without_            a field is called like the mutator of a field
```

The cases of an enumeration are named after its literals alone, and a literal may spell the name
of the constant that lists the cases.

* `StructUnit.methodNames?_implementationCode`: the methods of a struct.
* `StructUnit.nodup_bare_methodNames_iff`: when the methods are distinct.
* `EnumDefinition.all_mem_idents_iff`: when a case is called `ALL`.
-/

namespace SchemaTypes

open Name

namespace FieldUnit

/-! ## Methods of a field -/

/-- The mutators of a field; a required one cannot be made absent. -/
def mutatorNames (field : FieldUnit) : List String :=
  if field.isRequired then [methodName "with_" field.ident]
  else [methodName "with_" field.ident, methodName "without_" field.ident]

theorem declares_accessorCode (field : FieldUnit) :
    field.accessorCode.Declares [accessorName field.ident] := by
  have hseparator : Code.Declares
      (if field.docs.isEmpty then Code.empty else Code.docLine "") [] := by
    split
    · exact Code.declares_empty
    · exact Code.declares_attribute _
  have hline := Code.declares_attribute
    (.word "doc" ++ .operator "=" ++ .string (" Type: `" ++ field.typeLabel ++ "`"))
  have hmethod := Code.declares_publicFunction (Code.quiet_shape field.accessorShape)
    (accessorName field.ident) .borrowedSelf field.accessorBody
  exact (((Code.declares_docs field.docs).append hseparator).append hline).append hmethod

theorem declares_withCode (field : FieldUnit) :
    field.withCode.Declares [methodName "with_" field.ident] := by
  unfold withCode
  cases field.assertion with
  | some assertion => exact Code.declares_publicFunction (Code.Declares.quiet fun _ => rfl) _ _ _
  | none =>
      exact (Code.declares_attribute _).append
        (Code.declares_publicFunction (Code.Declares.quiet fun _ => rfl) _ _ _)

theorem declares_mutatorCode (field : FieldUnit) :
    field.mutatorCode.Declares field.mutatorNames := by
  have hwith := declares_withCode field
  unfold mutatorCode mutatorNames withoutCode isRequired
  cases field.absent with
  | none => exact hwith.append Code.declares_empty
  | some absent =>
      exact hwith.append ((Code.declares_attribute _).append
        (Code.declares_publicFunction (Code.Declares.quiet fun _ => rfl) _ _ _))

end FieldUnit

/-! ## Methods of a struct -/

namespace StructUnit

/-- The methods that come after those of the fields. -/
def lastMethods : List String := ["build_from_input", "validate_input", "to_json"]

/-- The names of the methods of a struct, in order. -/
def methodNames (unit : StructUnit) : List String :=
  "new" :: (unit.fields.map (fun field => FieldUnit.accessorName field.ident) ++
    unit.fields.flatMap (·.mutatorNames) ++ lastMethods)

theorem declares_decodingCode (unit : StructUnit) :
    unit.decodingCode.Declares ["build_from_input", "validate_input"] := by
  have hattributes := (Code.declares_attribute
    (.word "doc" ++ .operator "=" ++ .literal ("r\" " ++
      "Decodes `input`, validating it against [`Self::SCHEMA`] first when `validate` is set." ++
      "\""))).append
    (Code.declares_attribute (.word "allow" ++ .parens (.word "unused_variables")))
  exact (hattributes.append
      (Code.declares_publicFunction (Code.Declares.quiet fun _ => rfl) _ _ _)).append
    (Code.declares_publicFunction (Code.Declares.quiet fun _ => rfl) _ _ _)

/-- **Methods of a struct.**  Its code declares these methods, and those that were added to it. -/
theorem methodNames?_implementationCode (unit : StructUnit) :
    Token.methodNames? unit.implementationCode.tokens =
      some (unit.methodNames ++
        Token.functionNames (Code.concat unit.extensions.methods).tokens) := by
  have hconstant : Code.Declares
      (.docComment "Schema every decoded value is validated against." ++
        .words ["pub", "const", "SCHEMA"] ++ .operator ":" ++
        .borrow (.lifetime "static" ++ .word "str") ++ .operator "=" ++ .string unit.schema ++
        .semicolon) [] := fun _ => rfl
  have hnew : unit.constructorCode.Declares ["new"] :=
    Code.declares_publicFunction (Code.Declares.quiet fun _ => rfl) _ _ _
  have haccessors : Code.Declares (.concat (unit.fields.map (·.accessorCode)))
      (unit.fields.flatMap fun field => [FieldUnit.accessorName field.ident]) :=
    Code.declares_concat fun field _ => field.declares_accessorCode
  have hmutators : Code.Declares (.concat (unit.fields.map (·.mutatorCode)))
      (unit.fields.flatMap (·.mutatorNames)) :=
    Code.declares_concat fun field _ => field.declares_mutatorCode
  have hencoding : unit.encodingCode.Declares ["to_json"] :=
    Code.declares_publicFunction (Code.Declares.quiet fun _ => rfl) _ _ _
  have hmethods := ((((hconstant.append hnew).append haccessors).append hmutators).append
    unit.declares_decodingCode).append hencoding
  refine congrArg some ((hmethods (Code.concat unit.extensions.methods).tokens).trans ?_)
  rw [List.nil_append, ← List.map_eq_flatMap, List.append_assoc _ ["build_from_input", _]]
  rfl

end StructUnit

/-! ## When names of methods meet -/

namespace FieldUnit

variable {ident other name : String}

/-- Mutators start with this letter, and no method with a name of its own does. -/
def StartsLikeMutator (name : String) : Prop := name.toList.head? = some 'w'

theorem bare_of_startsLikeMutator (hname : StartsLikeMutator name) : bare name = name := by
  have hstart : ¬Text.startsWith name "r#" = true := by
    rw [Text.startsWith, List.isPrefixOf_iff_prefix]
    rintro ⟨rest, hrest⟩
    rw [StartsLikeMutator, ← hrest] at hname
    cases hname
  rw [bare, Text.dropStart?, if_neg hstart, Option.getD_none]

theorem startsLikeMutator_with (ident : String) : StartsLikeMutator (methodName "with_" ident) := by
  rw [StartsLikeMutator, methodName, String.toList_append]
  rfl

theorem startsLikeMutator_without (ident : String) :
    StartsLikeMutator (methodName "without_" ident) := by
  rw [StartsLikeMutator, methodName, String.toList_append]
  rfl

theorem mem_mutatorNames {field : FieldUnit} :
    name ∈ field.mutatorNames ↔ name = methodName "with_" field.ident ∨
      field.isRequired = false ∧ name = methodName "without_" field.ident := by
  unfold mutatorNames
  cases field.isRequired with
  | true => simp
  | false => simp

theorem startsLikeMutator_of_mem {field : FieldUnit} (hname : name ∈ field.mutatorNames) :
    StartsLikeMutator name := by
  rcases mem_mutatorNames.mp hname with rfl | ⟨-, rfl⟩
  · exact startsLikeMutator_with _
  · exact startsLikeMutator_without _

theorem not_startsLikeMutator_of_mem (hname : name ∈ structMethods) :
    ¬StartsLikeMutator name ∧ ¬StartsLikeMutator (name ++ "_value") := by
  have hnames : ∀ name ∈ structMethods,
      name.toList.head? ≠ some 'w' ∧ (name ++ "_value").toList.head? ≠ some 'w' := by
    decide +kernel
  exact hnames name hname

theorem with_ne_without (ident other : String) :
    methodName "with_" ident ≠ methodName "without_" other := by
  intro hsame
  have hfifth := congrArg (fun name : String => name.toList[4]?) hsame
  simp only [methodName, String.toList_append] at hfifth
  exact absurd (Option.some.inj hfifth) (by decide)

/-- A field whose accessor is renamed, and a field that is called like this accessor. -/
def IsRenamed (ident other : String) : Prop :=
  bare ident ∈ structMethods ∧ bare other = bare ident ++ "_value"

theorem bare_accessorName (ident : String) :
    bare (accessorName ident) =
      if bare ident ∈ structMethods then bare ident ++ "_value" else bare ident := by
  have hrenamed : ∀ name ∈ structMethods, bare (name ++ "_value") = name ++ "_value" := by
    decide +kernel
  unfold accessorName
  simp only [List.contains_iff_mem]
  split
  · rename_i hname
    exact hrenamed _ hname
  · rfl

theorem renamed_not_mem_structMethods (hname : name ∈ structMethods) :
    name ++ "_value" ∉ structMethods := by
  have hrenamed : ∀ name ∈ structMethods, name ++ "_value" ∉ structMethods := by decide +kernel
  exact hrenamed name hname

theorem accessor_not_mem_structMethods (ident : String) :
    bare (accessorName ident) ∉ structMethods := by
  rw [bare_accessorName]
  split
  · rename_i hname
    exact renamed_not_mem_structMethods hname
  · assumption

/-- An accessor is named like a mutator only if its field is. -/
theorem accessor_eq_iff (hname : StartsLikeMutator name) :
    bare (accessorName ident) = name ↔ bare ident = name := by
  rw [bare_accessorName]
  split
  · rename_i hmethod
    obtain ⟨hself, hrenamed⟩ := not_startsLikeMutator_of_mem hmethod
    refine iff_of_false ?_ ?_
    · rintro rfl
      exact hrenamed hname
    · rintro rfl
      exact hself hname
  · rfl

/-- Two accessors meet when their fields are the same identifier, or by the renaming of one. -/
theorem accessor_eq_accessor_iff :
    bare (accessorName ident) = bare (accessorName other) ↔
      bare ident = bare other ∨ IsRenamed ident other ∨ IsRenamed other ident := by
  rw [bare_accessorName, bare_accessorName, IsRenamed, IsRenamed]
  -- either name may be one of the fixed methods; two renamed accessors differ as their fields do
  by_cases hident : bare ident ∈ structMethods
  · by_cases hother : bare other ∈ structMethods
    · rw [if_pos hident, if_pos hother, String.append_left_inj]
      refine ⟨.inl, ?_⟩
      rintro (hsame | ⟨-, hsame⟩ | ⟨-, hsame⟩)
      · exact hsame
      · exact absurd (hsame ▸ hother) (renamed_not_mem_structMethods hident)
      · exact absurd (hsame ▸ hident) (renamed_not_mem_structMethods hother)
    · rw [if_pos hident, if_neg hother]
      refine ⟨fun hsame => .inr (.inl ⟨hident, hsame.symm⟩), ?_⟩
      rintro (hsame | ⟨-, hsame⟩ | ⟨hmethod, -⟩)
      · exact absurd (hsame ▸ hident) hother
      · exact hsame.symm
      · exact absurd hmethod hother
  · by_cases hother : bare other ∈ structMethods
    · rw [if_neg hident, if_pos hother]
      refine ⟨fun hsame => .inr (.inr ⟨hother, hsame⟩), ?_⟩
      rintro (hsame | ⟨hmethod, -⟩ | ⟨-, hsame⟩)
      · exact absurd (hsame ▸ hother) hident
      · exact absurd hmethod hident
      · exact hsame
    · rw [if_neg hident, if_neg hother]
      refine ⟨.inl, ?_⟩
      rintro (hsame | ⟨hmethod, -⟩ | ⟨hmethod, -⟩)
      · exact hsame
      · exact absurd hmethod hident
      · exact absurd hmethod hother

end FieldUnit

namespace StructUnit

open FieldUnit (accessorName methodName structMethods StartsLikeMutator)

/-- No field is called like a method of another field. -/
structure FieldsApart (unit : StructUnit) : Prop where
  accessors : ∀ field ∈ unit.fields, ∀ other ∈ unit.fields,
    ¬FieldUnit.IsRenamed field.ident other.ident
  setters : ∀ field ∈ unit.fields, ∀ other ∈ unit.fields,
    bare other.ident ≠ methodName "with_" field.ident
  removers : ∀ field ∈ unit.fields, ∀ other ∈ unit.fields, field.isRequired = false →
    bare other.ident ≠ methodName "without_" field.ident

section

variable {unit : StructUnit} (hfields : (unit.fields.map fun field => bare field.ident).Nodup)

include hfields

theorem nodup_accessors_iff :
    (unit.fields.map fun field => bare (accessorName field.ident)).Nodup ↔
      ∀ field ∈ unit.fields, ∀ other ∈ unit.fields,
        ¬FieldUnit.IsRenamed field.ident other.ident := by
  rw [List.nodup_map_iff_inj_on hfields.of_map]
  constructor
  · intro hinjective field hfield other hother hrenamed
    have hsame := hinjective field hfield other hother
      (FieldUnit.accessor_eq_accessor_iff.mpr (.inr (.inl hrenamed)))
    rw [hsame] at hrenamed
    -- a name is shorter than the name with the suffix
    have hlength := congrArg String.length hrenamed.2
    rw [String.length_append] at hlength
    have hsuffix : "_value".length = 6 := rfl
    omega
  · intro hapart field hfield other hother hsame
    rcases FieldUnit.accessor_eq_accessor_iff.mp hsame with hbare | hrenamed | hrenamed
    · exact List.inj_on_of_nodup_map hfields hfield hother hbare
    · exact absurd hrenamed (hapart field hfield other hother)
    · exact absurd hrenamed (hapart other hother field hfield)

theorem nodup_mutatorNames : (unit.fields.flatMap (·.mutatorNames)).Nodup := by
  rw [List.nodup_flatMap]
  constructor
  · intro field _
    unfold FieldUnit.mutatorNames
    split
    · exact List.nodup_singleton _
    · simpa using FieldUnit.with_ne_without field.ident field.ident
  · refine (List.pairwise_map.mp hfields).imp fun {field other} hne => ?_
    intro name hname hname'
    rcases FieldUnit.mem_mutatorNames.mp hname with rfl | ⟨-, rfl⟩
    · rcases FieldUnit.mem_mutatorNames.mp hname' with hsame | ⟨-, hsame⟩
      · exact hne ((String.append_right_inj _).mp hsame)
      · exact FieldUnit.with_ne_without _ _ hsame
    · rcases FieldUnit.mem_mutatorNames.mp hname' with hsame | ⟨-, hsame⟩
      · exact FieldUnit.with_ne_without _ _ hsame.symm
      · exact hne ((String.append_right_inj _).mp hsame)

omit hfields in
/-- Accessors meet mutators where a field is called like the mutator of a field. -/
theorem accessors_ne_mutators_iff :
    (∀ accessor ∈ unit.fields.map (fun field => bare (accessorName field.ident)),
        ∀ mutator ∈ unit.fields.flatMap (·.mutatorNames), accessor ≠ mutator) ↔
      ∀ field ∈ unit.fields, ∀ other ∈ unit.fields,
        bare other.ident ≠ methodName "with_" field.ident ∧
          (field.isRequired = false → bare other.ident ≠ methodName "without_" field.ident) := by
  -- one accessor against the mutators of one field: a renamed accessor is no mutator
  have hmutators : ∀ field other : FieldUnit,
      (∀ mutator ∈ field.mutatorNames, bare (accessorName other.ident) ≠ mutator) ↔
        bare other.ident ≠ methodName "with_" field.ident ∧
          (field.isRequired = false → bare other.ident ≠ methodName "without_" field.ident) := by
    intro field other
    rw [Ne, ← FieldUnit.accessor_eq_iff (FieldUnit.startsLikeMutator_with _), Ne,
      ← FieldUnit.accessor_eq_iff (FieldUnit.startsLikeMutator_without _)]
    simp only [FieldUnit.mem_mutatorNames]
    constructor
    · exact fun hne => ⟨hne _ (.inl rfl), fun hoptional => hne _ (.inr ⟨hoptional, rfl⟩)⟩
    · rintro ⟨hwith, hwithout⟩ mutator (rfl | ⟨hoptional, rfl⟩)
      · exact hwith
      · exact hwithout hoptional
  simp only [List.forall_mem_map, List.mem_flatMap]
  constructor
  · intro hne field hfield other hother
    exact (hmutators field other).mp fun mutator hmutator =>
      hne other hother mutator ⟨field, hfield, hmutator⟩
  · rintro hne other hother mutator ⟨field, hfield, hmutator⟩
    exact (hmutators field other).mpr (hne field hfield other hother) mutator hmutator

omit hfields in
/-- The names of methods, group by group. -/
theorem methodNames_perm : (unit.methodNames.map bare).Perm
    ("new" :: lastMethods ++ (unit.fields.map (fun field => bare (accessorName field.ident)) ++
      unit.fields.flatMap (·.mutatorNames))) := by
  have hmutators : (unit.fields.flatMap (·.mutatorNames)).map bare =
      unit.fields.flatMap (·.mutatorNames) := by
    refine (List.map_congr_left fun name hname => ?_).trans (List.map_id _)
    obtain ⟨field, -, hfield⟩ := List.mem_flatMap.mp hname
    exact FieldUnit.bare_of_startsLikeMutator (FieldUnit.startsLikeMutator_of_mem hfield)
  have hlast : lastMethods.map bare = lastMethods := by decide +kernel
  have hnames : unit.methodNames.map bare = "new" ::
      (unit.fields.map (fun field => bare (accessorName field.ident)) ++
        unit.fields.flatMap (·.mutatorNames) ++ lastMethods) := by
    rw [methodNames, List.map_cons, List.map_append, List.map_append, List.map_map, hmutators,
      hlast]
    rfl
  rw [hnames]
  exact List.perm_append_comm.cons "new"

/-- **Distinct methods.**  When the fields are distinct identifiers, the methods are distinct
unless a field is called like a method of another field. -/
theorem nodup_bare_methodNames_iff : (unit.methodNames.map bare).Nodup ↔ unit.FieldsApart := by
  have hfixed : ("new" :: lastMethods).Nodup := by decide
  have hmethods : ∀ name ∈ "new" :: lastMethods, name ∈ structMethods := by decide
  -- the methods with fixed names meet no others
  have hothers : ∀ name ∈ "new" :: lastMethods,
      ∀ other ∈ unit.fields.map (fun field => bare (accessorName field.ident)) ++
        unit.fields.flatMap (·.mutatorNames), name ≠ other := by
    rintro name hname other hother rfl
    rcases List.mem_append.mp hother with haccessor | hmutator
    · obtain ⟨field, -, rfl⟩ := List.mem_map.mp haccessor
      exact FieldUnit.accessor_not_mem_structMethods _ (hmethods _ hname)
    · obtain ⟨field, -, hfield⟩ := List.mem_flatMap.mp hmutator
      exact (FieldUnit.not_startsLikeMutator_of_mem (hmethods _ hname)).1
        (FieldUnit.startsLikeMutator_of_mem hfield)
  rw [methodNames_perm.nodup_iff, List.nodup_append, List.nodup_append,
    nodup_accessors_iff hfields, accessors_ne_mutators_iff]
  constructor
  · rintro ⟨-, ⟨haccessors, -, hmutators⟩, -⟩
    exact ⟨haccessors, fun field hfield other hother => (hmutators field hfield other hother).1,
      fun field hfield other hother => (hmutators field hfield other hother).2⟩
  · rintro ⟨haccessors, hsetters, hremovers⟩
    exact ⟨hfixed, ⟨haccessors, nodup_mutatorNames hfields, fun field hfield other hother =>
      ⟨hsetters field hfield other hother, hremovers field hfield other hother⟩⟩, hothers⟩

end

end StructUnit

/-! ## Cases of enumerations -/

namespace EnumDefinition

/-- A literal spells the name of the constant that lists the cases, and no literal asks for a word
in front. -/
def SpellsAll [Spelling] (literals : List Json) : Prop :=
  (∀ literal ∈ literals, (caseLabel literal).2 = false) ∧
    ∃ literal ∈ literals, (caseLabel literal).1 = "ALL"

theorem all_mem_caseIdentifiers_iff [Spelling] {literals : List Json} :
    "ALL" ∈ caseIdentifiers literals ↔ SpellsAll literals := by
  have hall : IsUnnumbered "ALL" := by decide
  have hmarked : ∀ label, "VALUE_" ++ label ≠ "ALL" := by
    intro label hsame
    have hfirst := congrArg (fun name : String => name.toList.head?) hsame
    simp only [String.toList_append] at hfirst
    exact absurd (Option.some.inj hfirst) (by decide)
  have hidents : caseIdentifiers literals = ensureAllUnique [] ((literals.map caseLabel).map
      fun label => if (literals.map caseLabel).any (·.2) then "VALUE_" ++ label.1 else label.1) :=
    rfl
  rw [hidents, hall.mem_ensureAllUnique_iff, SpellsAll]
  simp only [List.mem_map, exists_exists_and_eq_and]
  -- one literal that asks for the prefix gives it to all cases, and no prefixed name is the
  -- constant
  cases hany : (literals.map caseLabel).any (·.2) with
  | true =>
      simp only [if_true]
      obtain ⟨label, hlabel, hmark⟩ := List.any_eq_true.mp hany
      obtain ⟨literal, hliteral, rfl⟩ := List.mem_map.mp hlabel
      refine iff_of_false ?_ ?_
      · rintro ⟨other, -, hsame⟩
        exact hmarked _ hsame
      · rintro ⟨hplain, -⟩
        rw [hplain literal hliteral] at hmark
        cases hmark
  | false =>
      have hplain : ∀ literal ∈ literals, (caseLabel literal).2 = false := by
        simpa using hany
      simp only [Bool.false_eq_true, if_false]
      exact (and_iff_right hplain).symm

/-- **A case called `ALL`.** -/
theorem all_mem_idents_iff [Spelling] {schema : Json} {supported : Bool}
    {definition : EnumDefinition} (hdefinition : ofSchema schema supported = .ok definition) :
    "ALL" ∈ definition.cases.map (·.ident) ↔
      SpellsAll (definition.cases.map (·.literal)) := by
  rw [idents_of_ofSchema hdefinition, all_mem_caseIdentifiers_iff]

end EnumDefinition

/-! ## Members -/

/-- **Members of generated types.**  The methods of a struct with distinct fields are distinct
unless a field is called like a method of another field.  No case of an enumeration is called like
the constant that lists the cases, unless a literal spells its name and no literal asks for a word
in front. -/
theorem members_distinct_iff [Spelling] (struct : StructUnit) (schema : Json) (supported : Bool)
    (enumeration : EnumUnit) :
    ((struct.fields.map fun field => bare field.ident).Nodup →
      Token.methodNames? struct.implementationCode.tokens =
          some (struct.methodNames ++
            Token.functionNames (Code.concat struct.extensions.methods).tokens) ∧
        ((struct.methodNames.map bare).Nodup ↔ struct.FieldsApart)) ∧
      (EnumDefinition.ofSchema schema supported = .ok enumeration.definition →
        ("ALL" ∉ enumeration.definition.cases.map (·.ident) ↔
          ¬EnumDefinition.SpellsAll (enumeration.definition.cases.map (·.literal)))) := by
  constructor
  · intro hfields
    exact ⟨struct.methodNames?_implementationCode, StructUnit.nodup_bare_methodNames_iff hfields⟩
  · intro hdefinition
    exact not_congr (EnumDefinition.all_mem_idents_iff hdefinition)

attribute [local instance] Spelling.plain

/-- A struct without such fields, and an enumeration without such a literal. -/
theorem members_distinct_nameAndLimit :
    (StructUnit.ofKeys ["name", "limit"]).methodNames =
        ["new", "name", "limit", "with_name", "without_name", "with_limit", "without_limit",
          "build_from_input", "validate_input", "to_json"] ∧
      (StructUnit.ofKeys ["name", "limit"]).FieldsApart ∧
      EnumDefinition.ofSchema EnumUnit.codeSchema true = .ok EnumUnit.codeUnit.definition ∧
        ¬EnumDefinition.SpellsAll (EnumUnit.codeUnit.definition.cases.map (·.literal)) := by
  have hfields : ((StructUnit.ofKeys ["name", "limit"]).fields.map
      fun field => bare field.ident).Nodup := by decide +kernel
  have hmethods : ((StructUnit.ofKeys ["name", "limit"]).methodNames.map bare).Nodup := by
    decide +kernel
  have hdefinition : EnumDefinition.ofSchema EnumUnit.codeSchema true =
      .ok EnumUnit.codeUnit.definition := rfl
  obtain ⟨hstruct, henumeration⟩ := members_distinct_iff (StructUnit.ofKeys ["name", "limit"])
    EnumUnit.codeSchema true EnumUnit.codeUnit
  refine ⟨by decide +kernel, ?_, hdefinition, ?_⟩
  · exact (hstruct hfields).2.mp hmethods
  · exact (henumeration hdefinition).mp (by decide)

/-- A field that is called like the mutator of another, and a literal that spells `ALL`. -/
theorem not_members_distinct_withA :
    (StructUnit.ofKeys ["a", "with_a"]).fields.map (·.ident) = ["a", "with_a"] ∧
      (StructUnit.ofKeys ["a", "with_a"]).methodNames =
        ["new", "a", "with_a", "with_a", "without_a", "with_with_a", "without_with_a",
          "build_from_input", "validate_input", "to_json"] ∧
      ¬((StructUnit.ofKeys ["a", "with_a"]).methodNames.map bare).Nodup ∧
      EnumDefinition.ofSchema EnumUnit.shadowingSchema true =
          .ok EnumUnit.shadowingUnit.definition ∧
        "ALL" ∈ EnumUnit.shadowingUnit.definition.cases.map (·.ident) := by
  have hidents : (StructUnit.ofKeys ["a", "with_a"]).fields.map (·.ident) = ["a", "with_a"] := by
    rw [StructUnit.idents_ofKeys]
    decide +kernel
  exact ⟨hidents, by decide +kernel, by decide +kernel, rfl, by decide⟩

end SchemaTypes
