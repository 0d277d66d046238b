import SchemaTypes.Proofs.Generation.Parts
import SchemaTypes.Proofs.Generation.Units
import SchemaTypes.Proofs.Schema.Definition
import SchemaTypes.Proofs.TypeUnit.Calls

/-!
# Which types generated code relies on

The expressions of a property call functions of other types, and each function exists on types of
one kind only.  This file tells when all these types are generated, and as the kind that is relied
on.

* `Property.relies`: the types that the expressions of a property rely on.
* `Generation.closed_iff`: when a run generates all of them.
-/

namespace SchemaTypes

open Outcome Resolve

/-! ## Types relied on -/

/-- The category that a minted type is generated as. -/
def MintedType.category : MintedType → TypeUnit.Category
  | .struct _ => .struct
  | .enumeration _ => .enumeration
  | .union _ _ _ => .union
  | .dynamic _ _ => .entry

section

variable [Spelling]

namespace Property

/-- The target of a reference, under `null` or in a collection too. -/
def target? : Property → Option ReferencedType
  | .reference target => some target
  | .collection _ _ item => item.target?
  | .nullable inner => inner.target?
  | _ => none

/-- The struct of a merged `allOf`, under `null` or in a collection too. -/
def merged? : Property → Option ClassRequest
  | .intersection request => some request
  | .collection _ _ item => item.merged?
  | .nullable inner => inner.merged?
  | _ => none

variable {target : ReferencedType → Prop} {isRequest : ClassRequest → Prop}
  {place : TypePath → Prop} {property : Property}

/-- What is relied on is the target of a reference or generated along with the property. -/
theorem mem_relies {relied : TypePath × TypeUnit.Category} : (property : Property) →
    (relied ∈ property.relies ↔
      (∃ own, property.target? = some own ∧ relied ∈ own.relies) ∨
        ∃ minted ∈ property.minted, relied = (minted.path, minted.category))
  | .collection _ _ item => mem_relies item
  | .nullable inner => mem_relies inner
  | .reference own => by simp [relies, target?, minted]
  | .nestedObject request | .intersection request => by
      simp [relies, target?, minted, MintedType.path, MintedType.category]
  | .union path docs alternatives => by
      simp [relies, target?, minted, MintedType.path, MintedType.category]
  | .enumeration own => by simp [relies, target?, minted, MintedType.path, MintedType.category]
  | .dynamic entry branches => by
      simp [relies, target?, minted, MintedType.path, MintedType.category]
  | .scalar kind => by simp [relies, target?, minted]
  | .mixed => by simp [relies, target?, minted]

omit [Spelling] in
/-- Types that a property needs itself are among all that are needed. -/
theorem minted_subset_needed : (property : Property) → property.minted ⊆ property.needed
  | .collection _ _ item => minted_subset_needed item
  | .nullable inner => minted_subset_needed inner
  | .nestedObject _ | .intersection _ | .enumeration _ | .scalar _ | .reference _ | .mixed =>
      List.Subset.refl _
  | .union _ _ _ | .dynamic _ _ => by simp [minted, needed]

omit [Spelling] in
/-- A struct is minted for a merged `allOf`, or for an object without `enum`. -/
theorem Resolved.struct_minted (hproperty : property.Resolved target isRequest place)
    {request : ClassRequest} (hminted : .struct request ∈ property.minted) :
    property.merged? = some request ∨ request.schema.enumValues? = none := by
  induction hproperty with
  | scalar | mixed | reference | enumeration | union | dynamic => simp [minted] at hminted
  | references own htarget hitem => rcases hitem with rfl | rfl <;> simp [minted] at hminted
  | collection hkind hitem ih => exact ih hminted
  | nullable hinner ih => exact ih hminted
  | nestedObject hrequest henum =>
      right
      simp only [minted, List.mem_singleton, MintedType.struct.injEq] at hminted
      exact hminted ▸ henum
  | intersection hrequest =>
      left
      simp only [minted, List.mem_singleton, MintedType.struct.injEq] at hminted
      rw [merged?, hminted]

omit [Spelling] in
theorem minted_of_merged? {request : ClassRequest} :
    (property : Property) → property.merged? = some request → .struct request ∈ property.minted
  | .collection _ _ item, hmerged => minted_of_merged? item hmerged
  | .nullable inner, hmerged => minted_of_merged? inner hmerged
  | .intersection own, hmerged => by
      rw [merged?, Option.some.injEq] at hmerged
      simp [minted, hmerged]

omit [Spelling] in
/-- What a resolved property refers to is the target of some reference. -/
theorem Resolved.of_target? (hproperty : property.Resolved target isRequest place)
    {own : ReferencedType} (hown : property.target? = some own) :
    ∃ found, target found ∧ (own = found ∨ own = found.unboxed) := by
  induction hproperty with
  | scalar | mixed | enumeration | union | dynamic | nestedObject | intersection => cases hown
  | references found htarget hitem =>
      refine ⟨found, htarget, .inr ?_⟩
      rcases hitem with rfl | rfl <;> exact (Option.some.inj hown).symm
  | collection hkind hitem ih => exact ih hown
  | nullable hinner ih => exact ih hown
  | reference htarget => exact ⟨_, Option.some.inj hown ▸ htarget, .inl rfl⟩

end Property

omit [Spelling] in
theorem ReferencedType.relies_unboxed (target : ReferencedType) :
    target.unboxed.relies = target.relies := by
  cases target <;> rfl

/-- What a request stands for has the path of the request.  It is a struct unless its schema has
`enum`. -/
theorem Generator.prepare_path {generator : Generator} {request : ClassRequest}
    {emission : Emission}
    (hprepare : generator.prepare request = .ok emission) :
    emission.path = request.path ∧
      emission.category = if request.schema.enumValues?.isSome then .enumeration else .struct := by
  rcases of_prepare hprepare with ⟨henum, definition, rfl⟩ | ⟨henum, merged, fields, -, -, rfl⟩
  · rw [if_pos henum]
    exact ⟨rfl, rfl⟩
  · rw [henum]
    exact ⟨rfl, rfl⟩

/-- The emission of a needed type has its path, and its kind unless it is an enumeration in the
place of a struct. -/
theorem Emission.Covers.path {generator : Generator} {emission : Emission} {minted : MintedType}
    (hcovers : emission.Covers generator minted) :
    emission.path = minted.path ∧
      (emission.category = minted.category ∨
        ∃ request, minted = .struct request ∧ request.schema.enumValues?.isSome ∧
          emission.category = .enumeration) := by
  cases minted with
  | struct request =>
      obtain ⟨hpath, hcategory⟩ := Generator.prepare_path hcovers
      refine ⟨hpath, ?_⟩
      by_cases henum : request.schema.enumValues?.isSome
      · rw [if_pos henum] at hcategory
        exact .inr ⟨request, rfl, henum, hcategory⟩
      · rw [if_neg henum] at hcategory
        exact .inl hcategory
  | enumeration | union | dynamic =>
      obtain rfl := hcovers
      exact ⟨rfl, .inl rfl⟩

/-! ## Parts of emitted units -/

namespace Emission

variable {generator : Generator} {emission : Emission}

/-- The fields of a unit are those of an emitted struct. -/
theorem exists_field {field : FieldUnit} (hfield : field ∈ (emission.unit generator).fields) :
    ∃ request fields, emission = .struct request fields ∧
      ∃ own ∈ fields, ∃ ident, field = .ofField own ident := by
  cases emission with
  | struct request fields =>
      rw [unit, Hooks.applyStruct_eq] at hfield
      replace hfield : field ∈ fields.zipWith FieldUnit.ofField
        (FieldUnit.identifiers (fields.map (·.key))) := hfield
      rw [← List.map_uncurry_zip_eq_zipWith] at hfield
      obtain ⟨⟨own, ident⟩, hown, rfl⟩ := List.mem_map.mp hfield
      exact ⟨request, fields, rfl, own, (List.of_mem_zip hown).1, ident, rfl⟩
  | enumeration | union | entry => cases hfield

/-- The variants of a unit are those of the properties of an emitted union or entry. -/
theorem exists_variant {variant : VariantUnit}
    (hvariant : variant ∈ (emission.unit generator).variants) :
    ∃ property ∈ emission.properties, ∃ ident condition,
      variant = .ofProperty ident property condition ∧
        (condition.Reads [] ∨ condition = property.inputAssertion (.word "input")) := by
  cases emission with
  | struct | enumeration => cases hvariant
  | union path docs alternatives =>
      rw [unit, Hooks.applyUnion_eq] at hvariant
      simp only [TypeUnit.variants, UnionUnit.allVariants, UnionUnit.assemble, Option.toList_none,
        List.append_nil, List.mem_map] at hvariant
      obtain ⟨alternative, halternative, rfl⟩ := hvariant
      exact ⟨_, List.mem_map_of_mem halternative, _, _, rfl, .inr rfl⟩
  | entry path branches =>
      rw [unit, Hooks.applyUnion_eq] at hvariant
      -- branches with a pattern test the key; the one for other keys comes last and tests nothing
      rcases List.mem_append.mp hvariant with hpatterned | hfallback
      · obtain ⟨branch, hbranch, rfl⟩ := List.mem_map.mp hpatterned
        refine ⟨_, List.mem_map_of_mem (List.mem_filter.mp hbranch).1, _, _, rfl, .inl ?_⟩
        exact ((Code.reads_string _).comma (Code.reads_word "key")).supportCall ["decode"]
          (show "matches_pattern" ∉ decoders by decide)
      · obtain ⟨branch, hbranch, rfl⟩ := Option.map_eq_some_iff.mp (Option.mem_toList.mp hfallback)
        exact ⟨_, List.mem_map_of_mem (List.mem_of_find?_eq_some hbranch), _, _, rfl,
          .inl (Code.reads_word "true")⟩

omit [Spelling] in
theorem mem_properties {request : ClassRequest} {fields : List ResolvedField}
    {field : ResolvedField} (hfield : field ∈ fields) :
    field.property.inner ∈ (Emission.struct request fields).properties :=
  List.mem_map.mpr ⟨field, hfield, rfl⟩

/-- The types of the fields and variants are those that the properties rely on. -/
theorem exists_reliesOn {shape : TypeShape} (hshape : shape ∈ (emission.unit generator).shapes)
    {path : TypePath} (hpath : shape.path? = some path) :
    ∃ property ∈ emission.properties, property.ReliesOn path := by
  rcases List.mem_append.mp hshape with hfields | hvariants
  · obtain ⟨field, hfield, hshape⟩ := List.mem_flatMap.mp hfields
    obtain ⟨request, fields, rfl, own, hown, ident, rfl⟩ := exists_field hfield
    exact ⟨_, mem_properties hown, FieldUnit.reliesOn_of_shape hshape hpath⟩
  · obtain ⟨variant, hvariant, rfl⟩ := List.mem_map.mp hvariants
    obtain ⟨property, hproperty, ident, condition, rfl, -⟩ := exists_variant hvariant
    exact ⟨property, hproperty, Property.reliesOn_of_fieldShape hpath⟩

/-- **The expressions of a unit** call functions that the types relied on have. -/
theorem exists_relied_of_call {code : Code} (hcode : code ∈ (emission.unit generator).expressions)
    {call : Call} (hcall : call ∈ code.decodings) :
    ∃ property ∈ emission.properties, ∃ category,
      (call.type, category) ∈ property.relies ∧ call.function ∈ category.functions := by
  have hdecoding : ∀ {relied}, call ∈ decodingCalls relied → ∃ category,
      (call.type, category) ∈ relied ∧ call.function ∈ category.functions := by
    intro relied hcall
    obtain ⟨⟨path, category⟩, hrelied, rfl⟩ := List.mem_map.mp hcall
    exact ⟨category, hrelied, List.mem_cons_self⟩
  have htesting : ∀ {relied}, call ∈ testingCalls relied → ∃ category,
      (call.type, category) ∈ relied ∧ call.function ∈ category.functions := by
    intro relied hcall
    obtain ⟨⟨path, category⟩, hrelied, hsame⟩ := List.mem_filterMap.mp hcall
    obtain ⟨function, hfunction, rfl⟩ := Option.map_eq_some_iff.mp hsame
    exact ⟨category, hrelied, List.mem_cons_of_mem _ (Option.mem_toList.mpr hfunction)⟩
  -- fields decode, variants decode and test; no other expression calls a type
  rcases List.mem_append.mp hcode with hfields | hvariants
  · obtain ⟨field, hfield, hcode⟩ := List.mem_flatMap.mp hfields
    obtain ⟨request, fields, rfl, own, hown, ident, rfl⟩ := exists_field hfield
    refine ⟨_, mem_properties hown, ?_⟩
    rcases FieldUnit.reads_expressions hcode with hreads | hreads
    · exact hdecoding (hreads.decodings_eq ▸ hcall)
    · rw [hreads.decodings_eq] at hcall
      cases hcall
  · obtain ⟨variant, hvariant, hcode⟩ := List.mem_flatMap.mp hvariants
    obtain ⟨property, hproperty, ident, condition, rfl, hcondition⟩ := exists_variant hvariant
    refine ⟨property, hproperty, ?_⟩
    rcases VariantUnit.reads_expressions hcondition hcode with hreads | hreads | hreads
    · exact hdecoding (hreads.decodings_eq ▸ hcall)
    · exact htesting (hreads.decodings_eq ▸ hcall)
    · rw [hreads.decodings_eq] at hcall
      cases hcall

end Emission

/-! ## Targets of references -/

namespace Generation

variable {generation : Generation}

/-- The type of the root. -/
def rootPath (generation : Generation) : TypePath :=
  .inNamespace generation.options.moduleRoot [] generation.rootName

/-- What references to a definition stand for. -/
def targetOf (generation : Generation) (definition : Definition) : ReferencedType :=
  .ofDefinition definition.pointer
    (.inNamespace generation.options.moduleRoot definition.namespace definition.typeName)
    definition.schema generation.options.enumsSupported
    (generation.targets.cyclic.contains definition.pointer)

/-- The request for a definition. -/
def requestOf (generation : Generation) (definition : Definition) : ClassRequest where
  schema := definition.schema
  typeName := definition.typeName
  moduleRoot := generation.options.moduleRoot
  «namespace» := definition.namespace
  pointer := definition.pointer
  depth := 0

theorem find_root (hexternal : generation.external = []) :
    generation.targets.find Pointer.root =
      .struct generation.rootPath (generation.targets.cyclic.contains Pointer.root) := by
  simp [Lookup.find, targets, lookup, hexternal, rootPath]

/-- Definitions are looked up in a list that holds one entry for each. -/
theorem exists_of_lookup_definitions {reference : String} {found : ReferencedType}
    (hlookup : generation.targets.definitions.lookup reference = some found) :
    ∃ definition ∈ generation.definitions, definition.pointer = reference ∧
      found = generation.targetOf definition := by
  obtain ⟨before, after, hsplit, -⟩ := List.lookup_eq_some_iff.mp hlookup
  have hmember : (reference, found) ∈ generation.targets.definitions := by
    rw [hsplit]
    simp
  obtain ⟨definition, hdefinition, hsame⟩ := List.mem_map.mp hmember
  obtain ⟨rfl, rfl⟩ := Prod.mk.inj hsame
  exact ⟨definition, hdefinition, rfl, rfl⟩

/-- Other references stand for definitions, if for anything. -/
theorem find_cases (hexternal : generation.external = []) {reference : String}
    (hreference : reference ≠ Pointer.root) :
    (∃ definition ∈ generation.definitions, definition.pointer = reference ∧
        generation.targets.find reference = generation.targetOf definition) ∨
      generation.targets.find reference = .unknown reference := by
  have hfind : generation.targets.find reference =
      (generation.targets.definitions.lookup reference).getD (.unknown reference) := by
    simp [Lookup.find, targets, lookup, hexternal, hreference]
  rw [hfind]
  cases hlookup : generation.targets.definitions.lookup reference with
  | none => exact .inr rfl
  | some found => exact .inl (exists_of_lookup_definitions hlookup)

/-- A definition that references stand for is requested, and its kind is the one that references
rely on. -/
theorem mem_requests_of_relies {definition : Definition}
    (hdefinition : definition ∈ generation.definitions)
    (hfind : generation.targets.find definition.pointer = generation.targetOf definition)
    {relied : TypePath × TypeUnit.Category}
    (hrelied : relied ∈ (generation.targetOf definition).relies) :
    generation.requestOf definition ∈ generation.requests ∧
      relied = ((generation.requestOf definition).path,
        if definition.schema.enumValues?.isSome then .enumeration else .struct) := by
  -- both the request and the kind follow from what the definition looks up to
  have hkind :
      (generation.targetOf definition).path? = some (generation.requestOf definition).path ∧
      relied = ((generation.requestOf definition).path,
        if definition.schema.enumValues?.isSome then .enumeration else .struct) := by
    unfold targetOf ReferencedType.ofDefinition at hrelied ⊢
    by_cases henum : definition.schema.enumValues?.isSome
    · rw [if_pos henum] at hrelied ⊢
      rw [if_pos henum]
      split at hrelied
      · exact ⟨rfl, List.mem_singleton.mp hrelied⟩
      · cases hrelied
    · rw [if_neg henum] at hrelied ⊢
      rw [if_neg henum]
      split at hrelied
      · rename_i hshape
        rw [if_pos hshape]
        exact ⟨rfl, List.mem_singleton.mp hrelied⟩
      · cases hrelied
  refine ⟨List.mem_append_left _ (List.mem_filterMap.mpr ⟨definition, hdefinition, ?_⟩), hkind.2⟩
  unfold definitionRequest?
  dsimp only
  rw [hfind, hkind.1]
  exact if_pos (beq_self_eq_true _)

/-! ## Emissions of a run -/

theorem mem_emissions {emission : Emission} :
    emission ∈ generation.emissions ↔
      ∃ request ∈ generation.requests, emission ∈ generation.emissionsOf request :=
  List.mem_flatMap

/-- A request lies in a namespace below the module that generated code is mounted at. -/
def LiesIn (generation : Generation) («namespace» : List String) (request : ClassRequest) : Prop :=
  request.moduleRoot = generation.options.moduleRoot ∧ request.namespace = «namespace»

/-- A type lies in a namespace below the module that generated code is mounted at. -/
def Inside (generation : Generation) («namespace» : List String) (path : TypePath) : Prop :=
  ∃ name, path = .inNamespace generation.options.moduleRoot «namespace» name

theorem LiesIn.path {«namespace» : List String} {request : ClassRequest}
    (hrequest : generation.LiesIn «namespace» request) :
    generation.Inside «namespace» request.path :=
  ⟨request.typeName, by rw [ClassRequest.path, hrequest.1, hrequest.2]⟩

theorem liesIn_of_mem {request : ClassRequest} (hrequest : request ∈ generation.requests) :
    generation.LiesIn request.namespace request := by
  refine ⟨?_, rfl⟩
  rcases List.mem_append.mp hrequest with hdefinition | hroot
  · obtain ⟨definition, -, hdefinition⟩ := List.mem_filterMap.mp hdefinition
    unfold definitionRequest? at hdefinition
    dsimp only at hdefinition
    split at hdefinition
    · obtain rfl := Option.some.inj hdefinition
      rfl
    · cases hdefinition
  · split at hroot
    · obtain rfl := List.mem_singleton.mp hroot
      rfl
    · cases hroot

/-- The fields of all structs are resolved, in the namespace of their request. -/
theorem resolved_fields («namespace» : List String) (request prepared : ClassRequest)
    (fields : List ResolvedField) (hrequest : generation.LiesIn «namespace» request)
    (hprepare : generation.generator.prepare request = .ok (.struct prepared fields)) :
    ∀ field ∈ fields, field.property.inner.Resolved
      (fun target => ∃ reference, target = generation.targets.find reference)
      (generation.LiesIn «namespace») (generation.Inside «namespace») := by
  have hcases : ∀ (request : ClassRequest) (schema : Json), generation.LiesIn «namespace» request →
      NodeCases generation.generator.context { request with schema } (fun _ => True)
        (fun target => ∃ reference, target = generation.targets.find reference)
        (generation.LiesIn «namespace») (generation.Inside «namespace») := by
    intro request schema hrequest
    exact {
      reference := fun _ reference _ _ => ⟨reference, rfl⟩
      items := fun _ _ _ _ _ => trivial
      alternatives := fun _ _ _ _ => trivial
      patterns := fun _ _ _ _ => trivial
      additional := fun _ _ _ _ => trivial
      path := fun key suffix => ⟨request.nameFor key suffix, by
        rw [← hrequest.1, ← hrequest.2]
        rfl⟩
      nested := fun _ _ _ _ _ => hrequest
      merged := fun _ _ _ _ _ _ _ => hrequest }
  exact Generator.resolved_of_prepare hcases (by simp) hrequest hprepare

theorem resolved_of_mem {emission : Emission} (hemission : emission ∈ generation.emissions)
    {property : Property} (hproperty : property ∈ emission.properties) :
    ∃ «namespace», property.Resolved
      (fun target => ∃ reference, target = generation.targets.find reference)
      (generation.LiesIn «namespace») (generation.Inside «namespace») := by
  obtain ⟨request, hrequest, hemitted⟩ := mem_emissions.mp hemission
  exact ⟨request.namespace, (Generator.resolved_of_mem_emissions (resolved_fields request.namespace)
    (liesIn_of_mem hrequest) hemitted).1 property hproperty⟩

/-- The fields of emitted structs are decorated properties. -/
theorem exists_decorated {request : ClassRequest} {fields : List ResolvedField}
    (hemission : .struct request fields ∈ generation.emissions) {field : ResolvedField}
    (hfield : field ∈ fields) :
    ∃ property required default nullableDefaults,
      .decorate property required default nullableDefaults = field.property := by
  obtain ⟨own, hown, hemitted⟩ := mem_emissions.mp hemission
  rcases (Generator.resolved_of_mem_emissions (resolved_fields own.namespace)
    (liesIn_of_mem hown) hemitted).2 with ⟨other, -, hprepare⟩ | ⟨hnone, -⟩
  · obtain ⟨-, merged, -, -, hfields⟩ := Generator.prepare_struct hprepare
    obtain ⟨entry, -, pointer, property, -, hsame⟩ := exists_entry_of_resolveFields hfields hfield
    exact ⟨property, _, _, _, hsame⟩
  · exact absurd rfl (hnone request fields)

/-- Everything is emitted in the namespace of its request. -/
theorem inside_of_mem_emissionsOf {request : ClassRequest}
    (hrequest : request ∈ generation.requests)
    {emission : Emission} (hemission : emission ∈ generation.emissionsOf request) :
    generation.Inside request.namespace emission.path := by
  rcases (Generator.resolved_of_mem_emissions (resolved_fields request.namespace)
    (liesIn_of_mem hrequest) hemission).2 with ⟨own, hown, hprepare⟩ | ⟨-, hplace⟩
  · rw [(Generator.prepare_path hprepare).1]
    exact hown.path
  · exact hplace

/-- What has the path of the root is emitted for the root. -/
theorem eq_rootRequest {request : ClassRequest} (hrequest : request ∈ generation.requests)
    {emission : Emission} (hemission : emission ∈ generation.emissionsOf request)
    (hpath : emission.path = generation.rootPath) :
    isRealizableRoot generation.document generation.definitions ∧
      request = rootRequest generation.document generation.rootName generation.options := by
  obtain ⟨name, hname⟩ := inside_of_mem_emissionsOf hrequest hemission
  have hnamespace : request.namespace = [] := by
    have hlength := congrArg (·.modules.length) (hname.symm.trans hpath)
    simp only [rootPath, TypePath.inNamespace, List.length_append, List.length_map,
      List.length_nil] at hlength
    exact List.length_eq_zero_iff.mp (by omega)
  rcases List.mem_append.mp hrequest with hdefinition | hroot
  · -- no definition lies in the namespace of the root
    obtain ⟨definition, hmember, hdefinition⟩ := List.mem_filterMap.mp hdefinition
    refine absurd hnamespace ?_
    have hbelow := (Definition.declared_of_mem_collect hmember).namespace_ne_nil
    unfold definitionRequest? at hdefinition
    dsimp only at hdefinition
    split at hdefinition
    · obtain rfl := Option.some.inj hdefinition
      exact hbelow
    · cases hdefinition
  · split at hroot
    · rename_i hrealizable
      exact ⟨hrealizable, List.mem_singleton.mp hroot⟩
    · cases hroot

variable {output : GenerationOutput}

theorem emitsNeeded (hrun : generation.run = .ok output) {request : ClassRequest}
    (hrequest : request ∈ generation.requests) :
    generation.generator.EmitsNeeded (generation.options.maxDepth + 1) request := by
  obtain ⟨before, after, hrealize⟩ := exists_realize hrun hrequest
  exact Generator.emitsNeeded_of_realize (resolved_fields request.namespace)
    (liesIn_of_mem hrequest) hrealize

/-- Every requested type is emitted. -/
theorem exists_prepared (hrun : generation.run = .ok output) {request : ClassRequest}
    (hrequest : request ∈ generation.requests) :
    ∃ emission ∈ generation.emissions, emission.path = request.path ∧
      emission.category = if request.schema.enumValues?.isSome then .enumeration else .struct := by
  obtain ⟨emission, hemission, hprepare⟩ := (emitsNeeded hrun hrequest).first
  exact ⟨emission, mem_emissions.mpr ⟨request, hrequest, hemission⟩,
    Generator.prepare_path hprepare⟩

/-- Every type that a property needs is emitted. -/
theorem exists_covering (hrun : generation.run = .ok output) {emission : Emission}
    (hemission : emission ∈ generation.emissions) {property : Property}
    (hproperty : property ∈ emission.properties) {minted : MintedType}
    (hminted : minted ∈ property.minted) :
    ∃ other ∈ generation.emissions, other.Covers generation.generator minted := by
  obtain ⟨request, hrequest, hemitted⟩ := mem_emissions.mp hemission
  obtain ⟨other, hcovers, horder⟩ := (emitsNeeded hrun hrequest).needed emission hemitted property
    hproperty minted (Property.minted_subset_needed property hminted)
  exact ⟨other, mem_emissions.mpr ⟨request, hrequest, horder.subset (by simp)⟩, hcovers⟩

/-- An emission is known by its path. -/
theorem emission_eq (hrun : generation.run = .ok output)
    (hfree : CollisionFree output.stats.warnings) {emission other : Emission}
    (hemission : emission ∈ generation.emissions) (hother : other ∈ generation.emissions)
    (hpath : emission.path = other.path) : emission = other :=
  List.inj_on_of_nodup_map (nodup_paths hrun hfree) hemission hother hpath

/-- A struct at the path of the root is generated for a root without `enum`. -/
theorem root_of_mem_emissions {emission : Emission} (hemission : emission ∈ generation.emissions)
    (hpath : emission.path = generation.rootPath) (hcategory : emission.category = .struct) :
    isRealizableRoot generation.document generation.definitions ∧
      generation.document.enumValues? = none := by
  obtain ⟨request, hrequest, hemitted⟩ := mem_emissions.mp hemission
  obtain ⟨hrealizable, rfl⟩ := eq_rootRequest hrequest hemitted hpath
  refine ⟨hrealizable, ?_⟩
  rw [emissionsOf, Generator.emissions] at hemitted
  cases hfirst : generation.generator.prepare
      (rootRequest generation.document generation.rootName generation.options) with
  | error failure =>
      rw [hfirst] at hemitted
      cases hemitted
  | ok first =>
      rw [hfirst] at hemitted
      -- a request with `enum` emits nothing but the enumeration
      rcases Generator.prepare_cases hfirst with ⟨target, rfl⟩ | ⟨own, resolved, rfl⟩
      · obtain rfl : emission = .enumeration target := by simpa [Emission.needed] using hemitted
        cases hcategory
      · exact (Generator.prepare_struct hfirst).1

/-- A root that can be realized is generated as a struct when it has no `enum`. -/
theorem exists_root_struct (hrun : generation.run = .ok output)
    (hrealizable : isRealizableRoot generation.document generation.definitions)
    (henum : generation.document.enumValues? = none) :
    ∃ emission ∈ generation.emissions,
      emission.path = generation.rootPath ∧ emission.category = .struct := by
  have hrequest : rootRequest generation.document generation.rootName generation.options ∈
      generation.requests := by
    rw [requests, if_pos hrealizable]
    exact List.mem_append_right _ (List.mem_singleton_self _)
  obtain ⟨emission, hemission, hpath, hcategory⟩ := exists_prepared hrun hrequest
  refine ⟨emission, hemission, hpath, hcategory.trans (if_neg ?_)⟩
  simp [rootRequest, henum]

/-! ## Closure -/

/-- All types that generated code names are generated, and as what the code takes them for. -/
structure Closed (generation : Generation) (output : GenerationOutput) : Prop where
  /-- The types of fields and variants are reported. -/
  named : ∀ unit ∈ generation.units, ∀ shape ∈ unit.shapes, ∀ path, shape.path? = some path →
    ∃ type ∈ output.types, type.path = path
  /-- Called functions exist. -/
  called : ∀ unit ∈ generation.units, ∀ code ∈ unit.expressions, ∀ call ∈ code.decodings,
    ∃ type ∈ output.types, type.path = call.type ∧ call.function ∈ type.category.functions
  /-- Types are of the kind that a property takes them for. -/
  relied : ∀ emission ∈ generation.emissions, ∀ property ∈ emission.properties,
    ∀ relied ∈ property.relies,
      ∃ type ∈ output.types, type.path = relied.1 ∧ type.category = relied.2
  /-- Defaults name cases of enumerations. -/
  defaults : ∀ request fields, .struct request fields ∈ generation.emissions →
    ∀ field ∈ fields, ∀ path ∈ field.property.enumerations,
      ∃ type ∈ output.types, type.path = path ∧ type.category = .enumeration

/-- It is enough that types are of the kind that properties take them for. -/
theorem closed_of_relied (hrun : generation.run = .ok output)
    (hfree : CollisionFree output.stats.warnings)
    (hrelied : ∀ emission ∈ generation.emissions, ∀ property ∈ emission.properties,
      ∀ relied ∈ property.relies,
        ∃ type ∈ output.types, type.path = relied.1 ∧ type.category = relied.2) :
    Closed generation output := by
  -- without collisions the units are those of the emissions, so that types in units are types of
  -- properties
  have hemission : ∀ unit ∈ generation.units, ∃ emission ∈ generation.emissions,
      emission.unit generation.generator = unit := by
    intro unit hunit
    rw [units_eq hrun hfree] at hunit
    exact List.mem_map.mp hunit
  refine ⟨?_, ?_, hrelied, ?_⟩
  · intro unit hunit shape hshape path hpath
    obtain ⟨emission, hemission, rfl⟩ := hemission unit hunit
    obtain ⟨property, hproperty, category, hreliesOn⟩ := Emission.exists_reliesOn hshape hpath
    obtain ⟨type, htype, hsame, -⟩ := hrelied emission hemission property hproperty _ hreliesOn
    exact ⟨type, htype, hsame⟩
  · intro unit hunit code hcode call hcall
    obtain ⟨emission, hemission, rfl⟩ := hemission unit hunit
    obtain ⟨property, hproperty, category, hreliesOn, hfunction⟩ :=
      Emission.exists_relied_of_call hcode hcall
    obtain ⟨type, htype, hsame, rfl⟩ := hrelied emission hemission property hproperty _ hreliesOn
    exact ⟨type, htype, hsame, hfunction⟩
  · intro request fields hemission field hfield path hpath
    obtain ⟨property, required, default, nullableDefaults, hdecorated⟩ :=
      exists_decorated hemission hfield
    exact hrelied _ hemission _ (Emission.mem_properties hfield) (path, .enumeration)
      (FieldProperty.mem_relies_of_decorate hdecorated hpath)

/-- The root is generated as a struct when a reference takes it for one. -/
def RootFits (generation : Generation) : Prop :=
  ∀ emission ∈ generation.emissions, ∀ property ∈ emission.properties, ∀ boxed,
    property.target? = some (.struct generation.rootPath boxed) →
      isRealizableRoot generation.document generation.definitions ∧
        generation.document.enumValues? = none

/-- No merged `allOf` of a property has an `enum`. -/
def MergesFit (generation : Generation) : Prop :=
  ∀ emission ∈ generation.emissions, ∀ property ∈ emission.properties, ∀ request,
    property.merged? = some request → request.schema.enumValues? = none

/-- A reference that takes the root for a struct relies on it. -/
theorem rootFits_of_closed (hrun : generation.run = .ok output)
    (hfree : CollisionFree output.stats.warnings) (hclosed : Closed generation output) :
    RootFits generation := by
  intro emission hemission property hproperty boxed htarget
  have hrelied := (property.mem_relies).mpr (.inl ⟨_, htarget, List.mem_singleton_self _⟩)
  obtain ⟨found, hfound, hpath, hcategory⟩ := (exists_type_iff hrun hfree).mp
    (hclosed.relied emission hemission property hproperty _ hrelied)
  exact root_of_mem_emissions hfound hpath hcategory

/-- A property that merges an `allOf` relies on a struct. -/
theorem mergesFit_of_closed (hrun : generation.run = .ok output)
    (hfree : CollisionFree output.stats.warnings) (hclosed : Closed generation output) :
    MergesFit generation := by
  intro emission hemission property hproperty request hmerged
  have hminted := Property.minted_of_merged? property hmerged
  have hrelied := (property.mem_relies).mpr (.inr ⟨_, hminted, rfl⟩)
  obtain ⟨found, hfound, hpath, hcategory⟩ := (exists_type_iff hrun hfree).mp
    (hclosed.relied emission hemission property hproperty _ hrelied)
  -- the path of the merged struct belongs to what its request stands for
  obtain ⟨other, hother, hcovers⟩ := exists_covering hrun hemission hproperty hminted
  obtain ⟨hsame, hkind⟩ := Generator.prepare_path hcovers
  obtain rfl := emission_eq hrun hfree hfound hother (hpath.trans hsame.symm)
  by_contra henum
  rw [if_pos (Option.isSome_iff_ne_none.mpr henum), hcategory] at hkind
  cases hkind

/-- What a property refers to is emitted as the kind of type that the reference takes it for. -/
theorem exists_emission_of_target? (hrun : generation.run = .ok output)
    (hexternal : generation.external = []) (hroot : RootFits generation) {emission : Emission}
    (hemission : emission ∈ generation.emissions) {property : Property}
    (hproperty : property ∈ emission.properties) {own : ReferencedType}
    (htarget : property.target? = some own) {relied : TypePath × TypeUnit.Category}
    (hown : relied ∈ own.relies) :
    ∃ found ∈ generation.emissions, found.path = relied.1 ∧ found.category = relied.2 := by
  obtain ⟨«namespace», hresolved⟩ := resolved_of_mem hemission hproperty
  obtain ⟨found, ⟨reference, rfl⟩, hunboxed⟩ := hresolved.of_target? htarget
  have hfound : relied ∈ (generation.targets.find reference).relies := by
    rcases hunboxed with rfl | rfl
    · exact hown
    · rwa [ReferencedType.relies_unboxed] at hown
  -- the root is always taken for a struct, a definition for what it is
  by_cases hreference : reference = Pointer.root
  · rw [hreference, find_root hexternal] at hfound hunboxed
    obtain rfl := List.mem_singleton.mp hfound
    obtain ⟨boxed, rfl⟩ : ∃ boxed, own = .struct generation.rootPath boxed := by
      rcases hunboxed with rfl | rfl <;> exact ⟨_, rfl⟩
    obtain ⟨hrealizable, henum⟩ := hroot emission hemission property hproperty boxed htarget
    exact exists_root_struct hrun hrealizable henum
  · rcases find_cases hexternal hreference with ⟨definition, hdefinition, rfl, hfind⟩ | hunknown
    · rw [hfind] at hfound
      obtain ⟨hrequest, rfl⟩ := mem_requests_of_relies hdefinition hfind hfound
      exact exists_prepared hrun hrequest
    · rw [hunknown] at hfound
      cases hfound

/-- What a property mints is emitted as the kind of type that it is minted as. -/
theorem exists_emission_of_minted (hrun : generation.run = .ok output)
    (hmerges : MergesFit generation) {emission : Emission}
    (hemission : emission ∈ generation.emissions) {property : Property}
    (hproperty : property ∈ emission.properties) {minted : MintedType}
    (hminted : minted ∈ property.minted) :
    ∃ found ∈ generation.emissions,
      found.path = minted.path ∧ found.category = minted.category := by
  obtain ⟨«namespace», hresolved⟩ := resolved_of_mem hemission hproperty
  obtain ⟨other, hother, hcovers⟩ := exists_covering hrun hemission hproperty hminted
  obtain ⟨hpath, hcategory | ⟨request, rfl, henum, -⟩⟩ := hcovers.path
  · exact ⟨other, hother, hpath, hcategory⟩
  · -- an enumeration can take the place of a struct only for a merged `allOf`
    have hnone : request.schema.enumValues? = none :=
      (hresolved.struct_minted hminted).elim
        (fun hmerged => hmerges emission hemission property hproperty request hmerged) id
    rw [hnone] at henum
    cases henum

/-- **Closure.**  A run without collisions and without existing types generates all types that its
expressions rely on if and only if the root is generated as a struct where a reference takes it for
one, and no `allOf` that a property merges has an `enum` next to it. -/
theorem closed_iff (hrun : generation.run = .ok output) (hexternal : generation.external = [])
    (hfree : CollisionFree output.stats.warnings) :
    Closed generation output ↔ RootFits generation ∧ MergesFit generation := by
  constructor
  · intro hclosed
    exact ⟨rootFits_of_closed hrun hfree hclosed, mergesFit_of_closed hrun hfree hclosed⟩
  · rintro ⟨hroot, hmerges⟩
    refine closed_of_relied hrun hfree ?_
    intro emission hemission property hproperty relied hrelied
    refine (exists_type_iff hrun hfree).mpr ?_
    rcases (property.mem_relies).mp hrelied with ⟨own, htarget, hown⟩ | ⟨minted, hminted, rfl⟩
    · exact exists_emission_of_target? hrun hexternal hroot hemission hproperty htarget hown
    · exact exists_emission_of_minted hrun hmerges hemission hproperty hminted

end Generation

end

namespace Generation

attribute [local instance] Spelling.plain

/-- A root with a property that refers to the root. -/
def selfReference : Generation where
  document := .object [("type", .string "object"),
    ("properties", .object [("self", .object [("$ref", .string "#")])])]
  rootName := "Root"

set_option maxRecDepth 10000 in
theorem exists_selfReference :
    ∃ output, selfReference.run = .ok output ∧ CollisionFree output.stats.warnings := by
  have hcheck : selfReference.run.toOption.any
      (fun output => decide (CollisionFree output.stats.warnings)) = true := by
    decide +kernel
  obtain ⟨output, hrun, hfree⟩ := exists_ok_of_any hcheck
  exact ⟨output, hrun, of_decide_eq_true hfree⟩

theorem closed_selfReference :
    ∃ output, selfReference.run = .ok output ∧ selfReference.external = [] ∧
      CollisionFree output.stats.warnings ∧ Closed selfReference output := by
  obtain ⟨output, hrun, hfree⟩ := exists_selfReference
  refine ⟨output, hrun, rfl, hfree, (closed_iff hrun rfl hfree).mpr ⟨?_, ?_⟩⟩
  · intro _ _ _ _ _ _
    exact ⟨by decide +kernel, by decide +kernel⟩
  · have hnone : ∀ emission ∈ selfReference.emissions, ∀ property ∈ emission.properties,
        property.merged?.isNone = true := by
      decide +kernel
    intro emission hemission property hproperty request hmerged
    have hproperty := hnone emission hemission property hproperty
    rw [hmerged] at hproperty
    cases hproperty

/-- A property that merges an `allOf` next to an `enum`. -/
def mergedEnumeration : Generation where
  document := .object [("type", .string "object"),
    ("properties", .object [("p", .object [
      ("allOf", .array [.object [("type", .string "object")]]),
      ("enum", .array [.number (.integer 1)])])])]
  rootName := "Root"

set_option maxRecDepth 10000 in
/-- The property is decoded as a struct, but an enumeration is generated for it. -/
theorem not_closed_mergedEnumeration :
    ∃ output, mergedEnumeration.run = .ok output ∧ mergedEnumeration.external = [] ∧
      CollisionFree output.stats.warnings ∧ ¬Closed mergedEnumeration output := by
  let path : TypePath := ⟨["crate"], "RootP"⟩
  have hcalled : ∃ unit ∈ mergedEnumeration.units, ∃ code ∈ unit.expressions,
      ⟨path, "build_from_input"⟩ ∈ code.decodings := by
    decide +kernel
  have hcheck : mergedEnumeration.run.toOption.any (fun output =>
      decide (CollisionFree output.stats.warnings ∧ ∀ type ∈ output.types,
        type.path = path → "build_from_input" ∉ type.category.functions)) = true := by
    decide +kernel
  obtain ⟨output, hrun, hchecked⟩ := exists_ok_of_any hcheck
  obtain ⟨hfree, htypes⟩ := of_decide_eq_true hchecked
  refine ⟨output, hrun, rfl, hfree, fun hclosed => ?_⟩
  obtain ⟨unit, hunit, code, hcode, hcall⟩ := hcalled
  obtain ⟨type, htype, hpath, hfunction⟩ := hclosed.called unit hunit code hcode _ hcall
  exact htypes type htype hpath hfunction

end Generation

end SchemaTypes
