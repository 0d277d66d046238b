import SchemaTypes.Proofs.Generation.Closure
import SchemaTypes.Proofs.Property.Decoding

/-!
# Defaults of resolved properties

What resolution makes of a node looks up cases in enumerations only, be it one of its own or one
that a reference stands for.  So the default of every resolved property decodes like the same value
given explicitly, up to the one clash of names that enumerations have.

* `Generation.resolutionCases_looksUpEnumeration`: what resolved properties look up.
* `Generation.decodesAlike_iff`: when a default and the same value given explicitly decode alike.
-/

namespace SchemaTypes

/-! ## What a resolved property looks up -/

namespace Generation

variable {generation : Generation}

/-- References stand for enumerations of definitions only. -/
theorem looksUpEnumeration_find [Spelling] (reference : String) :
    (Property.reference (generation.targets.find reference)).LooksUpEnumeration := by
  intro path definition hlookUp
  have htarget := Property.lookUp?_reference.mp hlookUp
  unfold Lookup.find at htarget
  split at htarget
  · cases htarget
  · split at htarget
    · cases htarget
    · cases hlookup : generation.targets.definitions.lookup reference with
      | none =>
          rw [hlookup] at htarget
          cases htarget
      | some found =>
          rw [hlookup, Option.getD_some] at htarget
          obtain ⟨own, -, -, rfl⟩ := exists_of_lookup_definitions hlookup
          unfold targetOf ReferencedType.ofDefinition at htarget
          split at htarget
          · split at htarget
            · rename_i hdefinition
              cases htarget
              exact ⟨_, EnumDefinition.isEnumeration_of_ofSchema hdefinition⟩
            · cases htarget
          · split at htarget <;> cases htarget

/-- **Resolved properties** look up cases in enumerations only. -/
theorem resolutionCases_looksUpEnumeration [Spelling] (request : ClassRequest) (key : String) :
    ResolutionCases generation.generator.context request key fun _ property =>
      property.LooksUpEnumeration where
  null node property hproperty := by
    unfold withNull
    split
    · rwa [Property.LooksUpEnumeration, Property.lookUp?_orNull]
    · exact hproperty
  reference node _ := by
    unfold Resolve.referenceProperty
    dsimp only
    split
    · exact looksUpEnumeration_find _
    · split
      · split
        · rename_i found _
          -- the items of a collection are held by value, with `null` or without
          have hitem : (Property.reference (generation.targets.find found)).LooksUpEnumeration :=
            looksUpEnumeration_find found
          rw [Property.LooksUpEnumeration, ← Property.lookUp?_unboxed] at hitem
          split
          · rwa [Property.LooksUpEnumeration, Property.lookUp?, Property.lookUp?_orNull]
          · exact hitem
        · exact .of_eq_none rfl
      · exact .of_eq_none rfl
  intersection _ _ _ _ _ _ := .of_eq_none rfl
  union node suffix alternatives _ _ := by
    unfold Resolve.unionProperty
    split
    · exact .of_eq_none rfl
    · split <;> exact .of_eq_none rfl
  enumeration node suffix definition _ hdefinition := by
    intro path other hlookUp
    cases hlookUp
    exact ⟨_, EnumDefinition.isEnumeration_of_ofSchema hdefinition⟩
  scalar _ _ := .of_eq_none rfl
  collection _ _ _ _ _ _ _ hitem := hitem
  nestedObject _ _ _ _ := .of_eq_none rfl
  dynamic _ _ _ _ _ := .of_eq_none rfl
  mixed _ := .of_eq_none rfl

/-! ## Absent keys and explicit defaults -/

/-- **Absent keys and explicit defaults decode alike**: the constant for a literal denotes what the
property decodes the literal to.  This fails exactly if the constant names a case of an enumeration
that is found by a scan of `ALL`, while a case of the enumeration has this name too. -/
theorem decodesAlike_iff [Spelling] {types : TypePath → Option EnumCodec}
    {request : ClassRequest} {key suffix pointer : String} {node : Json} {property : Property}
    (hproperty : resolveNode generation.generator.context request key suffix node pointer =
      .ok property) (htypes : property.DeclaredIn types)
    {literal : Json} (hkeys : literal.KeysDistinct)
    (hnumbers : literal.EachNumber JsonNumber.IsHeld) {constant : DefaultValue}
    (hconstant : property.defaultValue? literal = some constant) :
    property.DecodesAlike types literal constant ↔
      (constant.NamesCase → property.IsScannable) :=
  Property.decodesAlike_iff_of_known
    (Property.known_of_declaredIn
      ((resolutionCases_looksUpEnumeration request key).of_resolveNode hproperty) htypes)
    hkeys hnumbers hconstant

attribute [local instance] Spelling.plain

/-- A struct with one property. -/
def ofProperty (node : Json) : Generation where
  document := .object [("properties", .object [("p", node)])]
  rootName := "Root"

/-- What the property becomes when its schema is resolved. -/
def resolveProperty (node : Json) : Except GenerationError Property :=
  resolveNode (ofProperty node).generator.context
    (rootRequest (ofProperty node).document "Root" {}) "p" "" node "#/properties/p"

/-- The enumeration for the property. -/
def propertyUnit (definition : EnumDefinition) : EnumUnit where
  path := ⟨["crate"], "RootP"⟩
  docs := .none
  definition := definition

/-- Every path leads to this enumeration. -/
def propertyTypes (definition : EnumDefinition) : TypePath → Option EnumCodec :=
  fun _ => EnumCodec.read? (definition.cases.map (·.ident))
    (propertyUnit definition).implementationCode.tokens

/-- The property for an enumeration. -/
def enumProperty (definition : EnumDefinition) : Property :=
  .enumeration ⟨(propertyUnit definition).path, definition, .none⟩

theorem declaredIn_propertyTypes (definition : EnumDefinition) :
    (enumProperty definition).DeclaredIn (propertyTypes definition) := by
  rintro path other hlookUp
  cases hlookUp
  exact ⟨propertyUnit definition, rfl, rfl, rfl⟩

/-- A literal of an enumeration of integers and strings, which may also be `null`. -/
theorem decodesAlike_codeSchema :
    resolveProperty EnumUnit.codeSchema =
        .ok (.nullable (enumProperty EnumUnit.codeUnit.definition)) ∧
      (Property.nullable (enumProperty EnumUnit.codeUnit.definition)).DeclaredIn
        (propertyTypes EnumUnit.codeUnit.definition) ∧
      (Json.string "two").KeysDistinct ∧ (Json.string "two").EachNumber JsonNumber.IsHeld ∧
      (Property.nullable (enumProperty EnumUnit.codeUnit.definition)).defaultValue?
        (.string "two") = some (.present (.enumCase ⟨["crate"], "RootP"⟩ "VALUE_TWO")) ∧
      (Property.nullable (enumProperty EnumUnit.codeUnit.definition)).DecodesAlike
        (propertyTypes EnumUnit.codeUnit.definition) (.string "two")
        (.present (.enumCase ⟨["crate"], "RootP"⟩ "VALUE_TWO")) := by
  have hresolved : resolveProperty EnumUnit.codeSchema =
      .ok (.nullable (enumProperty EnumUnit.codeUnit.definition)) := by
    rw [resolveProperty, resolveNode]
    rfl
  have htypes := declaredIn_propertyTypes EnumUnit.codeUnit.definition
  refine ⟨hresolved, htypes, .string "two", .string "two", rfl, ?_⟩
  refine (decodesAlike_iff hresolved htypes (.string "two") (.string "two") rfl).mpr fun _ => ?_
  rintro path definition hlookUp
  cases hlookUp
  exact fun _ => by decide

/-- A case with the name of what is scanned is not decoded from the literal that it stands for. -/
theorem not_decodesAlike_shadowingSchema :
    resolveProperty EnumUnit.shadowingSchema =
        .ok (enumProperty EnumUnit.shadowingUnit.definition) ∧
      (enumProperty EnumUnit.shadowingUnit.definition).DeclaredIn
        (propertyTypes EnumUnit.shadowingUnit.definition) ∧
      (enumProperty EnumUnit.shadowingUnit.definition).defaultValue? (.string "all") =
        some (.enumCase ⟨["crate"], "RootP"⟩ "ALL") ∧
      ¬(enumProperty EnumUnit.shadowingUnit.definition).DecodesAlike
        (propertyTypes EnumUnit.shadowingUnit.definition) (.string "all")
        (.enumCase ⟨["crate"], "RootP"⟩ "ALL") := by
  have hresolved : resolveProperty EnumUnit.shadowingSchema =
      .ok (enumProperty EnumUnit.shadowingUnit.definition) := by
    rw [resolveProperty, resolveNode]
    rfl
  have htypes := declaredIn_propertyTypes EnumUnit.shadowingUnit.definition
  have hlookUp := (resolutionCases_looksUpEnumeration _ "p").of_resolveNode hresolved
  refine ⟨hresolved, htypes, rfl, fun halike => ?_⟩
  have hscannable := (Property.decodesAlike_iff_of_known
    (Property.known_of_declaredIn hlookUp htypes) (.string "all") (.string "all") rfl).mp halike
    (.enumCase _ _)
  exact absurd (hscannable _ _ rfl rfl) (by decide)

end Generation

end SchemaTypes
