import SchemaTypes.Proofs.Code.Constant
import SchemaTypes.Proofs.Code.Decoding
import SchemaTypes.Proofs.Outcome

/-!
# Defaults and decoded values

A default is read twice: as a constant when code is generated, and by the decoder of the property
when the same value is given explicitly.  Both readings follow the property, and they give the same
value unless a case of an enumeration is looked up by a scan that names something else.

* `Property.lookUp?`: the enumeration in which a property looks up cases.
* `Property.Denotes`: how a literal becomes a constant of a property.
* `Property.Denotes.isHeld`: constants for literals may be held in generated code.
* `Property.Denotes.decoded?_iff`: when the decoder of a property gives the constant.
* `Property.decodesAlike_iff_of_known`: when a default and the same value given explicitly decode
  alike.

Literals have distinct keys and numbers that are held in memory, as all parts of a document that is
read have them (`keysDistinct_of_readDocument`, `eachNumber_of_readDocument`).
-/

namespace SchemaTypes

namespace DefaultValue

/-- Some part of a constant is a case of an enumeration. -/
inductive NamesCase : DefaultValue → Prop
  | enumCase (path ident) : NamesCase (.enumCase path ident)
  | item {items item} (hitem : item ∈ items) (hcase : NamesCase item) : NamesCase (.list items)
  | entry {entries entry} (hentry : entry ∈ entries) (hcase : NamesCase (Prod.snd entry)) :
      NamesCase (.map entries)
  | present {value} (hcase : NamesCase value) : NamesCase (.present value)

theorem namesCase_list {items : List DefaultValue} :
    NamesCase (.list items) ↔ ∃ item ∈ items, NamesCase item := by
  constructor
  · rintro ⟨⟩
    exact ⟨_, ‹_›, ‹_›⟩
  · exact fun ⟨item, hitem, hcase⟩ => .item hitem hcase

theorem namesCase_map {entries : List (String × DefaultValue)} :
    NamesCase (.map entries) ↔ ∃ entry ∈ entries, NamesCase entry.2 := by
  constructor
  · rintro ⟨⟩
    exact ⟨_, ‹_›, ‹_›⟩
  · exact fun ⟨entry, hentry, hcase⟩ => .entry hentry hcase

theorem namesCase_present {value : DefaultValue} :
    NamesCase (.present value) ↔ NamesCase value := by
  constructor
  · rintro ⟨⟩
    assumption
  · exact .present

end DefaultValue

/-! ## Constants for literals -/

theorem JsonNumber.IsHeld.isExact {number : JsonNumber} (hnumber : number.IsHeld) :
    number.IsExact := by
  cases number with
  | integer value => exact trivial
  | float value => exact hnumber

namespace ScalarKind

variable {kind : ScalarKind} {literal : Json} {constant : DefaultValue}

/-- A constant for a scalar may be held, and it is what the scalar is decoded to. -/
theorem scalar?_decoder (hconstant : kind.defaultValue? literal = some constant)
    (hnumbers : literal.EachNumber JsonNumber.IsHeld) :
    constant.IsHeld ∧ ¬constant.NamesCase ∧ Token.scalar? kind.decoder literal = some constant := by
  cases kind with
  | bool =>
      obtain ⟨value, hvalue, rfl⟩ := Option.map_eq_some_iff.mp hconstant
      cases literal with
      | bool own =>
          obtain rfl := Option.some.inj hvalue
          exact ⟨.bool own, nofun, rfl⟩
      | null | number | string | array | object => cases hvalue
  | integer =>
      obtain ⟨value, hvalue, rfl⟩ := Option.map_eq_some_iff.mp hconstant
      obtain ⟨number, hnumber, hsigned⟩ := Option.bind_eq_some_iff.mp hvalue
      obtain ⟨rfl, hrange⟩ := JsonNumber.signed?_eq_some_iff.mp hsigned
      obtain rfl := Json.eq_of_signed? hvalue
      refine ⟨.integer hrange, nofun, ?_⟩
      simp only [decoder, Token.scalar?, Decode.integer, Decode.integer?_of_isSigned hrange]
      rfl
  | number =>
      cases literal with
      | number own =>
          -- the constant and the decoder choose the kind of the number alike
          have hsame : some (NumberValue.ofJsonNumber own).constant = some constant :=
            JsonNumber.defaultValue?_eq.symm.trans hconstant
          obtain rfl := Option.some.inj hsame
          refine ⟨.number (JsonNumber.isHeld_ofJsonNumber (Json.EachNumber.number.mp hnumbers)), ?_,
            rfl⟩
          cases NumberValue.ofJsonNumber own <;> exact nofun
      | null | bool | string | array | object => cases hconstant
  | string =>
      obtain ⟨value, hvalue, rfl⟩ := Option.map_eq_some_iff.mp hconstant
      obtain rfl := Json.string?_eq_some.mp hvalue
      exact ⟨.text value, nofun, rfl⟩
  | dateTime => cases hconstant

end ScalarKind

/-! ## Constants for properties -/

namespace Property

/-- The enumeration in which the values inside a property are looked up. -/
def lookUp? : Property → Option (TypePath × EnumDefinition)
  | .collection _ _ item => item.lookUp?
  | .reference (.enumeration path definition) => some (path, definition)
  | .enumeration target => some (target.path, target.definition)
  | .nullable inner => inner.lookUp?
  | _ => none

/-- How a literal becomes a constant of a property. -/
inductive Denotes : Property → Json → DefaultValue → Prop
  | scalar {kind literal constant} (hconstant : kind.defaultValue? literal = some constant) :
      Denotes (.scalar kind) literal constant
  | list (kind) {item values items} (hitems : values.mapM item.defaultValue? = some items)
      (hparts : ∀ part ∈ values, ∀ result, item.defaultValue? part = some result →
        Denotes item part result) :
      Denotes (.collection kind .list item) (.array values) (.list items)
  | map (kind) {item members entries}
      (hentries : (members.mapM fun member : String × Json =>
        (item.defaultValue? member.2).map (member.1, ·)) = some entries)
      (hparts : ∀ member ∈ members, ∀ result, item.defaultValue? (Prod.snd member) = some result →
        Denotes item (Prod.snd member) result) :
      Denotes (.collection kind .map item) (.object members) (.map entries)
  | reference (path) {definition literal case}
      (hcase : EnumDefinition.caseFor? definition literal = some case) :
      Denotes (.reference (.enumeration path definition)) literal (.enumCase path case.ident)
  | enumeration {target literal case}
      (hcase : EnumDefinition.caseFor? target.definition literal = some case) :
      Denotes (.enumeration target) literal (.enumCase target.path case.ident)
  | unknown (pointer literal) : Denotes (.reference (.unknown pointer)) literal (.json literal)
  | mixed (literal) : Denotes .mixed literal (.json literal)
  | absent (inner) : Denotes (.nullable inner) .null .absent
  | present {inner literal constant} (hnull : literal.isNull = false)
      (hinner : Denotes inner literal constant) :
      Denotes (.nullable inner) literal (.present constant)

theorem denotes_of_defaultValue? : ∀ {property : Property} {literal : Json}
    {constant : DefaultValue}, property.defaultValue? literal = some constant →
      property.Denotes literal constant
  | .scalar kind, _, _, hconstant => .scalar hconstant
  | .collection kind container item, literal, constant, hconstant => by
    -- collections of structs have no literals
    have hcontainer : container.defaultValue? item.defaultValue? literal = some constant := by
      cases kind with
      | object => cases hconstant
      | primitive | reference => exact hconstant
    unfold Container.defaultValue? at hcontainer
    split at hcontainer
    · obtain ⟨items, hitems, rfl⟩ := Option.map_eq_some_iff.mp hcontainer
      exact .list kind hitems fun _ _ _ => denotes_of_defaultValue?
    · obtain ⟨entries, hentries, rfl⟩ := Option.map_eq_some_iff.mp hcontainer
      exact .map kind hentries fun _ _ _ => denotes_of_defaultValue?
    · cases hcontainer
  | .reference target, _, _, hconstant => by
    cases target with
    | struct => cases hconstant
    | enumeration path definition =>
        obtain ⟨case, hcase, rfl⟩ := Option.map_eq_some_iff.mp hconstant
        exact .reference path hcase
    | unknown pointer =>
        obtain rfl := Option.some.inj hconstant
        exact .unknown pointer _
  | .enumeration target, _, _, hconstant => by
    obtain ⟨case, hcase, rfl⟩ := Option.map_eq_some_iff.mp hconstant
    exact .enumeration hcase
  | .nullable inner, literal, _, hconstant => by
    cases hnull : literal.isNull with
    | true =>
        rw [defaultValue?, if_pos hnull] at hconstant
        obtain rfl := Option.some.inj hconstant
        cases literal with
        | null => exact .absent inner
        | bool | number | string | array | object => cases hnull
    | false =>
        rw [defaultValue?, if_neg (Bool.eq_false_iff.mp hnull)] at hconstant
        obtain ⟨value, hvalue, rfl⟩ := Option.map_eq_some_iff.mp hconstant
        exact .present hnull (denotes_of_defaultValue? hvalue)
  | .mixed, literal, _, hconstant => by
    obtain rfl := Option.some.inj hconstant
    exact .mixed literal
  | .nestedObject _, _, _, hconstant => by cases hconstant
  | .intersection _, _, _, hconstant => by cases hconstant
  | .union _ _ _, _, _, hconstant => by cases hconstant
  | .dynamic _ _, _, _, hconstant => by cases hconstant

variable {property : Property} {literal : Json} {constant : DefaultValue}

/-- **Constants for literals** may be held in generated code. -/
theorem Denotes.isHeld (hconstant : property.Denotes literal constant)
    (hkeys : literal.KeysDistinct) (hnumbers : literal.EachNumber JsonNumber.IsHeld) :
    constant.IsHeld := by
  induction hconstant with
  | scalar hconstant => exact (ScalarKind.scalar?_decoder hconstant hnumbers).1
  | list kind hitems hparts ih =>
      refine .list fun item hmem => ?_
      obtain ⟨part, hpart, hresult⟩ := Outcome.exists_of_mem_mapM_option hitems hmem
      exact ih part hpart item hresult (Json.KeysDistinct.array.mp hkeys part hpart)
        (Json.EachNumber.array.mp hnumbers part hpart)
  | @map kind item members entries hentries hparts ih =>
      obtain ⟨hdistinct, hmembers⟩ := Json.KeysDistinct.object.mp hkeys
      have hsame : entries.map Prod.fst = Members.keys members := by
        rw [← List.map_id members] at hentries
        refine map_eq_of_mapM_map hentries fun member _ entry hentry => ?_
        obtain ⟨result, -, rfl⟩ := Option.map_eq_some_iff.mp hentry
        rfl
      refine .map (hsame ▸ hdistinct) fun entry hmem => ?_
      obtain ⟨member, hmember, hresult⟩ := Outcome.exists_of_mem_mapM_option hentries hmem
      obtain ⟨result, hown, rfl⟩ := Option.map_eq_some_iff.mp hresult
      exact ih member hmember result hown (hmembers member hmember)
        (Json.EachNumber.object.mp hnumbers member hmember)
  | reference path hcase => exact .enumCase path _
  | enumeration hcase => exact .enumCase _ _
  | unknown | mixed => exact .json hkeys fun number hnumber => (hnumbers number hnumber).isExact
  | absent inner => exact .absent
  | present hnull hinner ih => exact .present (ih hkeys hnumbers)

/-! ## Decoding what a constant denotes -/

variable {types : TypePath → Option EnumCodec} {scope : List (String × Json)} {name : String}

/-- Where a property looks up cases, the code of the enumeration is the one of its definition. -/
def Known (types : TypePath → Option EnumCodec) (property : Property) : Prop :=
  ∀ path definition, property.lookUp? = some (path, definition) →
    types path = some definition.codec ∧ ∃ values, EnumDefinition.IsEnumeration values definition

/-- Where a property looks up cases by a scan, none of them takes the name of what is scanned. -/
def IsScannable (property : Property) : Prop :=
  ∀ path definition, property.lookUp? = some (path, definition) → definition.IsScannable

theorem isScannable_iff (property : Property) {path : TypePath} {definition : EnumDefinition}
    (hlookUp : property.lookUp? = some (path, definition)) :
    property.IsScannable ↔ definition.IsScannable := by
  refine ⟨fun hproperty => hproperty path definition hlookUp, ?_⟩
  rintro hdefinition other same hother
  rw [hlookUp, Option.some.injEq, Prod.mk.injEq] at hother
  exact hother.2 ▸ hdefinition

/-- The case of a literal is looked up, unless a scan names something else. -/
theorem decoded?_lookUp_iff {path : TypePath} {definition : EnumDefinition} {case : EnumCase}
    (hlookUp : property.lookUp? = some (path, definition)) (hknown : property.Known types)
    (hcase : definition.caseFor? literal = some case) (hscope : scope.lookup name = some literal) :
    Token.decoded? types scope
        ((ReferencedType.enumeration path definition).inputMapping (.word name)).tokens =
      some (.enumCase path case.ident) ↔
        (DefaultValue.NamesCase (.enumCase path case.ident) → property.IsScannable) := by
  obtain ⟨htypes, values, hdefinition⟩ := hknown path definition hlookUp
  rw [forall_prop_of_true (DefaultValue.NamesCase.enumCase path case.ident),
    isScannable_iff property hlookUp]
  rw [Token.decoded?_eq (ReferencedType.step?_inputMapping_enumeration path definition name) hscope]
  simp only [Token.Step.run?, htypes, Option.bind_some]
  by_cases hscannable : definition.IsScannable
  · rw [EnumDefinition.decode?_codec hdefinition hscannable, hcase]
    exact iff_of_true rfl hscannable
  · rw [EnumDefinition.decode?_codec_eq_none hscannable]
    exact iff_of_false nofun hscannable

/-- **Decoding a literal** gives its constant, unless this names a case that a scan does not
find. -/
theorem Denotes.decoded?_iff [Spelling] (hconstant : property.Denotes literal constant)
    (hknown : property.Known types) (hnumbers : literal.EachNumber JsonNumber.IsHeld)
    (hscope : scope.lookup name = some literal) :
    Token.decoded? types scope (property.inputMapping (.word name)).tokens = some constant ↔
      (constant.NamesCase → property.IsScannable) := by
  induction hconstant generalizing scope name with
  | @scalar kind literal constant hconstant =>
      obtain ⟨-, hcase, hdecoded⟩ := ScalarKind.scalar?_decoder hconstant hnumbers
      rw [inputMapping, Token.decoded?_eq (kind.step?_inputMapping name) hscope]
      exact iff_of_true hdecoded fun hother => absurd hother hcase
  | @list kind item values items hitems hparts ih =>
      rw [inputMapping, Token.decoded?_eq (Container.step?_inputMapping_list _ name) hscope]
      have hparts : (values.mapM fun part => Token.decoded? types (("item", part) :: scope)
          (item.inputMapping (.word "item")).tokens) = some items ↔
          ∀ result ∈ items, result.NamesCase → item.IsScannable := by
        refine Outcome.mapM_eq_some_iff_of_mapM hitems fun part hpart result hresult => ?_
        exact ih part hpart result hresult hknown
          (Json.EachNumber.array.mp hnumbers part hpart) List.lookup_cons_self
      -- the list names a case exactly if one of its items does
      change Option.map DefaultValue.list _ = _ ↔ _
      rw [DefaultValue.namesCase_list, Option.map_eq_some_iff]
      simp only [DefaultValue.list.injEq, exists_eq_right, hparts]
      exact ⟨fun hitem ⟨result, hresult, hcase⟩ => hitem result hresult hcase,
        fun hitem result hresult hcase => hitem ⟨result, hresult, hcase⟩⟩
  | @map kind item members entries hentries hparts ih =>
      rw [inputMapping, Token.decoded?_eq (Container.step?_inputMapping_map _ name) hscope]
      have hparts : (members.mapM fun member =>
          (Token.decoded? types (("item", member.2) :: scope)
            (item.inputMapping (.word "item")).tokens).map (member.1, ·)) = some entries ↔
          ∀ entry ∈ entries, entry.2.NamesCase → item.IsScannable := by
        refine Outcome.mapM_eq_some_iff_of_mapM hentries fun member hmember entry hentry => ?_
        obtain ⟨result, hresult, rfl⟩ := Option.map_eq_some_iff.mp hentry
        rw [Option.map_eq_some_iff]
        simp only [Prod.mk.injEq, true_and, exists_eq_right]
        exact ih member hmember result hresult hknown
          (Json.EachNumber.object.mp hnumbers member hmember) List.lookup_cons_self
      change Option.map DefaultValue.map _ = _ ↔ _
      rw [DefaultValue.namesCase_map, Option.map_eq_some_iff]
      simp only [DefaultValue.map.injEq, exists_eq_right, hparts]
      exact ⟨fun hitem ⟨entry, hentry, hcase⟩ => hitem entry hentry hcase,
        fun hitem entry hentry hcase => hitem ⟨entry, hentry, hcase⟩⟩
  | reference path hcase => exact decoded?_lookUp_iff rfl hknown hcase hscope
  | enumeration hcase => exact decoded?_lookUp_iff rfl hknown hcase hscope
  | unknown pointer literal =>
      rw [inputMapping, Token.decoded?_eq (ReferencedType.step?_inputMapping_unknown pointer name)
        hscope]
      exact iff_of_true rfl nofun
  | mixed literal =>
      rw [Token.decoded?_eq (step?_inputMapping_mixed name) hscope]
      exact iff_of_true rfl nofun
  | absent inner =>
      rw [Token.decoded?_eq (step?_inputMapping_nullable inner name) hscope]
      exact iff_of_true rfl nofun
  | @present inner literal constant hnull hinner ih =>
      rw [Token.decoded?_eq (step?_inputMapping_nullable inner name) hscope]
      -- the literal is not null, so the closure decodes it under the name `raw`
      have hinside := @ih (("raw", literal) :: scope) "raw" hknown hnumbers List.lookup_cons_self
      rw [DefaultValue.namesCase_present]
      simp only [Token.Step.run?, hnull, Bool.false_eq_true, if_false, Option.map_eq_some_iff,
        DefaultValue.present.injEq, exists_eq_right]
      exact hinside

/-! ## Absent keys and explicit defaults -/

/-- What a property looks up cases in is an enumeration. -/
def LooksUpEnumeration (property : Property) : Prop :=
  ∀ path definition, property.lookUp? = some (path, definition) →
    ∃ values, EnumDefinition.IsEnumeration values definition

theorem LooksUpEnumeration.of_eq_none {property : Property} (hnone : property.lookUp? = none) :
    property.LooksUpEnumeration := by
  intro path definition hlookUp
  rw [hnone] at hlookUp
  cases hlookUp

theorem lookUp?_orNull (property : Property) : property.orNull.lookUp? = property.lookUp? := by
  unfold orNull
  split <;> rfl

theorem lookUp?_reference {target : ReferencedType} {path : TypePath}
    {definition : EnumDefinition} :
    (reference target).lookUp? = some (path, definition) ↔
      target = .enumeration path definition := by
  cases target <;> simp [lookUp?]

theorem lookUp?_unboxed (target : ReferencedType) :
    (reference target.unboxed).lookUp? = (reference target).lookUp? := by
  cases target <;> rfl

/-- Generated code for the enumeration that a property looks up stands under its path. -/
def DeclaredIn (types : TypePath → Option EnumCodec) (property : Property) : Prop :=
  ∀ path definition, property.lookUp? = some (path, definition) →
    ∃ unit : EnumUnit, unit.path = path ∧ unit.definition = definition ∧
      types path = EnumCodec.read? (definition.cases.map (·.ident)) unit.implementationCode.tokens

/-- The constant for a literal denotes a value, and the decoder of the property gives this value for
the literal. -/
def DecodesAlike [Spelling] (types : TypePath → Option EnumCodec) (property : Property)
    (literal : Json) (constant : DefaultValue) : Prop :=
  ∃ value, Token.constant? constant.code.tokens = some value ∧
    ∀ name, Token.decoded? types [(name, literal)] (property.inputMapping (.word name)).tokens =
      some value

theorem known_of_declaredIn {types : TypePath → Option EnumCodec} {property : Property}
    (hlookUp : property.LooksUpEnumeration) (htypes : property.DeclaredIn types) :
    property.Known types := by
  intro path definition hfound
  obtain ⟨values, hdefinition⟩ := hlookUp path definition hfound
  obtain ⟨unit, rfl, rfl, hread⟩ := htypes path definition hfound
  exact ⟨hread.trans (EnumUnit.read?_implementationCode hdefinition.supported), values, hdefinition⟩

theorem decodesAlike_iff_of_known [Spelling] {types : TypePath → Option EnumCodec}
    {property : Property} (hknown : property.Known types) {literal : Json} {constant : DefaultValue}
    (hkeys : literal.KeysDistinct) (hnumbers : literal.EachNumber JsonNumber.IsHeld)
    (hconstant : property.defaultValue? literal = some constant) :
    property.DecodesAlike types literal constant ↔
      (constant.NamesCase → property.IsScannable) := by
  have hdenotes := denotes_of_defaultValue? hconstant
  have hdecoded : ∀ name, Token.decoded? types [(name, literal)]
      (property.inputMapping (.word name)).tokens = some constant ↔
        (constant.NamesCase → property.IsScannable) :=
    fun name => hdenotes.decoded?_iff hknown hnumbers List.lookup_cons_self
  have hread := DefaultValue.constant?_code (hdenotes.isHeld hkeys hnumbers)
  constructor
  · rintro ⟨value, hvalue, hsame⟩
    cases hread.symm.trans hvalue
    exact (hdecoded "value").mp (hsame "value")
  · exact fun hscannable => ⟨constant, hread, fun name => (hdecoded name).mpr hscannable⟩

end Property

end SchemaTypes
