import SchemaTypes.Proofs.Code.Scope
import SchemaTypes.Proofs.TypeUnit.Calls

/-!
# Names that the expressions of a property look up

The types and expressions of a property look up names of the standard library and the types that
the property relies on, the latter by the first segments of their paths.

* `TypeShape.scoped_code`: types of values.
* `Property.scoped_inputAssertion`, `Property.scoped_inputMapping`, `Property.scoped_outputMapping`,
  `Property.scoped_clone`: testing, decoding, encoding and copying.
* `DefaultValue.scoped_code`: defaults.
* `FieldProperty.scoped_inputMapping` and others: the expressions of a field.
-/

namespace SchemaTypes

open Code

variable {own : String → Prop} {code raw mapping : Code}

/-! ## Types of values -/

theorem TypeShape.scoped_code (shape : TypeShape)
    (hheads : ∀ path, shape.path? = Option.some path → Known own path.head) :
    shape.code.Scoped own := by
  induction shape with
  | bool | integer | string => exact scoped_word _ rfl
  | number | dateTime | json => exact scoped_support _
  | named path => exact scoped_ofTypePath (hheads path rfl)
  | boxed inner ih | optional inner ih | list inner ih =>
      exact (scoped_word _ rfl).applied (List.forall_mem_singleton.mpr (ih hheads))
  | map inner ih => exact (scoped_support _).applied (List.forall_mem_singleton.mpr (ih hheads))
  | borrowed inner ih => exact (ih hheads).borrow

/-! ## Decoding -/

theorem ScalarKind.scoped_inputAssertion (kind : ScalarKind) (hraw : raw.Scoped own) :
    (kind.inputAssertion raw).Scoped own := by
  cases kind with
  | bool | number | string => exact hraw.parens.method_nil _ rfl
  | integer | dateTime => exact (scoped_support _).call_singleton hraw

theorem ScalarKind.scoped_inputMapping (kind : ScalarKind) (hraw : raw.Scoped own) :
    (kind.inputMapping raw).Scoped own :=
  ((scoped_support _).call_singleton hraw).attempt

theorem Container.scoped_inputAssertion (container : Container) {check : Code}
    (hcheck : check.Scoped own) (hraw : raw.Scoped own) :
    (container.inputAssertion check raw).Scoped own := by
  cases container with
  | list =>
      have hall := ((scoped_word "items" rfl).method_nil "iter" rfl).method_singleton
        (hcheck.closure "item" rfl) "all" rfl
      exact (hraw.parens.method_nil "as_array" rfl).method_singleton
        (hall.closure "items" rfl) _ rfl
  | map =>
      have hall := ((scoped_word "entries" rfl).method_nil "values" rfl).method_singleton
        (hcheck.closure "item" rfl) "all" rfl
      exact (hraw.parens.method_nil "as_object" rfl).method_singleton
        (hall.closure "entries" rfl) _ rfl

theorem Code.scoped_decodingResult : decodingResult.Scoped own :=
  (scoped_word "Result" rfl).applied ((scoped_word "_" rfl).pair (scoped_support _))

theorem Code.Scoped.decodingClosure {parameter : Code} (hparameter : parameter.Scoped own)
    (hcode : code.Scoped own) : (decodingClosure parameter code).Scoped own :=
  (((((scoped_operator "|").append hparameter).append (scoped_operator "|")).append
    (scoped_operator "->")).append scoped_decodingResult).append hcode.ok.braces

theorem Code.Scoped.collectInto {items container : Code} (hitems : items.Scoped own)
    (hcontainer : container.Scoped own) : (items.collectInto container).Scoped own := by
  have hname : Known own "collect" := known_common _ rfl
  have hopened := ((hitems.field hname).append (scoped_operator "::")).append (scoped_operator "<")
  have hcollected := hcontainer.applied (List.forall_mem_singleton.mpr (scoped_word "_" rfl))
  have hresult := (hopened.append (scoped_word "Result" rfl)).append (scoped_operator "<")
  have hclosed := (((hresult.append hcollected).append (scoped_operator ",")).append
    (scoped_word "_" rfl)).append (scoped_operator ">>")
  exact (hclosed.append scoped_empty.parens).attempt

theorem Container.scoped_inputMapping (container : Container) (hmapping : mapping.Scoped own)
    (hraw : raw.Scoped own) : (container.inputMapping mapping raw).Scoped own := by
  cases container with
  | list =>
      have hitems := ((scoped_support ["decode", "array"]).call_singleton
        hraw).attempt.method_nil "iter" rfl
      exact (hitems.method_singleton ((scoped_word "item" rfl).decodingClosure hmapping)
        "map" rfl).collectInto (scoped_word "Vec" rfl)
  | map =>
      have hentries := ((scoped_support ["decode", "object"]).call_singleton
        hraw).attempt.method_nil "iter" rfl
      have hpair : (parens (separated [clonedKey, mapping])).Scoped own :=
        (scoped_separated (((scoped_word "key" rfl).method_nil "clone" rfl).pair hmapping)).parens
      have hkey : keyAndItem.Scoped own :=
        (scoped_separated ((scoped_word "key" rfl).pair (scoped_word "item" rfl))).parens
      exact (hentries.method_singleton (hkey.decodingClosure hpair) "map" rfl).collectInto
        (scoped_support _)

namespace ReferencedType

theorem scoped_buildFromInput {path : TypePath} (hpath : Known own path.head)
    (hraw : raw.Scoped own) : (buildFromInput path raw).Scoped own :=
  (((scoped_ofTypePath hpath).member _).call (hraw.pair (scoped_word "validate" rfl))).attempt

variable [Spelling] (target : ReferencedType)
  (hheads : ∀ path, (Property.reference target).ReliesOn path → Known own path.head)

include hheads

theorem scoped_inputAssertion (hraw : raw.Scoped own) :
    (target.inputAssertion raw).Scoped own := by
  cases target with
  | struct path boxed =>
      have hpath := hheads path ⟨_, List.mem_singleton_self _⟩
      exact (((scoped_ofTypePath hpath).member _).call_singleton hraw).method_nil _ rfl
  | enumeration path definition =>
      have hpath := hheads path ⟨_, List.mem_singleton_self _⟩
      exact (((scoped_ofTypePath hpath).member _).call_singleton hraw).method_nil _ rfl
  | unknown pointer => exact scoped_word _ rfl

theorem scoped_inputMapping (hraw : raw.Scoped own) : (target.inputMapping raw).Scoped own := by
  cases target with
  | struct path boxed =>
      have hbuilt := scoped_buildFromInput (hheads path ⟨_, List.mem_singleton_self _⟩) hraw
      cases boxed with
      | false => exact hbuilt
      | true => exact (scoped_path (known_common _ rfl) _).call_singleton hbuilt
  | enumeration path definition =>
      have hpath := hheads path ⟨_, List.mem_singleton_self _⟩
      exact (((scoped_ofTypePath hpath).member _).call_singleton hraw).attempt
  | unknown pointer => exact hraw.parens.method_nil _ rfl

end ReferencedType

namespace Property

/-- **Testing** whether a JSON value can be decoded. -/
theorem scoped_inputAssertion [Spelling] : (property : Property) → {raw : Code} →
    (∀ path, property.ReliesOn path → Known own path.head) → raw.Scoped own →
      (property.inputAssertion raw).Scoped own
  | .scalar kind, _, _, hraw => kind.scoped_inputAssertion hraw
  | .collection _ container item, _, hheads, hraw =>
      container.scoped_inputAssertion
        (scoped_inputAssertion item hheads (scoped_word "item" rfl)) hraw
  | .nestedObject request, _, hheads, hraw =>
      (ReferencedType.struct request.path false).scoped_inputAssertion hheads hraw
  | .intersection request, _, hheads, hraw =>
      (ReferencedType.struct request.path false).scoped_inputAssertion hheads hraw
  | .reference target, _, hheads, hraw => target.scoped_inputAssertion hheads hraw
  | .union path _ _, _, hheads, hraw =>
      ((scoped_ofTypePath
        (hheads path ⟨_, List.mem_singleton_self _⟩)).member _).call_singleton hraw
  | .enumeration target, _, hheads, hraw =>
      (ReferencedType.enumeration target.path target.definition).scoped_inputAssertion hheads hraw
  | .dynamic _ _, _, _, hraw => hraw.parens.method_nil _ rfl
  | .nullable inner, _, hheads, hraw =>
      (((hraw.parens.method_nil "is_null" rfl).append (scoped_operator "||")).append
        (scoped_inputAssertion inner hheads hraw)).parens
  | .mixed, _, _, _ => scoped_word _ rfl

/-- **Decoding** a JSON value. -/
theorem scoped_inputMapping [Spelling] : (property : Property) → {raw : Code} →
    (∀ path, property.ReliesOn path → Known own path.head) → raw.Scoped own →
      (property.inputMapping raw).Scoped own
  | .scalar kind, _, _, hraw => kind.scoped_inputMapping hraw
  | .collection _ container item, _, hheads, hraw =>
      container.scoped_inputMapping (scoped_inputMapping item hheads (scoped_word "item" rfl)) hraw
  | .nestedObject request, _, hheads, hraw =>
      ReferencedType.scoped_buildFromInput (hheads _ ⟨_, List.mem_singleton_self _⟩) hraw
  | .intersection request, _, hheads, hraw =>
      ReferencedType.scoped_buildFromInput (hheads _ ⟨_, List.mem_singleton_self _⟩) hraw
  | .reference target, _, hheads, hraw => target.scoped_inputMapping hheads hraw
  | .union path _ _, _, hheads, hraw =>
      ReferencedType.scoped_buildFromInput (hheads _ ⟨_, List.mem_singleton_self _⟩) hraw
  | .enumeration target, _, hheads, hraw =>
      (ReferencedType.enumeration target.path target.definition).scoped_inputMapping hheads hraw
  | .dynamic entry _, _, hheads, hraw => by
      have hentry := scoped_ofTypePath (hheads entry ⟨_, List.mem_singleton_self _⟩)
      have harguments : ∀ argument ∈ [word "key", word "item", word "validate"],
          argument.Scoped own :=
        List.forall_mem_cons.mpr ⟨scoped_word _ rfl, (scoped_word _ rfl).pair (scoped_word _ rfl)⟩
      exact Container.map.scoped_inputMapping ((hentry.member _).call harguments).attempt hraw
  | .nullable inner, _, hheads, hraw => by
      have hvariable : (word "raw").Scoped own := scoped_word "raw" rfl
      have hnull := ((hvariable.append (scoped_word "if" rfl)).append
        (hvariable.method_nil "is_null" rfl)).arm scoped_none
      have hpresent := hvariable.arm (scoped_inputMapping inner hheads hvariable).some
      exact hraw.matchOn (hnull.pair hpresent)
  | .mixed, _, _, hraw => hraw.parens.method_nil _ rfl

end Property

/-! ## Encoding and copying -/

namespace Operand

variable {value : Operand}

theorem scoped_code (hvalue : value.receiver.Scoped own) : value.code.Scoped own := by
  cases value with
  | place held => exact hvalue
  | borrowed held => exact hvalue.borrow

theorem scoped_deref (hvalue : value.receiver.Scoped own) : value.deref.Scoped own := by
  cases value with
  | place held => exact (scoped_operator "*").append hvalue
  | borrowed held => exact hvalue

end Operand

section

variable {value : Operand}

theorem ScalarKind.scoped_outputMapping (kind : ScalarKind) (hvalue : value.receiver.Scoped own) :
    (kind.outputMapping value).Scoped own := by
  cases kind with
  | bool | integer => exact (scoped_support _).call_singleton (Operand.scoped_deref hvalue)
  | number => exact hvalue.method_nil _ rfl
  | string => exact (scoped_support _).call_singleton (hvalue.method_nil _ rfl)
  | dateTime => exact (scoped_support _).call_singleton (Operand.scoped_code hvalue)

theorem Container.scoped_outputMapping (container : Container) {output : Code}
    (houtput : output.Scoped own) (hvalue : value.receiver.Scoped own) :
    (container.outputMapping output value).Scoped own :=
  (scoped_support _).call ((Operand.scoped_code hvalue).pair (houtput.closure "item" rfl))

theorem Code.Scoped.encodeOptional {output : Code} (houtput : output.Scoped own)
    (hvalue : value.receiver.Scoped own) : (Code.encodeOptional output value).Scoped own := by
  have hpresent := (scoped_word "value" rfl).some.arm houtput
  have habsent : (Code.arm Code.none (jsonVariant "Null")).Scoped own :=
    scoped_none.arm (scoped_support _)
  exact (Operand.scoped_code hvalue).matchOn (hpresent.pair habsent)

namespace Property

/-- **Encoding** a value. -/
theorem scoped_outputMapping : (property : Property) → {value : Operand} →
    value.receiver.Scoped own → (property.outputMapping value).Scoped own
  | .scalar kind, _, hvalue => kind.scoped_outputMapping hvalue
  | .collection _ container item, _, hvalue =>
      container.scoped_outputMapping (scoped_outputMapping item (scoped_word "item" rfl)) hvalue
  | .reference (.unknown _), _, hvalue => hvalue.method_nil _ rfl
  | .reference (.struct _ _), _, hvalue | .reference (.enumeration _ _), _, hvalue =>
      hvalue.method_nil _ rfl
  | .dynamic _ _, _, hvalue =>
      Container.map.scoped_outputMapping ((scoped_word "item" rfl).method_nil "to_json" rfl) hvalue
  | .nullable inner, _, hvalue =>
      (scoped_outputMapping inner (scoped_word "value" rfl)).encodeOptional hvalue
  | .mixed, _, hvalue => hvalue.method_nil _ rfl
  | .nestedObject _, _, hvalue | .intersection _, _, hvalue | .union _ _ _, _, hvalue
  | .enumeration _, _, hvalue => hvalue.method_nil _ rfl

/-- **Copying** a value. -/
theorem scoped_clone : (property : Property) → {value : Operand} → value.receiver.Scoped own →
    (property.clone value).Scoped own
  | .nullable inner, _, hvalue =>
      (hvalue.method_nil "as_ref" rfl).method_singleton
        ((scoped_clone inner (scoped_word "inner" rfl)).closure "inner" rfl) "map" rfl
  | .scalar _, _, hvalue | .collection _ _ _, _, hvalue | .nestedObject _, _, hvalue
  | .intersection _, _, hvalue | .reference _, _, hvalue | .union _ _ _, _, hvalue
  | .enumeration _, _, hvalue | .dynamic _ _, _, hvalue | .mixed, _, hvalue =>
      hvalue.method_nil _ rfl

variable {property : Property}

theorem scoped_cloneExpression (hvalue : value.receiver.Scoped own)
    (hcode : property.cloneExpression? value = Option.some code) : code.Scoped own := by
  unfold cloneExpression? at hcode
  split at hcode
  · cases hcode
  · obtain rfl := Option.some.inj hcode
    exact property.scoped_clone hvalue

theorem scoped_assertion {key : String} (hvalue : value.receiver.Scoped own)
    (hcode : property.assertion? value key = Option.some code) : code.Scoped own := by
  unfold assertion? at hcode
  split at hcode
  · obtain rfl := Option.some.inj hcode
    have harguments : ∀ argument ∈ [path ["Self", "SCHEMA"], string key,
        borrow (property.outputMapping value)], argument.Scoped own :=
      List.forall_mem_cons.mpr ⟨scoped_path (known_common _ rfl) _,
        (scoped_string key).pair (property.scoped_outputMapping hvalue).borrow⟩
    exact ((scoped_support _).call harguments).attempt.append (scoped_operator ";")
  · cases hcode

end Property

end

/-! ## Defaults -/

namespace Code

theorem scoped_ownedText (text : String) : (ownedText text).Scoped own :=
  (scoped_string text).method_nil _ rfl

theorem scoped_bool (value : Bool) : (word (if value then "true" else "false")).Scoped own := by
  cases value <;> exact scoped_word _ rfl

mutual

theorem scoped_ofJson : (value : Json) → (ofJson value).Scoped own
  | .null => by
      rw [ofJson]
      exact scoped_word _ rfl
  | .bool value => by
      rw [ofJson]
      exact scoped_bool value
  | .number (.integer value) => by
      rw [ofJson]
      exact scoped_integer value
  | .number (.float value) => by
      rw [ofJson]
      exact scoped_float value
  | .string value => by
      rw [ofJson]
      exact scoped_string value
  | .array items => by
      rw [ofJson]
      exact (scoped_separated (scoped_ofJsonItems items)).brackets
  | .object members => by
      rw [ofJson]
      exact (scoped_separated (scoped_ofJsonMembers members)).braces

theorem scoped_ofJsonItems : (items : List Json) → ∀ piece ∈ ofJsonItems items, piece.Scoped own
  | [] => List.forall_mem_nil _
  | item :: rest => by
      rw [ofJsonItems]
      exact List.forall_mem_cons.mpr ⟨scoped_ofJson item, scoped_ofJsonItems rest⟩

theorem scoped_ofJsonMembers : (members : List (String × Json)) →
    ∀ piece ∈ ofJsonMembers members, piece.Scoped own
  | [] => List.forall_mem_nil _
  | (key, value) :: rest => by
      rw [ofJsonMembers]
      exact List.forall_mem_cons.mpr ⟨(scoped_string key).labelled (scoped_ofJson value),
        scoped_ofJsonMembers rest⟩

end

theorem scoped_jsonLiteral (value : Json) : (jsonLiteral value).Scoped own :=
  ((scoped_support _).append (scoped_operator "!")).append (scoped_ofJson value).parens

end Code

namespace DefaultValue

mutual

theorem scoped_code : (value : DefaultValue) →
    (∀ path ∈ value.enumerations, Known own path.head) → value.code.Scoped own
  | .bool value, _ => by
      rw [code]
      exact scoped_bool value
  | .integer value, _ => by
      rw [code]
      exact scoped_integer value
  | .integerNumber value, _ => by
      rw [code]
      exact (scoped_support _).call_singleton (scoped_integer value)
  | .floatNumber value, _ => by
      rw [code]
      exact (scoped_support _).call_singleton (scoped_float value)
  | .text value, _ => by
      rw [code]
      exact scoped_ownedText value
  | .list items, hheads => by
      rw [enumerations] at hheads
      rw [code]
      exact ((scoped_word "vec" rfl).append (scoped_operator "!")).append
        (scoped_separated (scoped_itemCodes items hheads)).brackets
  | .map entries, hheads => by
      rw [enumerations] at hheads
      rw [code]
      exact (scoped_support _).call_singleton
        (scoped_separated (scoped_entryCodes entries hheads)).brackets
  | .enumCase path ident, hheads => by
      rw [enumerations] at hheads
      rw [code]
      exact (scoped_ofTypePath (hheads path (List.mem_singleton_self path))).member ident
  | .absent, _ => by
      rw [code]
      exact scoped_none
  | .present value, hheads => by
      rw [enumerations] at hheads
      rw [code]
      exact (scoped_code value hheads).some
  | .json value, _ => by
      rw [code]
      exact scoped_jsonLiteral value

theorem scoped_itemCodes : (items : List DefaultValue) →
    (∀ path ∈ itemEnumerations items, Known own path.head) →
      ∀ piece ∈ itemCodes items, piece.Scoped own
  | [], _ => List.forall_mem_nil _
  | item :: rest, hheads => by
      rw [itemEnumerations, List.forall_mem_append] at hheads
      rw [itemCodes]
      exact List.forall_mem_cons.mpr ⟨scoped_code item hheads.1, scoped_itemCodes rest hheads.2⟩

theorem scoped_entryCodes : (entries : List (String × DefaultValue)) →
    (∀ path ∈ entryEnumerations entries, Known own path.head) →
      ∀ piece ∈ entryCodes entries, piece.Scoped own
  | [], _ => List.forall_mem_nil _
  | (key, value) :: rest, hheads => by
      rw [entryEnumerations, List.forall_mem_append] at hheads
      rw [entryCodes]
      have hpair := (scoped_ownedText key).pair (scoped_code value hheads.1)
      exact List.forall_mem_cons.mpr ⟨(scoped_separated hpair).parens,
        scoped_entryCodes rest hheads.2⟩

end

end DefaultValue

/-! ## Fields -/

theorem Wrapping.scoped_code : (wrapping : Wrapping) → {value : Code} → value.Scoped own →
    (wrapping.code value).Scoped own
  | .keep, _, hvalue => hvalue
  | .box, _, hvalue => (scoped_path (known_common _ rfl) _).call_singleton hvalue
  | .boxInside, _, hvalue =>
      hvalue.parens.method_singleton (scoped_path (known_common _ rfl) _) "map" rfl
  | .present inner, _, hvalue => (scoped_code inner hvalue).some

namespace Property

variable (property : Property) {field : Place}

theorem scoped_optionalAccessor [Spelling] (hfield : field.code.Scoped own) :
    (property.optionalAccessor field).2.Scoped own := by
  unfold optionalAccessor
  split
  · exact hfield
  · split <;> exact hfield.method_nil _ rfl

theorem scoped_accessor [Spelling] (hfield : field.code.Scoped own) :
    (property.accessor field).2.Scoped own := by
  unfold accessor
  split
  · exact scoped_optionalAccessor _ hfield
  · split
    · exact hfield
    · exact hfield.borrow

end Property

namespace FieldProperty

variable (property : FieldProperty) {value : Operand}

theorem scoped_rawInput (key : String) : (property.rawInput (word "object") key).Scoped own := by
  cases property with
  | required inner =>
      exact ((scoped_support _).call ((scoped_word "object" rfl).pair (scoped_string key))).attempt
  | optional | defaulted =>
      exact (scoped_word "object" rfl).method_singleton (scoped_string key) "get" rfl

theorem scoped_wrap (nullable : Bool) (hcode : code.Scoped own) :
    (wrap nullable code).Scoped own := by
  unfold wrap
  split
  · exact hcode.some
  · exact hcode

/-- **Decoding** a field. -/
theorem scoped_inputMapping [Spelling]
    (hheads : ∀ path, property.inner.ReliesOn path → Known own path.head)
    (hdefaults : ∀ path ∈ property.enumerations, Known own path.head) (hraw : raw.Scoped own) :
    (property.inputMapping raw).Scoped own := by
  have hpresent : (Code.some (word "raw")).Scoped own := (scoped_word "raw" rfl).some
  have hnull : ((word "raw").method "is_null" []).Scoped own :=
    (scoped_word "raw" rfl).method_nil _ rfl
  have hmapping := property.inner.scoped_inputMapping hheads (scoped_word "raw" rfl)
  cases property with
  | required inner => exact inner.scoped_inputMapping hheads hraw
  | optional inner ignored acceptsNull =>
      cases acceptsNull with
      | true =>
          have hguarded := ((hpresent.append (scoped_word "if" rfl)).append
            (scoped_operator "!")).append hnull
          exact hraw.matchOn ((hguarded.arm hmapping.some).pair
            ((scoped_word "_" rfl).arm scoped_none))
      | false =>
          exact hraw.matchOn ((hpresent.arm hmapping.some).pair (scoped_none.arm scoped_none))
  | defaulted inner default nullable acceptsNull =>
      have hvalue := hpresent.arm (scoped_wrap nullable hmapping)
      have hdefault := scoped_none.arm (scoped_wrap nullable (default.scoped_code hdefaults))
      have harms := hvalue.pair hdefault
      cases acceptsNull with
      | true =>
          have hguarded := ((hpresent.append (scoped_word "if" rfl)).append hnull).arm scoped_none
          exact hraw.matchOn (List.forall_mem_cons.mpr ⟨hguarded, harms⟩)
      | false => exact hraw.matchOn harms

theorem scoped_outputMapping (hvalue : value.receiver.Scoped own) :
    (property.outputMapping value).Scoped own := by
  unfold outputMapping
  split
  · exact (property.inner.scoped_outputMapping (scoped_word "value" rfl)).encodeOptional hvalue
  · exact property.inner.scoped_outputMapping hvalue

/-- **Encoding** a field. -/
theorem scoped_encodeStatement (key : String) (hvalue : value.receiver.Scoped own) :
    (property.encodeStatement (word "output") key value).Scoped own := by
  have hinsert : ∀ {encoded : Code}, encoded.Scoped own →
      (Property.insertStatement (word "output") key encoded).Scoped own := by
    intro encoded hencoded
    have harguments := (scoped_ownedText key).pair hencoded
    exact ((scoped_word "output" rfl).method harguments "insert" rfl).append (scoped_operator ";")
  -- what may be absent is written only when it is there
  have hskip : (word "if" ++ word "let" ++ Code.some (word "value") ++ operator "=" ++
      value.receiver.method "as_ref" [] ++
      braces (Property.insertStatement (word "output") key
        (property.inner.outputMapping .value))).Scoped own := by
    have hpattern : (word "if" ++ word "let" ++ Code.some (word "value")).Scoped own :=
      ((scoped_word "if" rfl).append (scoped_word "let" rfl)).append (scoped_word "value" rfl).some
    exact ((hpattern.append (scoped_operator "=")).append (hvalue.method_nil "as_ref" rfl)).append
      (hinsert (property.inner.scoped_outputMapping (scoped_word "value" rfl))).braces
  have hplain := hinsert (property.scoped_outputMapping hvalue)
  cases property with
  | required inner => exact hplain
  | optional inner ignored acceptsNull => exact hskip
  | defaulted inner default nullable acceptsNull =>
      unfold encodeStatement
      dsimp only
      split
      · exact hskip
      · exact hplain

variable {property}

theorem scoped_cloneExpression (hvalue : value.receiver.Scoped own)
    (hcode : property.cloneExpression? value = Option.some code) : code.Scoped own := by
  unfold cloneExpression? at hcode
  split at hcode <;> exact Property.scoped_cloneExpression hvalue hcode

theorem scoped_absentValue (hdefaults : ∀ path ∈ property.enumerations, Known own path.head)
    (hcode : property.absentValue? = Option.some code) : code.Scoped own := by
  cases property with
  | required inner => cases hcode
  | optional inner ignored acceptsNull =>
      obtain rfl := Option.some.inj hcode
      exact scoped_none
  | defaulted inner default nullable acceptsNull =>
      obtain rfl := Option.some.inj hcode
      exact scoped_wrap nullable (default.scoped_code hdefaults)

theorem scoped_accessor [Spelling] (property : FieldProperty) {field : Place}
    (hfield : field.code.Scoped own) :
    (property.accessor field).2.Scoped own := by
  unfold accessor
  split
  · exact property.inner.scoped_optionalAccessor hfield
  · exact property.inner.scoped_accessor hfield

end FieldProperty

end SchemaTypes
