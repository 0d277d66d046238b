import SchemaTypes.Proofs.Code.Calls
import SchemaTypes.TypeUnit.Basic

/-!
# Calls in the expressions of a property

Expressions decode the value of a property by calling functions of other types, and each function
exists on types of some kinds only.  This file tells which calls the expressions of a property make.

* `Property.relies`: the types that the expressions of a property rely on.
* `Property.reads_inputMapping`, `Property.reads_inputAssertion`: the calls that decode and test.
* `FieldProperty.reads_inputMapping`: the calls that decode a field.
-/

namespace SchemaTypes

open Code

/-! ## Types relied on -/

namespace TypeUnit.Category

/-- The function that decodes values of a type. -/
def decoder : Category → String
  | .struct => "build_from_input"
  | .enumeration => "from_json"
  | .union => "build_from_input"
  | .entry => "build_from_entry"

/-- The function that tests whether a JSON value can be decoded. -/
def tester? : Category → Option String
  | .struct => some "validate_input"
  | .enumeration => some "try_from_json"
  | .union => some "matches_input"
  | .entry => none

/-- The functions by which values of a type are decoded and tested. -/
def functions (category : Category) : List String := category.decoder :: category.tester?.toList

end TypeUnit.Category

/-- The type that the expressions of a reference rely on, and its kind. -/
def ReferencedType.relies : ReferencedType → List (TypePath × TypeUnit.Category)
  | .struct path _ => [(path, .struct)]
  | .enumeration path _ => [(path, .enumeration)]
  | .unknown _ => []

/-- The types that the expressions of a property rely on, with their kinds: structs are decoded
with validation, enumerations by look-up, unions are asked whether they match, and entries are
decoded together with their key. -/
def Property.relies [Spelling] : Property → List (TypePath × TypeUnit.Category)
  | .collection _ _ item => item.relies
  | .nestedObject request => [(request.path, .struct)]
  | .intersection request => [(request.path, .struct)]
  | .reference target => target.relies
  | .union path _ _ => [(path, .union)]
  | .enumeration target => [(target.path, .enumeration)]
  | .dynamic entry _ => [(entry, .entry)]
  | .nullable inner => inner.relies
  | .scalar _ => []
  | .mixed => []

/-- The calls that decode values of some types. -/
def decodingCalls (relied : List (TypePath × TypeUnit.Category)) : List Call :=
  relied.map fun own => ⟨own.1, own.2.decoder⟩

/-- The calls that test whether JSON values can be decoded. -/
def testingCalls (relied : List (TypePath × TypeUnit.Category)) : List Call :=
  relied.filterMap fun own => own.2.tester?.map (⟨own.1, ·⟩)

/-! ## Decoding -/

section

variable {code raw mapping : Code} {found : List Call}

theorem Code.reads_support (segments : List String) (last : String) :
    (Code.support (segments ++ [last])).Reads [] :=
  reads_externalPath (supportPackage :: segments) last

theorem Code.Reads.supportCall {arguments : List Code}
    (hcode : (separated arguments).Reads found) (segments : List String) {last : String}
    (hlast : last ∉ decoders) :
    ((Code.support (segments ++ [last])).call arguments).Reads found :=
  hcode.externalCall (supportPackage :: segments) hlast

theorem Code.Reads.supportCall_singleton (hcode : code.Reads found) (segments : List String)
    {last : String} (hlast : last ∉ decoders) :
    ((Code.support (segments ++ [last])).call [code]).Reads found :=
  @Reads.supportCall _ [code] hcode segments last hlast

theorem ScalarKind.reads_inputMapping (kind : ScalarKind) (hraw : raw.Reads []) :
    (kind.inputMapping raw).Reads [] := by
  have hdecoder : kind.decoder ∉ decoders := by cases kind <;> decide
  exact (hraw.supportCall_singleton ["decode"] hdecoder).attempt

theorem ScalarKind.reads_inputAssertion (kind : ScalarKind) (hraw : raw.Reads []) :
    (kind.inputAssertion raw).Reads [] := by
  cases kind with
  | bool | number | string => exact hraw.parens.method_nil _
  | integer | dateTime => exact hraw.supportCall_singleton ["decode"] (by decide)

/-- A closure of one parameter. -/
theorem Code.Reads.closure_word (hcode : code.Reads found) (parameter : String) :
    (Code.closure [.word parameter] code).Reads found :=
  @Reads.closure code found [.word parameter] (reads_word parameter) hcode

theorem Container.reads_inputAssertion (container : Container) {check : Code}
    (hcheck : check.Reads found) (hraw : raw.Reads []) :
    (container.inputAssertion check raw).Reads found := by
  have hall : ∀ {items : Code}, items.Reads [] →
      (items.method "all" [Code.closure [.word "item"] check]).Reads found := fun hitems =>
    hitems.method_singleton (hcheck.closure_word "item") "all"
  cases container with
  | list =>
      have hitems := hall ((reads_word "items").method_nil "iter")
      exact (hraw.parens.method_nil _).method_singleton (hitems.closure_word "items") _
  | map =>
      have hentries := hall ((reads_word "entries").method_nil "values")
      exact (hraw.parens.method_nil _).method_singleton (hentries.closure_word "entries") _

theorem Code.Reads.applied {arguments : List Code} (hcode : code.Reads [])
    (harguments : (separated arguments).Reads []) : (code.applied arguments).Reads [] :=
  (hcode.joined "<" harguments fun _ => trivial).trailing ">" fun _ => trivial

/-- Collecting into a type adds no calls. -/
theorem Code.Reads.collectInto {items container : Code} (hitems : items.Reads found)
    (hcontainer : container.Reads []) : (items.collectInto container).Reads found := by
  have hopened : (items.field "collect" ++ operator "::" ++ operator "<").Reads found := by
    intro reading rest hreading _
    have htokens : (items.field "collect" ++ operator "::" ++ operator "<").tokens ++ rest =
        items.tokens ++ (.punct '.' .alone :: .ident "collect" :: .punct ':' .joint ::
          .punct ':' .alone :: .punct '<' .alone :: rest) := by
      change ((((items.tokens ++ _) ++ _) ++ _) ++ _) ++ rest = _
      simp only [List.append_assoc]
      rfl
    rw [htokens, hitems reading (.punct '.' .alone :: _) hreading trivial]
    simp [decodings_cons, Token.callsIn, PathReading.next]
  have happlied : (container.applied [word "_"]).Reads [] :=
    @Reads.applied container [word "_"] hcontainer (reads_word "_")
  have happlication := (hopened.append (reads_word "Result") fun _ => trivial).joined "<"
    happlied fun _ => trivial
  have hresult := happlication.joined "," (reads_word "_") fun _ => trivial
  have hall := (hresult.joined ">>" reads_empty.parens fun _ => trivial).attempt
  simp only [List.append_nil] at hall
  exact hall

theorem Code.reads_decodingResult : decodingResult.Reads [] :=
  Reads.applied (reads_word _) ((reads_word "_").comma (reads_support [] _))

theorem Code.Reads.decodingClosure {parameter : Code} (hparameter : parameter.Reads [])
    (hcode : code.Reads found) : (decodingClosure parameter code).Reads found := by
  have hopened := hparameter.leading "|" fun _ => trivial
  have hclosed := hopened.trailing "|" fun _ => trivial
  exact (hclosed.joined "->" reads_decodingResult fun _ => trivial).before_braces hcode.ok

theorem Container.reads_inputMapping (container : Container) (hmapping : mapping.Reads found)
    (hraw : raw.Reads []) : (container.inputMapping mapping raw).Reads found := by
  cases container with
  | list =>
      have hitems := ((hraw.supportCall_singleton ["decode"]
        (show "array" ∉ decoders by decide)).attempt.method_nil "iter")
      exact (hitems.method_singleton ((reads_word "item").decodingClosure hmapping)
        "map").collectInto (reads_word _)
  | map =>
      have hentries := ((hraw.supportCall_singleton ["decode"]
        (show "object" ∉ decoders by decide)).attempt.method_nil "iter")
      have hpair : (Code.parens (.separated [.clonedKey, mapping])).Reads found :=
        (((reads_word "key").method_nil "clone").comma hmapping).parens
      have hkey : Code.keyAndItem.Reads [] := ((reads_word "key").comma (reads_word "item")).parens
      exact (hentries.method_singleton (hkey.decodingClosure hpair) "map").collectInto
        (reads_support [] _)

theorem ReferencedType.reads_buildFromInput (path : TypePath) (hraw : raw.Reads []) :
    (buildFromInput path raw).Reads [⟨path, "build_from_input"⟩] :=
  (@Reads.memberCall _ _ [raw, .word "validate"] (hraw.comma (reads_word _)) (by decide)
    path).attempt

theorem ReferencedType.reads_inputMapping (target : ReferencedType) (hraw : raw.Reads []) :
    (target.inputMapping raw).Reads (decodingCalls target.relies) := by
  cases target with
  | struct path boxed =>
      cases boxed with
      | false => exact reads_buildFromInput path hraw
      | true =>
          exact @Reads.pathCall _ [buildFromInput path raw] (reads_buildFromInput path hraw) ["Box"]
            "new" (by decide)
  | enumeration path definition =>
      exact (@Reads.memberCall _ _ [raw] hraw (by decide) path).attempt
  | unknown pointer => exact hraw.parens.method_nil _

theorem ReferencedType.reads_inputAssertion (target : ReferencedType) (hraw : raw.Reads []) :
    (target.inputAssertion raw).Reads (testingCalls target.relies) := by
  cases target with
  | struct path boxed =>
      exact (@Reads.memberCall _ "validate_input" [raw] hraw (by decide) path).method_nil _
  | enumeration path definition =>
      exact (@Reads.memberCall _ "try_from_json" [raw] hraw (by decide) path).method_nil _
  | unknown pointer => exact reads_word _

namespace Property

/-- **Testing.**  Whether a JSON value can be decoded is tested by the functions of the types that
the property relies on. -/
theorem reads_inputAssertion [Spelling] : (property : Property) → {raw : Code} → raw.Reads [] →
    (property.inputAssertion raw).Reads (testingCalls property.relies)
  | .scalar kind, _, hraw => kind.reads_inputAssertion hraw
  | .collection _ container item, _, hraw =>
      container.reads_inputAssertion (reads_inputAssertion item (reads_word "item")) hraw
  | .nestedObject request, _, hraw =>
      (ReferencedType.struct request.path false).reads_inputAssertion hraw
  | .intersection request, _, hraw =>
      (ReferencedType.struct request.path false).reads_inputAssertion hraw
  | .reference target, _, hraw => target.reads_inputAssertion hraw
  | .union path _ _, raw, hraw => @Reads.memberCall _ "matches_input" [raw] hraw (by decide) path
  | .enumeration target, _, hraw =>
      (ReferencedType.enumeration target.path target.definition).reads_inputAssertion hraw
  | .dynamic _ _, _, hraw => hraw.parens.method_nil _
  | .nullable inner, _, hraw =>
      ((hraw.parens.method_nil "is_null").joined "||" (reads_inputAssertion inner hraw)
        fun _ => trivial).parens
  | .mixed, _, _ => reads_word _

/-- **Decoding.**  A JSON value is decoded by the functions of the types that the property relies
on. -/
theorem reads_inputMapping [Spelling] : (property : Property) → {raw : Code} → raw.Reads [] →
    (property.inputMapping raw).Reads (decodingCalls property.relies)
  | .scalar kind, _, hraw => kind.reads_inputMapping hraw
  | .collection _ container item, _, hraw =>
      container.reads_inputMapping (reads_inputMapping item (reads_word "item")) hraw
  | .nestedObject request, _, hraw => ReferencedType.reads_buildFromInput request.path hraw
  | .intersection request, _, hraw => ReferencedType.reads_buildFromInput request.path hraw
  | .reference target, _, hraw => target.reads_inputMapping hraw
  | .union path _ _, _, hraw => ReferencedType.reads_buildFromInput path hraw
  | .enumeration target, _, hraw =>
      (ReferencedType.enumeration target.path target.definition).reads_inputMapping hraw
  | .dynamic entry _, _, hraw => by
      have harguments : (separated [word "key", word "item", word "validate"]).Reads [] :=
        (reads_word "key").comma ((reads_word "item").comma (reads_word "validate"))
      exact Container.map.reads_inputMapping
        (harguments.memberCall (show "build_from_entry" ∈ decoders by decide) entry).attempt hraw
  | .nullable inner, _, hraw => by
      have hnull := ((reads_word "raw").spaced "if" ((reads_word "raw").method_nil "is_null")).arm
        (reads_word "None")
      have hpresent := (reads_word "raw").arm (reads_inputMapping inner (reads_word "raw")).some
      have hmatch := hraw.matchOn (hnull.terminated_cons (hpresent.terminated_cons
        reads_terminated_nil))
      simp only [List.append_nil, List.nil_append] at hmatch
      exact hmatch
  | .mixed, _, hraw => hraw.parens.method_nil _

end Property

/-! ## Encoding, copying and defaults -/

theorem Place.reads_code (place : Place) : place.code.Reads [] := by
  cases place with
  | «variable» name => exact reads_word name
  | field name => exact (reads_word "self").field name

namespace Operand

theorem reads_receiver (operand : Operand) : operand.receiver.Reads [] := by
  cases operand <;> exact Place.reads_code _

theorem reads_code (operand : Operand) : operand.code.Reads [] := by
  cases operand with
  | place held => exact held.reads_code
  | borrowed held => exact held.reads_code.borrow

theorem reads_deref (operand : Operand) : operand.deref.Reads [] := by
  cases operand with
  | place held => exact held.reads_code.leading "*" fun _ => trivial
  | borrowed held => exact held.reads_code

end Operand

theorem ScalarKind.reads_outputMapping (kind : ScalarKind) (value : Operand) :
    (kind.outputMapping value).Reads [] := by
  cases kind with
  | bool =>
      exact value.reads_deref.supportCall_singleton ["serde_json", "Value"]
        (show "Bool" ∉ decoders by decide)
  | integer =>
      exact value.reads_deref.supportCall_singleton ["serde_json", "Value"]
        (show "from" ∉ decoders by decide)
  | number => exact value.reads_receiver.method_nil _
  | string =>
      exact (value.reads_receiver.method_nil "clone").supportCall_singleton ["serde_json", "Value"]
        (show "String" ∉ decoders by decide)
  | dateTime =>
      exact value.reads_code.supportCall_singleton ["encode"]
        (show "date_time" ∉ decoders by decide)

theorem Container.reads_outputMapping (container : Container) {output : Code}
    (houtput : output.Reads []) (value : Operand) :
    (container.outputMapping output value).Reads [] := by
  have harguments := value.reads_code.comma (houtput.closure_word "item")
  cases container with
  | list => exact harguments.supportCall ["encode"] (show "list" ∉ decoders by decide)
  | map => exact harguments.supportCall ["encode"] (show "map" ∉ decoders by decide)

theorem Code.Reads.encodeOptional {output : Code} (houtput : output.Reads []) (value : Operand) :
    (Code.encodeOptional output value).Reads [] := by
  have hpresent := (@Reads.some (word "value") [] (reads_word "value")).arm houtput
  have habsent := (reads_word "None").arm (reads_support ["serde_json", "Value"] "Null")
  exact value.reads_code.matchOn (hpresent.terminated_cons (habsent.terminated_cons
    reads_terminated_nil))

/-- Encoding calls none of the functions. -/
theorem Property.reads_outputMapping : (property : Property) → (value : Operand) →
    (property.outputMapping value).Reads []
  | .scalar kind, value => kind.reads_outputMapping value
  | .collection _ container item, value =>
      container.reads_outputMapping (reads_outputMapping item .item) value
  | .reference (.unknown _), value => value.reads_receiver.method_nil _
  | .reference (.struct _ _), value | .reference (.enumeration _ _), value =>
      value.reads_receiver.method_nil _
  | .dynamic _ _, value =>
      Container.map.reads_outputMapping (Operand.item.reads_receiver.method_nil _) value
  | .nullable inner, value => (reads_outputMapping inner .value).encodeOptional value
  | .mixed, value => value.reads_receiver.method_nil _
  | .nestedObject _, value | .intersection _, value | .union _ _ _, value | .enumeration _, value =>
      value.reads_receiver.method_nil _

/-- Copying calls none of the functions. -/
theorem Property.reads_clone : (property : Property) → (value : Operand) →
    (property.clone value).Reads []
  | .nullable inner, value =>
      (value.reads_receiver.method_nil "as_ref").method_singleton
        ((reads_clone inner .inner).closure_word "inner") "map"
  | .scalar _, value | .collection _ _ _, value | .nestedObject _, value | .intersection _, value
  | .reference _, value | .union _ _ _, value | .enumeration _, value | .dynamic _ _, value
  | .mixed, value => value.reads_receiver.method_nil _

namespace Code

theorem reads_integer (value : Int) : (integer value).Reads [] := by
  unfold integer
  split
  · exact (reads_literal _).leading "-" fun _ => trivial
  · exact reads_literal _

theorem reads_float (value : Binary64) : (float value).Reads [] := by
  unfold float
  dsimp only
  split
  · exact (reads_literal _).leading "-" fun _ => trivial
  · exact reads_literal _

theorem reads_ownedText (text : String) : (ownedText text).Reads [] :=
  (reads_string text).method_nil _

theorem reads_ofJsonNumber (number : JsonNumber) : (ofJsonNumber number).Reads [] := by
  cases number with
  | integer value => exact reads_integer value
  | float value => exact reads_float value

mutual

theorem reads_ofJson : (value : Json) → (ofJson value).Reads []
  | .null => by
      rw [ofJson]
      exact reads_word _
  | .bool value => by
      rw [ofJson]
      exact reads_word _
  | .number value => by
      rw [ofJson]
      exact reads_ofJsonNumber value
  | .string value => by
      rw [ofJson]
      exact reads_string value
  | .array items => by
      rw [ofJson]
      exact (reads_separated (reads_ofJsonItems items)).brackets
  | .object members => by
      rw [ofJson]
      exact (reads_separated (reads_ofJsonMembers members)).braces

theorem reads_ofJsonItems : (items : List Json) → ∀ piece ∈ ofJsonItems items, piece.Reads []
  | [], piece, hpiece => by simp [ofJsonItems] at hpiece
  | item :: rest, piece, hpiece => by
      rw [ofJsonItems] at hpiece
      rcases List.mem_cons.mp hpiece with rfl | hlater
      · exact reads_ofJson item
      · exact reads_ofJsonItems rest piece hlater

theorem reads_ofJsonMembers : (members : List (String × Json)) →
    ∀ piece ∈ ofJsonMembers members, piece.Reads []
  | [], piece, hpiece => by simp [ofJsonMembers] at hpiece
  | (key, value) :: rest, piece, hpiece => by
      rw [ofJsonMembers] at hpiece
      rcases List.mem_cons.mp hpiece with rfl | hlater
      · exact (reads_string key).joined ":" (reads_ofJson value) fun _ => trivial
      · exact reads_ofJsonMembers rest piece hlater

end

theorem reads_jsonLiteral (value : Json) : (jsonLiteral value).Reads [] :=
  (reads_support ["serde_json"] "json").joined "!" (reads_ofJson value).parens fun _ => trivial

end Code

namespace DefaultValue

mutual

/-- Defaults name cases of enumerations, but call nothing. -/
theorem reads_code : (value : DefaultValue) → value.code.Reads []
  | .bool value => by
      rw [code]
      exact reads_word _
  | .integer value => by
      rw [code]
      exact reads_integer value
  | .integerNumber value => by
      rw [code]
      exact (reads_integer value).supportCall_singleton ["Number"]
        (show "Integer" ∉ decoders by decide)
  | .floatNumber value => by
      rw [code]
      exact (reads_float value).supportCall_singleton ["Number"] (show "Float" ∉ decoders by decide)
  | .text value => by
      rw [code]
      exact reads_ownedText value
  | .list items => by
      rw [code]
      exact (reads_word "vec").joined "!" (reads_separated (reads_itemCodes items)).brackets
        fun _ => trivial
  | .map entries => by
      rw [code]
      exact (reads_separated (reads_entryCodes entries)).brackets.supportCall_singleton ["Map"]
        (show "from_iter" ∉ decoders by decide)
  | .enumCase path ident => by
      rw [code]
      exact reads_member path ident
  | .absent => by
      rw [code]
      exact reads_word _
  | .present value => by
      rw [code]
      exact (reads_code value).some
  | .json value => by
      rw [code]
      exact reads_jsonLiteral value

theorem reads_itemCodes : (items : List DefaultValue) → ∀ piece ∈ itemCodes items, piece.Reads []
  | [], piece, hpiece => by simp [itemCodes] at hpiece
  | item :: rest, piece, hpiece => by
      rw [itemCodes] at hpiece
      rcases List.mem_cons.mp hpiece with rfl | hlater
      · exact reads_code item
      · exact reads_itemCodes rest piece hlater

theorem reads_entryCodes : (entries : List (String × DefaultValue)) →
    ∀ piece ∈ entryCodes entries, piece.Reads []
  | [], piece, hpiece => by simp [entryCodes] at hpiece
  | (key, value) :: rest, piece, hpiece => by
      rw [entryCodes] at hpiece
      rcases List.mem_cons.mp hpiece with rfl | hlater
      · exact ((reads_ownedText key).comma (reads_code value)).parens
      · exact reads_entryCodes rest piece hlater

end

end DefaultValue

/-! ## Fields -/

namespace FieldProperty

theorem reads_rawInput (property : FieldProperty) (key : String) :
    (property.rawInput (word "object") key).Reads [] := by
  cases property with
  | required inner =>
      exact (((reads_word "object").comma (reads_string key)).supportCall ["decode"]
        (show "required" ∉ decoders by decide)).attempt
  | optional | defaulted =>
      exact (reads_word "object").method_singleton (reads_string key) "get"

theorem reads_wrap (nullable : Bool) (hcode : code.Reads found) :
    (wrap nullable code).Reads found := by
  unfold wrap
  split
  · exact hcode.some
  · exact hcode

/-- **Decoding a field** calls the functions by which its property is decoded. -/
theorem reads_inputMapping [Spelling] (property : FieldProperty) (hraw : raw.Reads []) :
    (property.inputMapping raw).Reads (decodingCalls property.inner.relies) := by
  have hpresent : (Code.some (word "raw")).Reads [] := (reads_word "raw").some
  have hnull : ((word "raw").method "is_null" []).Reads [] := (reads_word "raw").method_nil _
  have hnone : Code.none.Reads [] := reads_word "None"
  cases property with
  | required inner => exact inner.reads_inputMapping hraw
  | optional inner ignored acceptsNull =>
      -- a field without default is `None` when it is absent, and maybe when it is `null`
      have hmapping := (inner.reads_inputMapping (reads_word "raw")).some
      cases acceptsNull with
      | true =>
          have hguarded := ((hpresent.append (reads_word "if") fun _ => trivial).joined "!"
            hnull fun _ => trivial).arm hmapping
          have hmatch := hraw.matchOn (hguarded.terminated_cons
            (((reads_word "_").arm hnone).terminated_cons reads_terminated_nil))
          simp only [List.append_nil, List.nil_append] at hmatch
          exact hmatch
      | false =>
          have hmatch := hraw.matchOn ((hpresent.arm hmapping).terminated_cons
            ((hnone.arm hnone).terminated_cons reads_terminated_nil))
          simp only [List.append_nil, List.nil_append] at hmatch
          exact hmatch
  | defaulted inner default nullable acceptsNull =>
      have hmapping := inner.reads_inputMapping (reads_word "raw")
      have hvalue := hpresent.arm (reads_wrap nullable hmapping)
      have hdefault := hnone.arm (reads_wrap nullable default.reads_code)
      have harms := hvalue.terminated_cons (hdefault.terminated_cons reads_terminated_nil)
      cases acceptsNull with
      | true =>
          have hguarded := (hpresent.spaced "if" hnull).arm hnone
          have hmatch := hraw.matchOn (hguarded.terminated_cons harms)
          simp only [List.append_nil, List.nil_append] at hmatch
          exact hmatch
      | false =>
          have hmatch := hraw.matchOn harms
          simp only [List.append_nil, List.nil_append] at hmatch
          exact hmatch

theorem reads_outputMapping (property : FieldProperty) (value : Operand) :
    (property.outputMapping value).Reads [] := by
  unfold outputMapping
  split
  · exact (property.inner.reads_outputMapping .value).encodeOptional value
  · exact property.inner.reads_outputMapping value

theorem reads_encodeStatement (property : FieldProperty) (key : String) (value : Operand) :
    (property.encodeStatement (word "output") key value).Reads [] := by
  have hinsert : ∀ {encoded : Code}, encoded.Reads [] →
      (Property.insertStatement (word "output") key encoded).Reads [] := by
    intro encoded hencoded
    have harguments := (reads_ownedText key).comma hencoded
    exact ((reads_word "output").method harguments "insert").trailing ";" fun _ => trivial
  -- what may be absent is written only when it is there
  have hskip : (word "if" ++ word "let" ++ Code.some (word "value") ++ operator "=" ++
      value.receiver.method "as_ref" [] ++
      braces (Property.insertStatement (word "output") key
        (property.inner.outputMapping .value))).Reads [] := by
    have hpattern := (reads_word "if").spaced "let" (@Reads.some (word "value") _ (reads_word _))
    exact (hpattern.joined "=" (value.reads_receiver.method_nil "as_ref")
      fun _ => trivial).before_braces (hinsert (property.inner.reads_outputMapping .value))
  have hplain := hinsert (property.reads_outputMapping value)
  cases property with
  | required inner => exact hplain
  | optional inner ignored acceptsNull => exact hskip
  | defaulted inner default nullable acceptsNull =>
      unfold encodeStatement
      dsimp only
      split
      · exact hskip
      · exact hplain

end FieldProperty

theorem Property.reads_cloneExpression {property : Property} {value : Operand}
    (hcode : property.cloneExpression? value = Option.some code) : code.Reads [] := by
  unfold cloneExpression? at hcode
  split at hcode
  · cases hcode
  · obtain rfl := Option.some.inj hcode
    exact property.reads_clone value

theorem Property.reads_assertion {property : Property} {value : Operand} {key : String}
    (hcode : property.assertion? value key = Option.some code) : code.Reads [] := by
  unfold assertion? at hcode
  split at hcode
  · obtain rfl := Option.some.inj hcode
    have harguments := (reads_path ["Self"] "SCHEMA").comma ((reads_string key).comma
      (property.reads_outputMapping value).borrow)
    have hcall := harguments.supportCall [] (show "validate_property" ∉ decoders by decide)
    exact hcall.attempt.trailing ";" fun _ => trivial
  · cases hcode

theorem Wrapping.reads_code : (wrapping : Wrapping) → {value : Code} → value.Reads [] →
    (wrapping.code value).Reads []
  | .keep, _, hvalue => hvalue
  | .box, value, hvalue => @Reads.pathCall _ [value] hvalue ["Box"] "new" (by decide)
  | .boxInside, _, hvalue => hvalue.parens.method_singleton (reads_path ["Box"] "new") "map"
  | .present inner, _, hvalue => (reads_code inner hvalue).some

theorem Property.reads_optionalAccessor [Spelling] (inner : Property) (field : Place) :
    (inner.optionalAccessor field).2.Reads [] := by
  unfold optionalAccessor
  split
  · exact field.reads_code
  · split <;> exact field.reads_code.method_nil _

theorem Property.reads_accessor [Spelling] (property : Property) (field : Place) :
    (property.accessor field).2.Reads [] := by
  unfold accessor
  split
  · exact reads_optionalAccessor _ field
  · split
    · exact field.reads_code
    · exact field.reads_code.borrow

namespace FieldProperty

theorem reads_accessor [Spelling] (property : FieldProperty) (field : Place) :
    (property.accessor field).2.Reads [] := by
  unfold accessor
  split
  · exact property.inner.reads_optionalAccessor field
  · exact property.inner.reads_accessor field

theorem reads_cloneExpression {property : FieldProperty} {value : Operand}
    (hcode : property.cloneExpression? value = Option.some code) : code.Reads [] := by
  unfold cloneExpression? at hcode
  split at hcode <;> exact Property.reads_cloneExpression hcode

theorem reads_absentValue {property : FieldProperty}
    (hcode : property.absentValue? = Option.some code) : code.Reads [] := by
  cases property with
  | required inner => cases hcode
  | optional inner ignored acceptsNull =>
      obtain rfl := Option.some.inj hcode
      exact reads_word "None"
  | defaulted inner default nullable acceptsNull =>
      obtain rfl := Option.some.inj hcode
      exact reads_wrap nullable default.reads_code

end FieldProperty

end

end SchemaTypes
