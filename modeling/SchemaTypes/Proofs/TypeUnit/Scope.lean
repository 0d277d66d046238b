import SchemaTypes.Proofs.Property.Scope

/-!
# Names that generated types look up

The code of a type looks up names of the standard library, names that it declares itself, and types
that its properties rely on.

* `FieldUnit.Scoped`, `VariantUnit.Scoped`: what the parts of a type look up.
* `FieldUnit.scoped_ofField`, `VariantUnit.scoped_ofProperty`: the parts of assembled types.
* `StructUnit.scoped_code`, `EnumUnit.scoped_code`, `UnionUnit.scoped_code`: all code of a type.
-/

namespace SchemaTypes

open Code

variable {own : String → Prop} {name : String} {a code parameters result body : Code}

namespace Code

/-! ## Pieces of types -/

theorem scoped_derive {traits : List String}
    (hcommon : ∀ derived ∈ traits, isCommon derived = true) :
    (derive (traits.map word)).Scoped own := by
  have htraits : ∀ derived ∈ traits.map word, derived.Scoped own :=
    List.forall_mem_map.mpr fun derived hderived => scoped_word derived (hcommon derived hderived)
  exact ((scoped_word "derive" rfl).append (scoped_separated htraits).parens).outerAttribute

theorem scoped_allow (lint : String) (hcommon : isCommon lint = true) :
    (allow lint).Scoped own :=
  ((scoped_word "allow" rfl).append (scoped_word lint hcommon).parens).outerAttribute

theorem scoped_mustUse : mustUse.Scoped own := (scoped_word "must_use" rfl).outerAttribute

/-- What opens a declaration that all code may use. -/
theorem scoped_public (keyword : String) (hcommon : isCommon keyword = true)
    (hname : Known own name) : (words ["pub", keyword, name]).Scoped own :=
  ((scoped_word "pub" rfl).append (scoped_word keyword hcommon)).append (scoped_name hname)

theorem Scoped.function {qualifiers : List String} (hbody : body.Scoped own)
    (hqualifiers : ∀ name ∈ qualifiers, Known own name) (hname : Known own name)
    (hparameters : parameters.Scoped own) (hresult : result.Scoped own) :
    (function qualifiers name parameters result body).Scoped own :=
  ((((((scoped_words hqualifiers).append (scoped_word "fn" rfl)).append (scoped_name hname)).append
    hparameters.parens).append (scoped_operator "->")).append hresult).append hbody.braces

theorem Scoped.publicFunction (hbody : body.Scoped own) (hname : Known own name)
    (hparameters : parameters.Scoped own) (hresult : result.Scoped own) :
    (publicFunction name parameters result body).Scoped own :=
  hbody.function (List.forall_mem_singleton.mpr (known_common _ rfl)) hname hparameters hresult

theorem scoped_selfType : selfType.Scoped own := scoped_word "Self" rfl

theorem scoped_selfMember (name : String) : (selfMember name).Scoped own :=
  scoped_path (known_common _ rfl) _

theorem Scoped.selfLiteral (hcode : code.Scoped own) : (selfLiteral code).Scoped own :=
  scoped_selfType.append hcode.braces

theorem Scoped.selfUpdate (hcode : code.Scoped own) : (selfUpdate code).Scoped own :=
  (((hcode.append (scoped_operator ",")).append (scoped_operator "..")).append
    (scoped_word "self" rfl)).selfLiteral

theorem scoped_borrowedSelf : borrowedSelf.Scoped own := (scoped_word "self" rfl).borrow

theorem scoped_jsonValue : jsonValue.Scoped own := scoped_support _

/-- A parameter that borrows a JSON value. -/
theorem scoped_jsonParameter (name : String) (hcommon : isCommon name = true) :
    (labelled (word name) (borrow jsonValue)).Scoped own :=
  (scoped_word name hcommon).labelled scoped_jsonValue.borrow

theorem scoped_inputParameter : inputParameter.Scoped own := scoped_jsonParameter "input" rfl

theorem scoped_validateParameter : validateParameter.Scoped own :=
  (scoped_word "validate" rfl).labelled (scoped_word "bool" rfl)

/-- The parameters of a function that decodes. -/
theorem scoped_decodingParameters :
    (terminated [inputParameter, validateParameter]).Scoped own :=
  scoped_terminated (scoped_inputParameter.pair scoped_validateParameter)

theorem Scoped.fallible (hcode : code.Scoped own) : (fallible code).Scoped own :=
  (scoped_word "Result" rfl).applied (hcode.pair (scoped_support _))

theorem Scoped.fieldValue (hcode : code.Scoped own) (hname : Known own name) :
    (fieldValue name code).Scoped own := by
  unfold Code.fieldValue
  split
  · exact scoped_name hname
  · exact (scoped_name hname).labelled hcode

theorem Scoped.implementation (hcode : code.Scoped own) (hname : Known own name) :
    (implementation name code).Scoped own :=
  ((scoped_word "impl" rfl).append (scoped_name hname)).append hcode.braces

end Code

/-! ## Fields -/

namespace FieldUnit

/-- All that a field is made of looks up known names only. -/
structure Scoped (own : String → Prop) (field : FieldUnit) : Prop where
  ident : Known own field.ident
  shapes : ∀ shape ∈ field.shapes, shape.code.Scoped own
  expressions : ∀ code ∈ field.expressions, code.Scoped own

theorem scoped_ofField [Spelling] {field : ResolvedField} {ident : String}
    (hident : Known own ident)
    (hheads : ∀ path, field.property.inner.ReliesOn path → Known own path.head)
    (hdefaults : ∀ path ∈ field.property.enumerations, Known own path.head) :
    (ofField field ident).Scoped own where
  ident := hident
  shapes shape hshape :=
    shape.scoped_code fun path hpath => hheads path (reliesOn_of_shape hshape hpath)
  expressions code hcode := by
    have hvariable : (Place.variable ident).code.Scoped own := scoped_name hident
    have hstored : (Place.field ident).code.Scoped own := (scoped_word "self" rfl).field hident
    have hcases : code = (field.property.accessor (.field ident)).2 ∨
        code = field.property.inputMapping (field.property.rawInput (.word "object") field.key) ∨
        code = field.property.encodeStatement (.word "output") field.key
          (.borrowed (.field ident)) ∨
        code = (field.property.cloneExpression? (.place (.field ident))).getD
          (Place.field ident).code ∨
        code = field.property.wrapping.code (Place.variable ident).code ∨
        field.property.assertion? (.borrowed (.variable ident)) field.key = Option.some code ∨
        field.property.absentValue? = Option.some code := by
      simpa [FieldUnit.expressions, ofField, or_assoc] using hcode
    rcases hcases with rfl | rfl | rfl | rfl | rfl | hassertion | habsent
    · exact field.property.scoped_accessor hstored
    · exact field.property.scoped_inputMapping hheads hdefaults (field.property.scoped_rawInput _)
    · exact field.property.scoped_encodeStatement _ hstored
    · cases hclone : field.property.cloneExpression? (.place (.field ident)) with
      | none => exact hstored
      | some code =>
          refine FieldProperty.scoped_cloneExpression ?_ hclone
          exact hstored
    · exact Wrapping.scoped_code _ hvariable
    · refine Property.scoped_assertion ?_ hassertion
      exact hvariable
    · exact FieldProperty.scoped_absentValue hdefaults habsent

theorem known_accessorName {ident : String} (hident : Known own ident) :
    Known own (accessorName ident) := by
  have hsmall : ∀ name ∈ structMethods, isCommon (name ++ "_value") = true := by decide
  unfold accessorName
  dsimp only
  split
  · rename_i hmethod
    exact known_common _ (hsmall _ (List.contains_iff_mem.mp hmethod))
  · exact hident

/-- Mutators start with a small letter, whatever the name of the field. -/
theorem known_methodName {start : String} {c : Char} {rest : List Char}
    (hstart : start.toList = c :: rest) (hsmall : c.isUpper = false) (ident : String) :
    Known own (methodName start ident) := by
  refine .small ?_
  rw [methodName, String.toList_append, hstart, List.cons_append]
  exact hsmall

section

variable {field : FieldUnit} (hfield : field.Scoped own)

include hfield

theorem Scoped.accessorCode : field.accessorCode.Scoped own := by
  have hseparator : (if field.docs.isEmpty then Code.empty else docLine "").Scoped own := by
    split
    · exact scoped_empty
    · exact scoped_docLine _
  have hbody : field.accessorBody.Scoped own :=
    hfield.expressions _ (by simp [FieldUnit.expressions])
  have hshape : field.accessorShape.code.Scoped own := hfield.shapes _ (by simp [FieldUnit.shapes])
  exact (((scoped_docs _).append hseparator).append (scoped_docLine _)).append
    (hbody.publicFunction (known_accessorName hfield.ident) scoped_borrowedSelf hshape)

theorem Scoped.withCode : field.withCode.Scoped own := by
  have hname : Known own (methodName "with_" field.ident) := known_methodName rfl rfl _
  have hident := hfield.ident
  have hassign : field.assign.Scoped own := hfield.expressions _ (by simp [FieldUnit.expressions])
  have hshape : field.mutatorShape.code.Scoped own := hfield.shapes _ (by simp [FieldUnit.shapes])
  have hparameters : (separated [word "self",
      labelled (word field.ident) field.mutatorShape.code]).Scoped own :=
    scoped_separated ((scoped_word "self" rfl).pair ((scoped_name hident).labelled hshape))
  have hupdated := (hassign.fieldValue hident).selfUpdate
  unfold FieldUnit.withCode
  cases hassertion : field.assertion with
  | none => exact scoped_mustUse.append (hupdated.publicFunction hname hparameters scoped_selfType)
  | some assertion =>
      have hchecked : assertion.Scoped own :=
        hfield.expressions _ (by simp [FieldUnit.expressions, hassertion])
      exact (hchecked.append hupdated.ok).publicFunction hname hparameters scoped_selfType.fallible

theorem Scoped.withoutCode : field.withoutCode.Scoped own := by
  have hname : Known own (methodName "without_" field.ident) := known_methodName rfl rfl _
  unfold FieldUnit.withoutCode
  cases habsent : field.absent with
  | none => exact scoped_empty
  | some absent =>
      have hvalue : absent.Scoped own :=
        hfield.expressions _ (by simp [FieldUnit.expressions, habsent])
      have hupdated := ((scoped_name hfield.ident).labelled hvalue).selfUpdate
      exact scoped_mustUse.append
        (hupdated.publicFunction hname (scoped_word "self" rfl) scoped_selfType)

theorem Scoped.declaration : field.declaration.Scoped own :=
  (scoped_name hfield.ident).labelled (hfield.shapes _ (by simp [FieldUnit.shapes]))

theorem Scoped.decodeCode : field.decodeCode.Scoped own := by
  have hdecode : field.decode.Scoped own := hfield.expressions _ (by simp [FieldUnit.expressions])
  have hdecoder := ((((scoped_operator "||").append (scoped_operator "->")).append
    scoped_decodingResult).append hdecode.ok.braces).parens
  have herror : (word "error").Scoped own := scoped_word "error" rfl
  have hnamed := (herror.method_singleton (scoped_string field.key) "at" rfl).closure "error" rfl
  exact (scoped_name hfield.ident).labelled
    ((hdecoder.append scoped_empty.parens).method_singleton hnamed "map_err" rfl).attempt

theorem Scoped.encode : field.encode.Scoped own :=
  hfield.expressions _ (by simp [FieldUnit.expressions])

theorem Scoped.clone : (labelled (word field.ident) field.clone).Scoped own :=
  (scoped_name hfield.ident).labelled (hfield.expressions _ (by simp [FieldUnit.expressions]))

/-- The parameter of the constructor. -/
theorem Scoped.parameter : (labelled (word field.ident) field.mutatorShape.code).Scoped own :=
  (scoped_name hfield.ident).labelled (hfield.shapes _ (by simp [FieldUnit.shapes]))

/-- The value that the constructor gives the field. -/
theorem Scoped.initial : (fieldValue field.ident (field.absent.getD field.assign)).Scoped own := by
  refine Code.Scoped.fieldValue ?_ hfield.ident
  cases habsent : field.absent with
  | none => exact hfield.expressions _ (by simp [FieldUnit.expressions])
  | some absent => exact hfield.expressions _ (by simp [FieldUnit.expressions, habsent])

end

end FieldUnit

/-! ## Structs -/

namespace StructUnit

variable {unit : StructUnit} (hfields : ∀ field ∈ unit.fields, field.Scoped own)

include hfields

theorem scoped_constructorCode : unit.constructorCode.Scoped own := by
  have hparameters := scoped_separated (List.forall_mem_map.mpr fun field
    (hfield : field ∈ unit.fields.filter (·.isRequired)) =>
      (hfields field (List.mem_filter.mp hfield).1).parameter)
  have hvalues := scoped_separated (List.forall_mem_map.mpr fun field hfield =>
    (hfields field hfield).initial)
  exact hvalues.selfLiteral.publicFunction (known_common _ rfl) hparameters scoped_selfType

theorem scoped_decodingCode : unit.decodingCode.Scoped own := by
  have hobject : ((support ["decode", "object"]).call [word "input"]).attempt.Scoped own :=
    ((scoped_support _).call_singleton (scoped_word "input" rfl)).attempt
  have hvalidated : (Code.ifTrue (word "validate")
      (((selfMember "validate_input").call [word "input"]).attempt ++ semicolon)).Scoped own :=
    (scoped_word "validate" rfl).ifTrue (((scoped_selfMember _).call_singleton
      (scoped_word "input" rfl)).attempt.append (scoped_operator ";"))
  -- a struct without fields reads no object, so nothing is bound
  have hbody : (if unit.fields.isEmpty then
      ((support ["decode", "object"]).call [word "input"]).attempt ++ semicolon ++
        Code.ok (selfLiteral empty)
    else
      words ["let", "object"] ++ operator "=" ++
        ((support ["decode", "object"]).call [word "input"]).attempt ++ semicolon ++
          Code.ok (selfLiteral (separated (unit.fields.map (·.decodeCode))))).Scoped own := by
    split
    · exact (hobject.append (scoped_operator ";")).append scoped_empty.selfLiteral.ok
    · have hdecoded := scoped_separated (List.forall_mem_map.mpr fun field hfield =>
        (hfields field hfield).decodeCode)
      have hbinding : (words ["let", "object"]).Scoped own :=
        (scoped_word "let" rfl).append (scoped_word "object" rfl)
      exact (((hbinding.append (scoped_operator "=")).append hobject).append
        (scoped_operator ";")).append hdecoded.selfLiteral.ok
  have hbuild := (hvalidated.append hbody).publicFunction
    (known_common "build_from_input" rfl) scoped_decodingParameters scoped_selfType.fallible
  have harguments : ∀ argument ∈ [selfMember "SCHEMA", word "input"], argument.Scoped own :=
    (scoped_selfMember _).pair (scoped_word "input" rfl)
  have hvalidate := ((scoped_support ["validate"]).call harguments).publicFunction
    (known_common "validate_input" rfl) scoped_inputParameter scoped_empty.parens.fallible
  exact (((scoped_docComment _).append (scoped_allow "unused_variables" rfl)).append hbuild).append
    hvalidate

theorem scoped_encodingCode : unit.encodingCode.Scoped own := by
  have hbinding : (words (if unit.fields.isEmpty then ["let", "output"] else
      ["let", "mut", "output"])).Scoped own := by
    split
    · exact (scoped_word "let" rfl).append (scoped_word "output" rfl)
    · exact ((scoped_word "let" rfl).append (scoped_word "mut" rfl)).append
        (scoped_word "output" rfl)
  have hfilled := scoped_concat (List.forall_mem_map.mpr fun field hfield =>
    (hfields field hfield).encode)
  have hcreated : ((support ["serde_json", "Map", "new"]).call []).Scoped own :=
    (scoped_support _).call (List.forall_mem_nil _)
  have hobject : ((jsonVariant "Object").call [word "output"]).Scoped own :=
    (scoped_support _).call_singleton (scoped_word "output" rfl)
  exact (((((hbinding.append (scoped_operator "=")).append hcreated).append
    (scoped_operator ";")).append hfilled).append hobject).publicFunction
    (known_common _ rfl) scoped_borrowedSelf scoped_jsonValue

variable (hname : Known own unit.name)

include hname

theorem scoped_cloneCode : unit.cloneCode.Scoped own := by
  have hvalues := scoped_separated (List.forall_mem_map.mpr fun field hfield =>
    (hfields field hfield).clone)
  have hfunction := hvalues.selfLiteral.function (List.forall_mem_nil _)
    (known_common "clone" rfl) scoped_borrowedSelf scoped_selfType
  have hwords : (words ["impl", "Clone", "for", unit.name]).Scoped own :=
    (((scoped_word "impl" rfl).append (scoped_word "Clone" rfl)).append
      (scoped_word "for" rfl)).append (scoped_name hname)
  exact hwords.append hfunction.braces

variable (hconstant : Known own "SCHEMA") (hextensions : unit.extensions = .none)

include hextensions

theorem scoped_definitionCode : unit.definitionCode.Scoped own := by
  have hderived : (derive (["Debug", "PartialEq"].map word)).Scoped own :=
    scoped_derive (by decide)
  have hdeclared := scoped_separated (List.forall_mem_map.mpr fun field hfield =>
    (hfields field hfield).declaration)
  rw [definitionCode, hextensions]
  exact ((((scoped_docs _).append hderived).append scoped_empty).append
    (scoped_public "struct" rfl hname)).append hdeclared.braces

include hconstant

theorem scoped_implementationCode : unit.implementationCode.Scoped own := by
  have hstatic : (lifetime "static" ++ word "str").Scoped own := by
    have hlifetime : (lifetime "static").Scoped own :=
      List.forall_mem_singleton.mpr (known_common "static" rfl)
    exact hlifetime.append (scoped_word "str" rfl)
  have hdocs : (docComment "Schema every decoded value is validated against.").Scoped own :=
    scoped_docComment _
  have htyped := ((hdocs.append (scoped_public "const" rfl hconstant)).append
    (scoped_operator ":")).append hstatic.borrow
  have hschema := ((htyped.append (scoped_operator "=")).append
    (scoped_string unit.schema)).append (scoped_operator ";")
  have haccessors := scoped_concat (List.forall_mem_map.mpr fun field hfield =>
    (hfields field hfield).accessorCode)
  have hmutators := scoped_concat (List.forall_mem_map.mpr fun field hfield =>
    (hfields field hfield).withCode.append (hfields field hfield).withoutCode)
  rw [implementationCode, hextensions]
  exact Code.Scoped.implementation ((((((hschema.append (scoped_constructorCode hfields)).append
    haccessors).append hmutators).append (scoped_decodingCode hfields)).append
    (scoped_encodingCode hfields)).append scoped_empty) hname

/-- **All code of a struct.** -/
theorem scoped_code : unit.code.Scoped own := by
  have hcode := (((scoped_definitionCode hfields hname hextensions).append
    (scoped_implementationCode hfields hname hconstant hextensions)).append
    (scoped_cloneCode hfields hname)).append scoped_empty
  rw [code, hextensions]
  exact hcode

end StructUnit

/-! ## Enumerations -/

namespace EnumUnit

theorem scoped_literalCode (literal : Json) : (literalCode literal).Scoped own := by
  unfold literalCode
  split
  · exact (scoped_support _).call_singleton (scoped_ownedText _)
  · split
    · exact (scoped_support _).call_singleton (scoped_typedInteger _)
    · exact scoped_jsonLiteral _

theorem scoped_found (case : EnumCase) : (found case).Scoped own := (scoped_selfMember _).some

theorem scoped_lookupCode (definition : EnumDefinition) : (lookupCode definition).Scoped own := by
  have hvalue : (word "value").Scoped own := scoped_word "value" rfl
  have hfallback : ∀ arm ∈ [Code.arm (word "_") .none], arm.Scoped own :=
    List.forall_mem_singleton.mpr ((scoped_word "_" rfl).arm scoped_none)
  unfold lookupCode
  dsimp only
  split
  · refine (hvalue.method_nil "as_str" rfl).attempt.matchOn
      (List.forall_mem_append.mpr ⟨?_, hfallback⟩)
    intro arm harm
    obtain ⟨case, -, harm⟩ := List.mem_filterMap.mp harm
    obtain ⟨text, -, rfl⟩ := Option.map_eq_some_iff.mp harm
    exact (scoped_string text).arm (scoped_found case)
  · refine (hvalue.method_nil "as_i64" rfl).attempt.matchOn
      (List.forall_mem_append.mpr ⟨?_, hfallback⟩)
    intro arm harm
    obtain ⟨case, -, harm⟩ := List.mem_filterMap.mp harm
    obtain ⟨number, -, rfl⟩ := Option.map_eq_some_iff.mp harm
    exact (scoped_integer number).arm (scoped_found case)
  · have hcase : (word "case").Scoped own := scoped_word "case" rfl
    have hsame :=
      ((hcase.method_nil "to_json" rfl).borrow.append (scoped_operator "==")).append hvalue
    exact ((scoped_selfMember "ALL").method_nil "into_iter" rfl).method_singleton
      (hsame.closure "case" rfl) "find" rfl

section

variable {unit : EnumUnit} (hname : Known own unit.name) (hextensions : unit.extensions = .none)
  (hconstant : Known own "ALL")

include hname hextensions hconstant

theorem scoped_implementationCode : unit.implementationCode.Scoped own := by
  have hvalue : (word "value").Scoped own := scoped_word "value" rfl
  have hparameter : (labelled (word "value") (borrow jsonValue)).Scoped own :=
    scoped_jsonParameter "value" rfl
  -- the items of the implementation in their order: the constant, both lookups and the encoder
  have htype : (brackets (selfType ++ semicolon ++
      literal (toString unit.definition.cases.length ++ "usize"))).Scoped own :=
    ((scoped_selfType.append (scoped_operator ";")).append (scoped_literal _)).brackets
  have hcases : (brackets (separated (unit.definition.cases.map fun case =>
      selfMember case.ident))).Scoped own :=
    (scoped_separated (List.forall_mem_map.mpr fun _ _ => scoped_selfMember _)).brackets
  have hlist := (((((scoped_docComment "Every case, in declaration order.").append
    (scoped_public "const" rfl hconstant)).append (scoped_operator ":")).append htype).append
    (scoped_operator "=")).append hcases
  have htry := (scoped_lookupCode unit.definition).publicFunction
    (known_common "try_from_json" rfl) hparameter
    ((scoped_word "Option" rfl).applied (List.forall_mem_singleton.mpr scoped_selfType))
  have hmessage : (word "format" ++ operator "!" ++ parens (separated [string "\x7b\x7d \x7b\x7d",
      word "value", string s!"is not a valid {unit.name}"])).Scoped own :=
    ((scoped_word "format" rfl).append (scoped_operator "!")).append
      (scoped_separated (List.forall_mem_cons.mpr
        ⟨scoped_string _, hvalue.pair (scoped_string _)⟩)).parens
  have hfailure := (scoped_operator "||").append
    ((scoped_support ["ValidationError", "new"]).call_singleton hmessage)
  have hfrom := (((scoped_selfMember "try_from_json").call_singleton hvalue).method_singleton
    hfailure "ok_or_else" rfl).publicFunction (known_common "from_json" rfl) hparameter
    scoped_selfType.fallible
  have harms : (separated (unit.definition.cases.map fun case =>
      Code.arm (selfMember case.ident) (literalCode case.literal))).Scoped own :=
    scoped_separated (List.forall_mem_map.mpr fun _ _ =>
      (scoped_selfMember _).arm (scoped_literalCode _))
  have hencode := (((scoped_word "match" rfl).append (scoped_word "self" rfl)).append
    harms.braces).publicFunction (known_common "to_json" rfl) scoped_borrowedSelf scoped_jsonValue
  rw [implementationCode, hextensions]
  exact Code.Scoped.implementation (((((hlist.append (scoped_operator ";")).append htry).append
    hfrom).append hencode).append scoped_empty) hname

/-- **All code of an enumeration.** -/
theorem scoped_code (hcases : ∀ case ∈ unit.definition.cases, Known own case.ident) :
    unit.code.Scoped own := by
  have hderived : (derive (["Debug", "Clone", "Copy", "PartialEq", "Eq", "Hash"].map
      word)).Scoped own := scoped_derive (by decide)
  have hdeclared := scoped_separated (List.forall_mem_map.mpr fun case hcase =>
    scoped_name (hcases case hcase))
  have hdefinition := (((((scoped_docs unit.docs).append
    (scoped_allow "non_camel_case_types" rfl)).append hderived).append scoped_empty).append
    (scoped_public "enum" rfl hname)).append hdeclared.braces
  have hcode := (hdefinition.append
    (scoped_implementationCode hname hextensions hconstant)).append scoped_empty
  rw [code, hextensions]
  exact hcode

end

end EnumUnit

/-! ## Unions -/

/-- All that a variant is made of looks up known names only. -/
structure VariantUnit.Scoped (own : String → Prop) (variant : VariantUnit) : Prop where
  ident : Known own variant.ident
  storage : variant.storage.code.Scoped own
  expressions : ∀ code ∈ variant.expressions, code.Scoped own

theorem VariantUnit.scoped_ofProperty [Spelling] {ident : String} {property : Property}
    {condition : Code} (hident : Known own ident)
    (hheads : ∀ path, property.ReliesOn path → Known own path.head)
    (hcondition : condition.Scoped own) : (ofProperty ident property condition).Scoped own where
  ident := hident
  storage := property.fieldShape.scoped_code fun path hpath =>
    hheads path (Property.reliesOn_of_fieldShape hpath)
  expressions := List.forall_mem_cons.mpr ⟨hcondition,
    (property.scoped_inputMapping hheads (scoped_word "input" rfl)).pair
      (property.scoped_outputMapping (scoped_word "value" rfl))⟩

namespace UnionUnit

variable {unit : UnionUnit}

theorem scoped_decoded {variant : VariantUnit} (hvariant : variant.Scoped own) :
    (decoded variant).Scoped own :=
  ((scoped_selfMember _).call_singleton
    (hvariant.expressions _ (by simp [VariantUnit.expressions]))).ok

theorem scoped_branchCode {variant : VariantUnit} (hvariant : variant.Scoped own) :
    (branchCode variant).Scoped own :=
  Code.Scoped.ifTrue (hvariant.expressions _ (by simp [VariantUnit.expressions]))
    (((scoped_word "return" rfl).append (scoped_decoded hvariant)).append (scoped_operator ";"))

/-- Further conditions after some. -/
theorem scoped_furtherConditions {variants : List VariantUnit} {any : Code} (hany : any.Scoped own)
    (hvariants : ∀ variant ∈ variants, variant.condition.Scoped own) :
    (variants.foldl (fun any variant => any ++ operator "||" ++ variant.condition)
      any).Scoped own := by
  induction variants generalizing any with
  | nil => exact hany
  | cons first rest ih =>
      obtain ⟨hfirst, hrest⟩ := List.forall_mem_cons.mp hvariants
      exact ih ((hany.append (scoped_operator "||")).append hfirst) hrest

theorem scoped_anyCondition {variants : List VariantUnit}
    (hvariants : ∀ variant ∈ variants, variant.condition.Scoped own) :
    (anyCondition variants).Scoped own := by
  cases variants with
  | nil => exact scoped_word "false" rfl
  | cons first rest =>
      obtain ⟨hfirst, hrest⟩ := List.forall_mem_cons.mp hvariants
      exact scoped_furtherConditions hfirst hrest

variable (hvariants : ∀ variant ∈ unit.allVariants, variant.Scoped own)

include hvariants

theorem scoped_fallbackCode : unit.fallbackCode.Scoped own := by
  unfold fallbackCode
  cases hfallback : unit.fallback with
  | none =>
      have hinput : (word "input").Scoped own := scoped_word "input" rfl
      exact ((scoped_selfMember _).call_singleton (hinput.method_nil "clone" rfl)).ok
  | some variant =>
      exact scoped_decoded (hvariants variant (by simp [allVariants, hfallback]))

theorem scoped_decodingCode : unit.decodingCode.Scoped own := by
  have hown : ∀ variant ∈ unit.variants, variant.Scoped own := fun variant hvariant =>
    hvariants variant (List.mem_append_left _ hvariant)
  have hbranches := scoped_concat (List.forall_mem_map.mpr fun variant hvariant =>
    scoped_branchCode (hown variant hvariant))
  have hbody := hbranches.append (scoped_fallbackCode hvariants)
  have hresult : (Code.fallible selfType).Scoped own := scoped_selfType.fallible
  unfold decodingCode
  dsimp only
  split
  · have hbuild := hbody.publicFunction (known_common "build_from_input" rfl)
      scoped_decodingParameters hresult
    have hmatches := (scoped_anyCondition fun variant hvariant =>
      (hown variant hvariant).expressions _ (by simp [VariantUnit.expressions])).publicFunction
      (known_common "matches_input" rfl) scoped_inputParameter (scoped_word "bool" rfl)
    exact ((((scoped_docComment _).append
      (scoped_allow "unused_variables" rfl)).append hbuild).append
        (scoped_docComment _)).append hmatches
  · have hkey : (labelled (word "key") (borrow (word "str"))).Scoped own :=
      (scoped_word "key" rfl).labelled (scoped_word "str" rfl).borrow
    have hparameters : (terminated [labelled (word "key") (borrow (word "str")), inputParameter,
        validateParameter]).Scoped own :=
      scoped_terminated (List.forall_mem_cons.mpr
        ⟨hkey, scoped_inputParameter.pair scoped_validateParameter⟩)
    have hbuild := hbody.publicFunction (known_common "build_from_entry" rfl) hparameters hresult
    exact ((scoped_docComment _).append (scoped_allow "unused_variables" rfl)).append hbuild

theorem scoped_encodingCode : unit.encodingCode.Scoped own := by
  have harms : ∀ arm ∈ unit.allVariants.map fun variant =>
      Code.arm ((selfMember variant.ident).call [word "value"]) variant.encode,
      arm.Scoped own :=
    List.forall_mem_map.mpr fun variant hvariant =>
      ((scoped_selfMember _).call_singleton (scoped_word "value" rfl)).arm
        ((hvariants variant hvariant).expressions _ (by simp [VariantUnit.expressions]))
  have hunmatched : ∀ arm ∈ (if unit.fallback.isNone then
      [Code.arm ((selfMember "Unmatched").call [word "value"]) ((word "value").method "clone" [])]
    else []), arm.Scoped own := by
    have hvalue : (word "value").Scoped own := scoped_word "value" rfl
    split
    · exact List.forall_mem_singleton.mpr
        (((scoped_selfMember _).call_singleton hvalue).arm (hvalue.method_nil "clone" rfl))
    · exact List.forall_mem_nil _
  exact ((scoped_word "self" rfl).matchOn
    (List.forall_mem_append.mpr ⟨harms, hunmatched⟩)).publicFunction
    (known_common "to_json" rfl) scoped_borrowedSelf scoped_jsonValue

/-- **All code of a union.** -/
theorem scoped_code (hname : Known own unit.name) (hextensions : unit.extensions = .none)
    (hunmatched : Known own "Unmatched") : unit.code.Scoped own := by
  have hderived : (derive (["Debug", "Clone", "PartialEq"].map word)).Scoped own :=
    scoped_derive (by decide)
  have hdeclared : ∀ variant ∈ unit.allVariants.map fun variant =>
      (word variant.ident).call [variant.storage.code], variant.Scoped own :=
    List.forall_mem_map.mpr fun variant hvariant =>
      (scoped_name (hvariants variant hvariant).ident).call_singleton
        (hvariants variant hvariant).storage
  have hfallback : ∀ variant ∈ (if unit.fallback.isNone then
      [(word "Unmatched").call [jsonValue]] else []), variant.Scoped own := by
    split
    · exact List.forall_mem_singleton.mpr ((scoped_name hunmatched).call_singleton scoped_jsonValue)
    · exact List.forall_mem_nil _
  have hbody := (scoped_terminated (List.forall_mem_append.mpr ⟨hdeclared, hfallback⟩)).braces
  have himplementation := ((scoped_decodingCode hvariants).append
    (scoped_encodingCode hvariants)).append scoped_empty
  have hdefinition := ((((scoped_docs unit.docs).append hderived).append scoped_empty).append
    (scoped_public "enum" rfl hname)).append hbody
  have hcode := (hdefinition.append (himplementation.implementation hname)).append scoped_empty
  rw [code, hextensions]
  exact hcode

end UnionUnit

end SchemaTypes
