import SchemaTypes.Proofs.Property.Decoding
import SchemaTypes.Proofs.Property.Nullability
import SchemaTypes.Proofs.TypeUnit.Calls

/-!
# Fields hold values of their type

A mutator or constructor takes a parameter and stores it in a field.  The type of the parameter
leaves out what is only there for storage, the `Box` of a reference and the `Option` of a field that
may be absent, so the parameter is wrapped on its way.  What is written around the parameter is read
here as an expression, and the type that it gives to the value is the type of the field.

## Strategy

Four accounts of one thing are compared, each with the next one.

* `Token.wrappedShape?` reads an expression and works out its type from that of the parameter.
* `Wrapping.shape?` does so for a wrapping before it is written out (`Token.wrappedShape?_code`).
* `Token.GivesType` is about types as they are written: `Some(..)` adds `Option<..>`, `Box::new(..)`
  adds `Box<..>`, and `(..).map(Box::new)` puts a box inside an option
  (`Token.givesType_of_wrappedShape?`).
* `Property.wrapping_shape?`, `FieldProperty.wrapping_shape?`: a property, and a property with its
  presence, choose the wrapping that leads from the type of the parameter to that of the field.

What a field holds when its key is absent fits its type as well (`Property.Denotes.fits`).
-/

namespace SchemaTypes

open Resolve

/-! ## Types of expressions -/

namespace Token

/-- `Box::new`. -/
def isBoxing : List Token → Bool
  | [.ident "Box", .punct ':' .joint, .punct ':' .alone, .ident "new"] => true
  | _ => false

/-- The type of an expression that wraps a parameter, when the parameter is of type `given`. -/
def wrappedShape? (parameter : String) (given : TypeShape) : List Token → Option TypeShape
  | [.ident name] => if name = parameter then some given else none
  | [.ident "Some", .group .parenthesis value] =>
    (wrappedShape? parameter given value).map .optional
  | [.ident "Box", .punct ':' .joint, .punct ':' .alone, .ident "new",
      .group .parenthesis value] => (wrappedShape? parameter given value).map .boxed
  | [.group .parenthesis value, .punct '.' .alone, .ident "map", .group .parenthesis function] =>
    match wrappedShape? parameter given value with
    | some (.optional held) => if isBoxing function then some (.optional (.boxed held)) else none
    | _ => none
  | _ => none

/-- `name<argument>`. -/
def applied (name : String) (argument : List Token) : List Token :=
  [.ident name, .punct '<' .alone] ++ argument ++ [.punct '>' .alone]

/-- The type of an expression that wraps a parameter, when the parameter is of type `given`.  Both
types are tokens, as the expression is. -/
inductive GivesType (parameter : String) (given : List Token) : (value type : List Token) → Prop
  | parameter : GivesType parameter given [.ident parameter] given
  | optional {value type} (hvalue : GivesType parameter given value type) :
      GivesType parameter given [.ident "Some", .group .parenthesis value] (applied "Option" type)
  | boxed {value type} (hvalue : GivesType parameter given value type) :
      GivesType parameter given
        [.ident "Box", .punct ':' .joint, .punct ':' .alone, .ident "new",
          .group .parenthesis value]
        (applied "Box" type)
  | boxedInside {value function held} (hfunction : isBoxing function)
      (hvalue : GivesType parameter given value (applied "Option" held)) :
      GivesType parameter given
        [.group .parenthesis value, .punct '.' .alone, .ident "map", .group .parenthesis function]
        (applied "Option" (applied "Box" held))

end Token

namespace TypeShape

theorem tokens_optional (held : TypeShape) :
    held.optional.code.tokens = Token.applied "Option" held.code.tokens := rfl

theorem tokens_boxed (held : TypeShape) :
    held.boxed.code.tokens = Token.applied "Box" held.code.tokens := rfl

end TypeShape

/-- The type that is worked out for an expression is the one that it has as it is written. -/
theorem Token.givesType_of_wrappedShape? {parameter : String} {given : TypeShape}
    {value : List Token} {shape : TypeShape}
    (hshape : wrappedShape? parameter given value = some shape) :
    GivesType parameter given.code.tokens value shape.code.tokens := by
  fun_induction wrappedShape? parameter given value generalizing shape with
  | case1 =>
      -- the parameter itself
      obtain rfl := Option.some.inj hshape
      exact .parameter
  | case2 => cases hshape
  | case3 value ih =>
      obtain ⟨held, hheld, rfl⟩ := Option.map_eq_some_iff.mp hshape
      rw [TypeShape.tokens_optional]
      exact .optional (ih hheld)
  | case4 value ih =>
      obtain ⟨held, hheld, rfl⟩ := Option.map_eq_some_iff.mp hshape
      rw [TypeShape.tokens_boxed]
      exact .boxed (ih hheld)
  | case5 value function held hheld hfunction ih =>
      obtain rfl := Option.some.inj hshape
      exact .boxedInside hfunction (ih hheld)
  | case6 | case7 | case8 => cases hshape

/-- The type of a value of type `given` that has been wrapped. -/
def Wrapping.shape? : Wrapping → (given : TypeShape) → Option TypeShape
  | .keep, given => some given
  | .box, given => some (.boxed given)
  | .boxInside, .optional held => some (.optional (.boxed held))
  | .boxInside, _ => none
  | .present inner, given => (inner.shape? given).map .optional

/-- Reading a wrapping gives the type that it leads to. -/
theorem Token.wrappedShape?_code (parameter : String) (given : TypeShape) : (wrapping : Wrapping) →
    wrappedShape? parameter given (wrapping.code (.word parameter)).tokens = wrapping.shape? given
  | .keep => by
      have hcode : (Wrapping.keep.code (.word parameter)).tokens = [.ident parameter] := rfl
      rw [hcode, wrappedShape?, if_pos rfl]
      rfl
  | .box => by
      have hcode : (Wrapping.box.code (.word parameter)).tokens =
          [.ident "Box", .punct ':' .joint, .punct ':' .alone, .ident "new",
            .group .parenthesis [.ident parameter]] := rfl
      rw [hcode, wrappedShape?, wrappedShape?, if_pos rfl]
      rfl
  | .boxInside => by
      have hcode : (Wrapping.boxInside.code (.word parameter)).tokens =
          [.group .parenthesis [.ident parameter], .punct '.' .alone, .ident "map",
            .group .parenthesis [.ident "Box", .punct ':' .joint, .punct ':' .alone,
              .ident "new"]] := rfl
      rw [hcode, wrappedShape?, wrappedShape?, if_pos rfl]
      cases given <;> rfl
  | .present inner => by
      have hcode : ((Wrapping.present inner).code (.word parameter)).tokens =
          [.ident "Some", .group .parenthesis (inner.code (.word parameter)).tokens] := rfl
      rw [hcode, wrappedShape?, wrappedShape?_code parameter given inner]
      rfl

/-! ## Wrapping a parameter -/

section

variable [Spelling]

namespace Property

/-- Only boxes and options tell the type of a parameter from that of a field. -/
theorem viewShape_eq_fieldShape : {property : Property} → property.isNullable = false →
    property.isBoxed = false → property.viewShape = property.fieldShape
  | .reference (.struct _ false), _, _ | .reference (.enumeration _ _), _, _
  | .reference (.unknown _), _, _ => rfl
  | .scalar _, _, _ | .collection _ _ _, _, _ | .nestedObject _, _, _ | .intersection _, _, _
  | .union _ _ _, _, _ | .enumeration _, _, _ | .dynamic _ _, _, _ | .mixed, _, _ => rfl

/-- **Wrapping a parameter** of the type that a property shows gives a value of the type in which
the property is held. -/
theorem wrapping_shape? {property : Property} (hproperty : property.SinglyNullable) :
    property.wrapping.shape? property.viewShape = some property.fieldShape := by
  cases property with
  | nullable inner =>
      obtain ⟨hplain, htyped⟩ := hproperty inner .refl
      obtain ⟨stored, hstored⟩ := Option.isSome_iff_exists.mp htyped
      have hfield : (Property.nullable inner).fieldShape = .optional inner.fieldShape := by
        rw [fieldShape, fieldShape, storageShape?, hstored]
        rfl
      rw [hfield, wrapping, viewShape]
      split
      · -- a boxed value inside the option
        rename_i hboxed
        cases inner with
        | reference target =>
            obtain ⟨path, rfl⟩ : ∃ path, target = .struct path true := by
              cases target with
              | struct path boxed => exact ⟨path, congrArg _ hboxed⟩
              | enumeration | unknown => cases hboxed
            rfl
        | _ => cases hboxed
      · rename_i hunboxed
        rw [Wrapping.shape?, viewShape_eq_fieldShape hplain (Bool.eq_false_iff.mpr hunboxed)]
  | reference target =>
      cases target with
      | struct path boxed => cases boxed <;> rfl
      | enumeration path definition => rfl
      | unknown pointer => rfl
  | _ => rfl

end Property

namespace FieldProperty

/-- The same for a field: its presence puts one more option around the value. -/
theorem wrapping_shape? {field : FieldProperty} (hinner : field.inner.SinglyNullable) :
    field.wrapping.shape? field.mutatorShape = some field.fieldShape := by
  have hwrapped := Property.wrapping_shape? hinner
  unfold wrapping mutatorShape fieldShape
  split
  · rw [Wrapping.shape?, hwrapped]
    rfl
  · exact hwrapped

end FieldProperty

/-! ## Values of absent keys -/

/-- A constant is a value of the type. -/
inductive DefaultValue.Fits : DefaultValue → TypeShape → Prop
  | bool (value) : Fits (.bool value) .bool
  | integer {value} (hvalue : Decode.IsSigned value) : Fits (.integer value) .integer
  | integerNumber {value} (hvalue : Decode.IsSigned value) : Fits (.integerNumber value) .number
  | floatNumber (value) : Fits (.floatNumber value) .number
  | text (value) : Fits (.text value) .string
  | list {items item} (hitems : ∀ value ∈ items, Fits value item) : Fits (.list items) (.list item)
  | map {entries item} (hentries : ∀ entry ∈ entries, Fits (Prod.snd entry) item) :
      Fits (.map entries) (.map item)
  | enumCase (path ident) : Fits (.enumCase path ident) (.named path)
  | absent (held) : Fits .absent (.optional held)
  | present {value held} (hvalue : Fits value held) : Fits (.present value) (.optional held)
  | json (value) : Fits (.json value) .json

omit [Spelling] in
theorem ScalarKind.fits_of_defaultValue? {kind : ScalarKind} {literal : Json}
    {value : DefaultValue} (hvalue : kind.defaultValue? literal = some value) :
    value.Fits kind.shape := by
  cases kind with
  | bool =>
      obtain ⟨own, -, rfl⟩ := Option.map_eq_some_iff.mp hvalue
      exact .bool own
  | integer =>
      obtain ⟨own, hown, rfl⟩ := Option.map_eq_some_iff.mp hvalue
      obtain ⟨number, -, hsigned⟩ := Option.bind_eq_some_iff.mp hown
      exact .integer (JsonNumber.signed?_eq_some_iff.mp hsigned).2
  | number =>
      obtain ⟨own, -, rfl⟩ := Option.map_eq_some_iff.mp hvalue
      split
      · exact .integerNumber (JsonNumber.signed?_eq_some_iff.mp ‹_›).2
      · exact .floatNumber _
  | string =>
      obtain ⟨own, -, rfl⟩ := Option.map_eq_some_iff.mp hvalue
      exact .text own
  | dateTime => cases hvalue

/-- **A default fits** the type of its property. -/
theorem Property.Denotes.fits {property : Property} {literal : Json} {value : DefaultValue}
    (hvalue : property.Denotes literal value) (hproperty : property.SinglyNullable) :
    value.Fits property.fieldShape := by
  induction hvalue with
  | scalar hconstant => exact ScalarKind.fits_of_defaultValue? hconstant
  | list kind hitems hparts ih =>
      refine .list fun value hmember => ?_
      obtain ⟨part, hpart, hresult⟩ := Outcome.exists_of_mem_mapM_option hitems hmember
      exact ih part hpart value hresult (hproperty.within (.item .refl))
  | map kind hentries hparts ih =>
      refine .map fun entry hentry => ?_
      obtain ⟨member, hmember, hresult⟩ := Outcome.exists_of_mem_mapM_option hentries hentry
      obtain ⟨result, hown, rfl⟩ := Option.map_eq_some_iff.mp hresult
      exact ih member hmember result hown (hproperty.within (.item .refl))
  | reference path hcase => exact .enumCase path _
  | enumeration hcase => exact .enumCase _ _
  | unknown | mixed => exact .json _
  | absent inner =>
      -- a nullable property is typed, so what is held has a type under the option
      obtain ⟨stored, hstored⟩ := Option.isSome_iff_exists.mp (hproperty inner .refl).2
      rw [fieldShape, storageShape?, hstored]
      exact .absent stored
  | @present inner literal value hnull hinner ih =>
      obtain ⟨stored, hstored⟩ := Option.isSome_iff_exists.mp (hproperty inner .refl).2
      have hvalue := ih (hproperty.within (.nullable .refl))
      rw [fieldShape, hstored] at hvalue
      rw [fieldShape, storageShape?, hstored]
      exact .present hvalue

/-- The value of an absent key fits the type of the field. -/
theorem FieldProperty.fits_of_absentValue? {property : Property}
    (hproperty : property.SinglyNullable) {required : Bool} {default : Option Json}
    {nullableDefaults : Bool} {code : Code}
    (hcode : (decorate property required default nullableDefaults).absentValue? = some code) :
    ∃ value : DefaultValue, code = value.code ∧
      value.Fits (decorate property required default nullableDefaults).fieldShape := by
  have hinner : (decorate property required default nullableDefaults).inner.SinglyNullable :=
    singlyNullable_inner_decorate hproperty
  cases hfield : decorate property required default nullableDefaults with
  | required own =>
      rw [hfield] at hcode
      cases hcode
  | optional own ignored acceptsNull =>
      rw [hfield] at hcode
      obtain rfl := Option.some.inj hcode
      exact ⟨.absent, rfl, .absent _⟩
  | defaulted own value nullable acceptsNull =>
      obtain ⟨literal, hliteral⟩ := exists_of_decorate hfield
      rw [hfield] at hcode hinner
      obtain rfl := Option.some.inj hcode
      have hfits := (Property.denotes_of_defaultValue? hliteral).fits hinner
      cases nullable with
      | true => exact ⟨.present value, rfl, .present hfits⟩
      | false => exact ⟨value, rfl, hfits⟩

/-! ## Fields of a struct -/

/-- A field is given values of its type only: by its parameter, which mutators and the constructor
take, and when its key is absent.  The types of the parameter and of the field are what their
declarations are written with, so the first part is told of the tokens as well. -/
structure FieldUnit.StoresItsType (field : FieldUnit) : Prop where
  assigned : Token.wrappedShape? field.ident field.mutatorShape field.assign.tokens =
    some field.fieldShape
  written : Token.GivesType field.ident field.mutatorShape.code.tokens field.assign.tokens
    field.fieldShape.code.tokens
  absent : ∀ code ∈ field.absent, ∃ value : DefaultValue,
    code = value.code ∧ value.Fits field.fieldShape

/-- **Mutators and constructors type-check.**  Whatever a node is resolved to and whatever the
presence of the property, reading what is written around the parameter leads from the type of the
parameter to the type of the field, as data and as they are written. -/
theorem storesItsType_ofField {context : Context} {request : ClassRequest}
    {key suffix pointer : String} {node : Json} {property : Property}
    (hresult : resolveNode context request key suffix node pointer = .ok property)
    (required : Bool) (default : Option Json) (nullableDefaults : Bool) (ident : String) :
    (FieldUnit.ofField
      ⟨key, node, .decorate property required default nullableDefaults⟩ ident).StoresItsType := by
  have hproperty : property.SinglyNullable :=
    (singlyNullable_cases context request key).of_resolveNode hresult
  have hassigned := calc
    Token.wrappedShape? ident
        (FieldProperty.decorate property required default nullableDefaults).mutatorShape
        ((FieldProperty.decorate property required default nullableDefaults).wrapping.code
          (.word ident)).tokens
      = (FieldProperty.decorate property required default nullableDefaults).wrapping.shape?
          (FieldProperty.decorate property required default nullableDefaults).mutatorShape :=
        Token.wrappedShape?_code ident _ _
    _ = some (FieldProperty.decorate property required default nullableDefaults).fieldShape :=
        FieldProperty.wrapping_shape? (FieldProperty.singlyNullable_inner_decorate hproperty)
  exact ⟨hassigned, Token.givesType_of_wrappedShape? hassigned,
    fun code hcode => FieldProperty.fits_of_absentValue? hproperty hcode⟩

end

attribute [local instance] Spelling.plain

/-- A reference to the struct at hand, which may be `null`. -/
def linkedNode : Json := .object [("$ref", .string "#")]

/-- A struct that may be `null` and refers to itself. -/
def linkedRoot : Json :=
  .object [("type", .array [.string "object", .string "null"]),
    ("properties", .object [("next", linkedNode)])]

/-- A context in which the root is known to take part in a cycle. -/
def linkedContext : Context where
  options := {}
  lookup := ⟨linkedRoot, ⟨["crate"], "Root"⟩, [], [], ["#"]⟩

/-- The request for the root. -/
def linkedOwner : ClassRequest := ⟨linkedRoot, "Root", ["crate"], [], "#", 0⟩

/-- The parameter of a nullable, boxed reference is boxed inside its option. -/
theorem storesItsType_linked :
    ∃ property,
      resolveNode linkedContext linkedOwner "next" "" linkedNode "#/properties/next" =
          .ok property ∧
        property.viewShape = .optional (.named ⟨["crate"], "Root"⟩) ∧
        property.fieldShape = .optional (.boxed (.named ⟨["crate"], "Root"⟩)) ∧
        (FieldUnit.ofField ⟨"next", linkedNode, .decorate property true none false⟩
          "next").StoresItsType := by
  have hcheck : (resolveNode linkedContext linkedOwner "next" "" linkedNode
      "#/properties/next").toOption.any (fun property =>
        property.viewShape == .optional (.named ⟨["crate"], "Root"⟩) &&
          property.fieldShape == .optional (.boxed (.named ⟨["crate"], "Root"⟩))) = true := by
    decide +kernel
  obtain ⟨property, hresult, hshapes⟩ := Outcome.exists_ok_of_any hcheck
  obtain ⟨hview, hfield⟩ := Bool.and_eq_true_iff.mp hshapes
  exact ⟨property, hresult, eq_of_beq hview, eq_of_beq hfield,
    storesItsType_ofField hresult true none false "next"⟩

end SchemaTypes
