import SchemaTypes.Proofs.Property.Resolution

/-!
# `null` is added once

Null comes from several places: a list of types, the literals of an enumeration, an alternative, the
target of a reference, and the absence of a key.  Wherever it is added, it must not be there yet: an
option inside an option would tell two kinds of absence apart, and every expression over the value
would be of the wrong type.

* `Property.SinglyNullable`: what is nullable is so once, and has a type of its own.
* `Property.SinglyNullable.orNull`: adding `null` keeps this.  It is the only step that could break
  it, since nothing else makes a property nullable.
* `Property.SinglyNullable.fieldShape`: such properties have no option inside an option.
* `singlyNullable_resolveNode`: all resolved properties are such, and so are their fields, whatever
  their presence.
-/

namespace SchemaTypes

open Outcome Resolve

/-! ## Options inside types -/

namespace TypeShape

/-- A type is another one, or is written inside it. -/
inductive Within (inner : TypeShape) : TypeShape → Prop
  | refl : Within inner inner
  | boxed {shape} (hinner : Within inner shape) : Within inner (.boxed shape)
  | optional {shape} (hinner : Within inner shape) : Within inner (.optional shape)
  | list {shape} (hinner : Within inner shape) : Within inner (.list shape)
  | map {shape} (hinner : Within inner shape) : Within inner (.map shape)
  | borrowed {shape} (hinner : Within inner shape) : Within inner (.borrowed shape)

/-- Whether a type is an option. -/
def isOption : TypeShape → Bool
  | .optional _ => true
  | _ => false

/-- Nowhere inside the type does an option hold an option. -/
def SinglyOptional (shape : TypeShape) : Prop :=
  ∀ inner, ¬(TypeShape.optional (.optional inner)).Within shape

variable {shape : TypeShape}

theorem singlyOptional_json : json.SinglyOptional := nofun

theorem singlyOptional_named (path : TypePath) : (named path).SinglyOptional := nofun

theorem SinglyOptional.boxed (hshape : shape.SinglyOptional) : (boxed shape).SinglyOptional := by
  intro inner hwithin
  cases hwithin with
  | boxed hinner => exact hshape inner hinner

theorem SinglyOptional.optional (hshape : shape.SinglyOptional) (honce : shape.isOption = false) :
    (optional shape).SinglyOptional := by
  intro inner hwithin
  cases hwithin with
  | refl => cases honce
  | optional hinner => exact hshape inner hinner

end TypeShape

theorem ScalarKind.singlyOptional_shape (kind : ScalarKind) : kind.shape.SinglyOptional := by
  intro inner hwithin
  cases kind <;> cases hwithin

theorem Container.singlyOptional_shape (container : Container) {item : TypeShape}
    (hitem : item.SinglyOptional) : (container.shape item).SinglyOptional := by
  intro inner hwithin
  cases container with
  | list =>
      cases hwithin with
      | list hinner => exact hitem inner hinner
  | map =>
      cases hwithin with
      | map hinner => exact hitem inner hinner

theorem ReferencedType.singlyOptional_storageShape? {target : ReferencedType} {shape : TypeShape}
    (hshape : target.storageShape? = some shape) :
    shape.SinglyOptional ∧ shape.isOption = false := by
  cases target with
  | struct path boxed =>
      cases boxed with
      | true =>
          obtain rfl := Option.some.inj hshape
          exact ⟨(TypeShape.singlyOptional_named path).boxed, rfl⟩
      | false =>
          obtain rfl := Option.some.inj hshape
          exact ⟨TypeShape.singlyOptional_named path, rfl⟩
  | enumeration path definition =>
      obtain rfl := Option.some.inj hshape
      exact ⟨TypeShape.singlyOptional_named path, rfl⟩
  | unknown pointer => cases hshape

/-! ## Properties that are nullable once -/

section

variable [Spelling]

namespace Property

/-- A property is another one, or a part of it at any depth: an item, an alternative, a branch, or
what is nullable. -/
inductive Within (inner : Property) : Property → Prop
  | refl : Within inner inner
  | item {kind container item} (hinner : Within inner item) :
      Within inner (.collection kind container item)
  | alternative {path docs alternatives} {alternative : Alternative Property}
      (hmember : alternative ∈ alternatives) (hinner : Within inner alternative.property) :
      Within inner (.union path docs alternatives)
  | branch {entry branches} {branch : Branch Property} (hmember : branch ∈ branches)
      (hinner : Within inner branch.property) : Within inner (.dynamic entry branches)
  | nullable {property} (hinner : Within inner property) : Within inner (.nullable property)

/-- Whatever is nullable inside the property is so once, and has a type more precise than JSON. -/
def SinglyNullable (property : Property) : Prop :=
  ∀ inner, (Property.nullable inner).Within property →
    inner.isNullable = false ∧ inner.storageShape?.isSome

variable {property : Property}

omit [Spelling] in
theorem Within.trans {inner part : Property} (hinner : inner.Within part)
    (hpart : part.Within property) : inner.Within property := by
  induction hpart with
  | refl => exact hinner
  | item hpart ih => exact .item ih
  | alternative hmember hpart ih => exact .alternative hmember ih
  | branch hmember hpart ih => exact .branch hmember ih
  | nullable hpart ih => exact .nullable ih

/-- The values are untyped if there is no type to hold them in. -/
theorem isUntyped_eq : (property : Property) → property.isUntyped = property.storageShape?.isNone
  | .nullable inner => by
      rw [isUntyped, isUntyped_eq inner, storageShape?, Option.isNone_map]
  | .reference (.struct path true) | .reference (.struct path false)
  | .reference (.enumeration path definition) | .reference (.unknown pointer)
  | .scalar kind | .collection kind container item | .nestedObject request
  | .intersection request | .union path docs alternatives | .enumeration target
  | .dynamic entry branches | .mixed => rfl

namespace SinglyNullable

theorem within {part : Property} (hproperty : property.SinglyNullable)
    (hpart : part.Within property) : part.SinglyNullable :=
  fun inner hinner => hproperty inner (hinner.trans hpart)

theorem item {kind : CollectionKind} {container : Container} {item : Property}
    (hitem : item.SinglyNullable) : (collection kind container item).SinglyNullable := by
  intro inner hwithin
  cases hwithin with
  | item hinner => exact hitem inner hinner

theorem union {path : TypePath} {docs : Documentation} {alternatives : List (Alternative Property)}
    (halternatives : ∀ alternative ∈ alternatives, alternative.property.SinglyNullable) :
    (union path docs alternatives).SinglyNullable := by
  intro inner hwithin
  cases hwithin with
  | alternative hmember hinner => exact halternatives _ hmember inner hinner

theorem dynamic {entry : TypePath} {branches : List (Branch Property)}
    (hbranches : ∀ branch ∈ branches, branch.property.SinglyNullable) :
    (dynamic entry branches).SinglyNullable := by
  intro inner hwithin
  cases hwithin with
  | branch hmember hinner => exact hbranches _ hmember inner hinner

theorem scalar (kind : ScalarKind) : (scalar kind).SinglyNullable := nofun

theorem mixed : mixed.SinglyNullable := nofun

theorem reference (target : ReferencedType) : (reference target).SinglyNullable :=
  nofun

/-- **Adding `null`** to a property that has it already, or whose values are untyped, does
nothing. -/
theorem orNull (hproperty : property.SinglyNullable) : property.orNull.SinglyNullable := by
  unfold Property.orNull
  split
  · exact hproperty
  · rename_i hplain
    rw [Bool.or_eq_true, not_or, Bool.not_eq_true, Bool.not_eq_true, isUntyped_eq] at hplain
    intro inner hwithin
    cases hwithin with
    | refl => exact ⟨hplain.1, by simpa using hplain.2⟩
    | nullable hinner => exact hproperty inner hinner

/-- The type in which a value is held has no option inside an option, and is an option only if the
property is nullable. -/
theorem storageShape? : {property : Property} → property.SinglyNullable → {shape : TypeShape} →
    property.storageShape? = some shape →
      shape.SinglyOptional ∧ (property.isNullable = false → shape.isOption = false)
  | .scalar kind, _, shape, hshape => by
      obtain rfl := Option.some.inj hshape
      refine ⟨kind.singlyOptional_shape, fun _ => ?_⟩
      cases kind <;> rfl
  | .collection kind container item, hproperty, shape, hshape => by
      obtain rfl := Option.some.inj hshape
      refine ⟨container.singlyOptional_shape ?_, fun _ => ?_⟩
      · cases hstored : item.storageShape? with
        | none => exact TypeShape.singlyOptional_json
        | some stored => exact (storageShape? (hproperty.within (.item .refl)) hstored).1
      · cases container <;> rfl
  | .reference target, _, shape, hshape =>
      (ReferencedType.singlyOptional_storageShape? hshape).imp_right fun hplain _ => hplain
  | .nestedObject _, _, shape, hshape | .intersection _, _, shape, hshape
  | .union _ _ _, _, shape, hshape | .enumeration _, _, shape, hshape => by
      obtain rfl := Option.some.inj hshape
      exact ⟨TypeShape.singlyOptional_named _, fun _ => rfl⟩
  | .dynamic entry branches, _, shape, hshape => by
      obtain rfl := Option.some.inj hshape
      exact ⟨Container.map.singlyOptional_shape (TypeShape.singlyOptional_named entry),
        fun _ => rfl⟩
  | .nullable inner, hproperty, shape, hshape => by
      -- what is inside is not nullable, so there is no option inside the option
      obtain ⟨stored, hstored, rfl⟩ := Option.map_eq_some_iff.mp hshape
      obtain ⟨hinner, hplain⟩ := storageShape? (hproperty.within (.nullable .refl)) hstored
      exact ⟨hinner.optional (hplain (hproperty inner .refl).1), nofun⟩

/-- **One option.**  The type of a field has no option inside an option. -/
theorem fieldShape (hproperty : property.SinglyNullable) :
    property.fieldShape.SinglyOptional ∧
      (property.isNullable = false → property.fieldShape.isOption = false) := by
  unfold Property.fieldShape
  cases hstored : property.storageShape? with
  | none => exact ⟨TypeShape.singlyOptional_json, fun _ => rfl⟩
  | some stored => exact hproperty.storageShape? hstored

end SinglyNullable

end Property

/-! ## Resolved properties -/

section

variable {context : Context} {node : Json}

theorem singlyNullable_referenceProperty (context : Context) (node : Json) :
    (referenceProperty context node).SinglyNullable := by
  unfold referenceProperty
  split
  · exact .reference _
  · split
    · split
      · -- the items of a collection of references may be nullable, too
        refine .item ?_
        split
        · exact (Property.SinglyNullable.reference _).orNull
        · exact .reference _
      · exact .mixed
    · exact .mixed

theorem singlyNullable_unionProperty {path : TypePath} {docs : Documentation}
    {alternatives : List (Alternative Property)}
    (halternatives : ∀ alternative ∈ alternatives, alternative.property.SinglyNullable) :
    (unionProperty path docs alternatives).SinglyNullable := by
  unfold unionProperty
  split
  · exact .mixed
  · split
    · exact .scalar _
    · exact .union halternatives

/-- Every step of resolution keeps properties nullable once. -/
theorem singlyNullable_cases (context : Context) (request : ClassRequest) (key : String) :
    ResolutionCases context request key fun _ property => property.SinglyNullable where
  null node property hproperty := by
    unfold withNull
    split
    · exact hproperty.orNull
    · exact hproperty
  reference node _ := singlyNullable_referenceProperty context node
  intersection _ _ _ _ _ _ := nofun
  union _ _ alternatives _ halternatives :=
    singlyNullable_unionProperty fun alternative hmember =>
      (halternatives alternative hmember).elim fun _ hpart => hpart.2
  enumeration _ _ _ _ _ := nofun
  scalar _ kind := .scalar kind
  collection _ _ _ _ _ _ _ hitem := .item hitem
  nestedObject _ _ _ _ := nofun
  dynamic _ _ branches _ hbranches :=
    .dynamic fun branch hmember => (hbranches branch hmember).elim
      (fun ⟨_, _, hproperty⟩ => hproperty) fun ⟨_, _, hproperty⟩ => hproperty
  mixed _ := .mixed

/-- Before `null` is added, no property is nullable. -/
theorem isNullable_of_resolutionStep {request : ClassRequest} {key suffix pointer : String}
    {property : Property}
    (hstep : ResolutionStep context request key suffix node pointer property) :
    property.isNullable = false := by
  cases hstep with
  | reference hkind =>
      unfold referenceProperty
      split
      · rfl
      · split
        · split <;> rfl
        · rfl
  | union hkind halternatives =>
      unfold unionProperty
      split
      · rfl
      · split <;> rfl
  | intersection | enumeration | dateTime | string | primitive | collection | nestedObject
  | dynamic | mixed => rfl

end

/-! ## Fields -/

/-- The property inside a field that may be absent. -/
def FieldProperty.absentable? : FieldProperty → Option Property
  | .required _ => none
  | .optional inner _ _ | .defaulted inner _ _ _ => some inner

/-- A field to which absence adds no second option. -/
structure FieldProperty.SinglyOptional (field : FieldProperty) : Prop where
  /-- What may be absent is not nullable as well. -/
  inner : ∀ inner ∈ field.absentable?, inner.isNullable = false
  fieldShape : field.fieldShape.SinglyOptional

namespace FieldProperty

variable {property : Property} {required : Bool} {default : Option Json} {nullableDefaults : Bool}

omit [Spelling] in
/-- A field that may be absent takes the place of `null`, if its property has it. -/
theorem absentable?_decorate {inner : Property}
    (hinner : inner ∈ (decorate property required default nullableDefaults).absentable?) :
    property = .nullable inner ∨ property = inner ∧ property.isNullable = false := by
  unfold decorate at hinner
  cases required with
  | true => cases hinner
  | false =>
      cases property with
      | nullable own =>
          left
          dsimp only at hinner
          rw [if_neg (by simp)] at hinner
          split at hinner
          · rw [Option.some.inj hinner]
          · split at hinner <;> rw [Option.some.inj hinner]
      | _ =>
          right
          refine ⟨?_, rfl⟩
          dsimp only at hinner
          rw [if_neg (by simp)] at hinner
          split at hinner
          · exact Option.some.inj hinner
          · split at hinner <;> exact Option.some.inj hinner

omit [Spelling] in
theorem absentable?_of_isOptional {field : FieldProperty} (hoptional : field.isOptional = true) :
    field.inner ∈ field.absentable? := by
  cases field with
  | required own => cases hoptional
  | optional | defaulted => rfl

/-- A property is nullable once whether or not its `null` has become absence. -/
theorem singlyNullable_inner_decorate (hproperty : property.SinglyNullable) :
    (decorate property required default nullableDefaults).inner.SinglyNullable := by
  rcases inner_decorate property required default nullableDefaults with hsame | hsame
  · rwa [← hsame]
  · rw [hsame] at hproperty
    exact hproperty.within (.nullable .refl)

theorem singlyOptional_decorate (hproperty : property.SinglyNullable) :
    (decorate property required default nullableDefaults).SinglyOptional := by
  have hinner : ∀ inner ∈ (decorate property required default nullableDefaults).absentable?,
      inner.isNullable = false := by
    intro inner hmember
    rcases absentable?_decorate hmember with hnullable | ⟨hsame, hplain⟩
    · subst hnullable
      exact (hproperty inner .refl).1
    · rwa [← hsame]
  refine ⟨hinner, ?_⟩
  have hown : (decorate property required default nullableDefaults).inner.SinglyNullable :=
    singlyNullable_inner_decorate hproperty
  have hshape := hown.fieldShape
  unfold fieldShape
  split
  · rename_i hoptional
    exact hshape.1.optional (hshape.2 (hinner _ (absentable?_of_isOptional hoptional)))
  · exact hshape.1

end FieldProperty

/-- **Nullability is never doubled.**  What a node is resolved to is nullable if the node accepts
`null` and its values have a type.  Whatever is nullable at any depth is so once and has a type, so
no part and no field, whatever its presence and its default, is of a type with an option inside an
option. -/
theorem singlyNullable_resolveNode {context : Context} {request : ClassRequest}
    {key suffix pointer : String} {node : Json} {property : Property}
    (hresult : resolveNode context request key suffix node pointer = .ok property) :
    (property.isNullable = true ↔
        context.lookup.acceptsNull node = true ∧ property.storageShape?.isSome) ∧
      property.SinglyNullable ∧
      (∀ part : Property, part.Within property → part.fieldShape.SinglyOptional) ∧
      ∀ required default nullableDefaults,
        (FieldProperty.decorate property required default nullableDefaults).SinglyOptional := by
  have hproperty : property.SinglyNullable :=
    (singlyNullable_cases context request key).of_resolveNode hresult
  refine ⟨?_, hproperty, fun part hpart => (hproperty.within hpart).fieldShape.1,
    fun _ _ _ => FieldProperty.singlyOptional_decorate hproperty⟩
  obtain ⟨own, hstep, rfl⟩ := resolutionStep_of_resolveNode hresult
  have hplain := isNullable_of_resolutionStep hstep
  unfold withNull Property.orNull
  rw [hplain, Bool.false_or, Property.isUntyped_eq]
  by_cases haccepts : context.lookup.acceptsNull node
  · rw [if_pos haccepts]
    cases hstored : own.storageShape? with
    | none => simp [hplain, hstored]
    | some stored => simp [Property.isNullable, Property.storageShape?, haccepts, hstored]
  · simp [haccepts, hplain]

end

attribute [local instance] Spelling.plain

/-- A list that may be `null`, of items that may be a text, one of two literals, or `null`. -/
def nestedNulls : Json :=
  .object [
    ("type", .array [.string "array", .string "null"]),
    ("items", .object [("oneOf", .array [
      .object [("type", .string "string")],
      .object [("enum", .array [.string "x", .null])],
      .object [("type", .string "null")]])])]

/-- A context without definitions, for a node that refers to nothing. -/
def nestedNullsContext : Context where
  options := {}
  lookup := ⟨.object [], ⟨[], "Root"⟩, [], [], []⟩

/-- The struct that has the list as a property. -/
def nestedNullsOwner : ClassRequest where
  schema := .object [("properties", .object [("p", nestedNulls)])]
  typeName := "Root"
  moduleRoot := ["crate"]
  «namespace» := []
  pointer := "#"
  depth := 0

theorem singlyNullable_nestedNulls :
    ∃ property,
      resolveNode nestedNullsContext nestedNullsOwner "p" "" nestedNulls "#/properties/p" =
          .ok property ∧
        property.fieldShape = .optional (.list (.optional (.named ⟨["crate"], "RootPItem"⟩))) ∧
        property.SinglyNullable ∧
        (FieldProperty.decorate property false none false).SinglyOptional := by
  have hcheck : (resolveNode nestedNullsContext nestedNullsOwner "p" "" nestedNulls
      "#/properties/p").toOption.any (fun property => property.fieldShape ==
        .optional (.list (.optional (.named ⟨["crate"], "RootPItem"⟩)))) = true := by
    decide +kernel
  obtain ⟨property, hresult, hshape⟩ := exists_ok_of_any hcheck
  obtain ⟨-, hnullable, -, hfields⟩ := singlyNullable_resolveNode hresult
  exact ⟨property, hresult, eq_of_beq hshape, hnullable, hfields false none false⟩

end SchemaTypes
