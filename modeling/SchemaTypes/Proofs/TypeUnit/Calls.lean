import SchemaTypes.Proofs.Outcome
import SchemaTypes.Proofs.Property.Calls
import SchemaTypes.TypeUnit.Assemble
import SchemaTypes.TypeUnit.Source

/-!
# What the fields and variants of a unit rely on

A type relies on others in three ways: its fields and variants are of their types, its expressions
call their functions, and its defaults name cases of enumerations.

* `TypeUnit.shapes`, `TypeUnit.expressions`: the types and the expressions of a unit.
* `FieldUnit.reads_expressions`, `VariantUnit.reads_expressions`: what is called.
* `Property.mem_relies_of_default`: whose cases are named.
-/

namespace SchemaTypes

/-! ## Parts of units -/

/-- The generated type that a type of a value is built from. -/
def TypeShape.path? : TypeShape → Option TypePath
  | .named path => some path
  | .boxed inner | .optional inner | .list inner | .map inner | .borrowed inner => inner.path?
  | .bool | .integer | .number | .string | .dateTime | .json => none

namespace FieldUnit

/-- The types of the field, of its parameter and of what its accessor hands out. -/
def shapes (field : FieldUnit) : List TypeShape :=
  [field.fieldShape, field.mutatorShape, field.accessorShape]

/-- All expressions of a field. -/
def expressions (field : FieldUnit) : List Code :=
  [field.accessorBody, field.decode, field.encode, field.clone, field.assign] ++
    field.assertion.toList ++ field.absent.toList

end FieldUnit

/-- All expressions of a variant. -/
def VariantUnit.expressions (variant : VariantUnit) : List Code :=
  [variant.condition, variant.decode, variant.encode]

namespace TypeUnit

/-- The fields of a struct. -/
def fields : TypeUnit → List FieldUnit
  | .struct unit => unit.fields
  | .enumeration _ | .union _ => []

/-- The variants of a union. -/
def variants : TypeUnit → List VariantUnit
  | .union unit => unit.allVariants
  | .struct _ | .enumeration _ => []

/-- The types of all fields and variants. -/
def shapes (unit : TypeUnit) : List TypeShape :=
  unit.fields.flatMap (·.shapes) ++ unit.variants.map (·.storage)

/-- The expressions of all fields and variants. -/
def expressions (unit : TypeUnit) : List Code :=
  unit.fields.flatMap (·.expressions) ++ unit.variants.flatMap (·.expressions)

end TypeUnit

/-! ## Types of values -/

variable [Spelling]

/-- A property relies on the type at a path, of whatever kind. -/
def Property.ReliesOn (property : Property) (path : TypePath) : Prop :=
  ∃ category, (path, category) ∈ property.relies

namespace Property

variable {property : Property} {path : TypePath}

theorem reliesOn_of_storageShape? : (property : Property) → {shape : TypeShape} →
    property.storageShape? = some shape → shape.path? = some path → property.ReliesOn path
  | .scalar kind, shape, hshape, hpath => by
      obtain rfl := Option.some.inj hshape
      cases kind <;> cases hpath
  | .collection _ container item, shape, hshape, hpath => by
      obtain rfl := Option.some.inj hshape
      -- the path of a list or a map is that of its items
      have hitem : (item.storageShape?.getD .json).path? = some path := by
        cases container <;> exact hpath
      cases hstored : item.storageShape? with
      | none =>
          rw [hstored] at hitem
          cases hitem
      | some inner =>
          rw [hstored] at hitem
          exact reliesOn_of_storageShape? item hstored hitem
  | .nestedObject request, shape, hshape, hpath | .intersection request, shape, hshape, hpath => by
      obtain rfl := Option.some.inj hshape
      obtain rfl := Option.some.inj hpath
      exact ⟨_, List.mem_singleton_self _⟩
  | .reference (.struct own boxed), shape, hshape, hpath => by
      have hsame : own = path := by
        cases boxed <;> obtain rfl := Option.some.inj hshape <;> exact Option.some.inj hpath
      exact hsame ▸ ⟨_, List.mem_singleton_self _⟩
  | .reference (.enumeration own definition), shape, hshape, hpath => by
      obtain rfl := Option.some.inj hshape
      obtain rfl := Option.some.inj hpath
      exact ⟨_, List.mem_singleton_self _⟩
  | .union own docs alternatives, shape, hshape, hpath => by
      obtain rfl := Option.some.inj hshape
      obtain rfl := Option.some.inj hpath
      exact ⟨_, List.mem_singleton_self _⟩
  | .enumeration target, shape, hshape, hpath => by
      obtain rfl := Option.some.inj hshape
      obtain rfl := Option.some.inj hpath
      exact ⟨_, List.mem_singleton_self _⟩
  | .dynamic entry branches, shape, hshape, hpath => by
      obtain rfl := Option.some.inj hshape
      obtain rfl := Option.some.inj hpath
      exact ⟨_, List.mem_singleton_self _⟩
  | .nullable inner, shape, hshape, hpath => by
      obtain ⟨stored, hstored, rfl⟩ := Option.map_eq_some_iff.mp hshape
      exact reliesOn_of_storageShape? inner hstored hpath

theorem reliesOn_of_fieldShape (hpath : property.fieldShape.path? = some path) :
    property.ReliesOn path := by
  cases hstored : property.storageShape? with
  | none =>
      rw [fieldShape, hstored] at hpath
      cases hpath
  | some shape =>
      rw [fieldShape, hstored] at hpath
      exact reliesOn_of_storageShape? property hstored hpath

theorem reliesOn_of_viewShape : (property : Property) →
    property.viewShape.path? = some path → property.ReliesOn path
  | .reference (.struct _ _), hpath | .reference (.enumeration _ _), hpath => by
      obtain rfl := Option.some.inj hpath
      exact ⟨_, List.mem_singleton_self _⟩
  | .nullable inner, hpath => reliesOn_of_viewShape inner hpath
  | .scalar _, hpath | .collection _ _ _, hpath | .nestedObject _, hpath | .intersection _, hpath
  | .union _ _ _, hpath | .enumeration _, hpath | .dynamic _ _, hpath | .mixed, hpath =>
      reliesOn_of_fieldShape hpath

theorem reliesOn_of_optionalAccessor {inner : Property} {field : Place}
    (hpath : (inner.optionalAccessor field).1.path? = some path) : inner.ReliesOn path := by
  unfold optionalAccessor at hpath
  split at hpath
  · exact reliesOn_of_fieldShape hpath
  · split at hpath
    · exact reliesOn_of_viewShape inner hpath
    · exact reliesOn_of_fieldShape hpath

theorem reliesOn_of_accessor {field : Place}
    (hpath : (property.accessor field).1.path? = some path) : property.ReliesOn path := by
  unfold accessor at hpath
  split at hpath
  · have hinner := reliesOn_of_optionalAccessor hpath
    exact hinner
  · split at hpath
    · exact reliesOn_of_fieldShape hpath
    · exact reliesOn_of_viewShape property hpath

/-! ## Defaults -/

end Property

mutual

/-- The enumerations whose cases a default names. -/
def DefaultValue.enumerations : DefaultValue → List TypePath
  | .enumCase path _ => [path]
  | .present value => value.enumerations
  | .list items => itemEnumerations items
  | .map entries => entryEnumerations entries
  | .bool _ => []
  | .integer _ => []
  | .integerNumber _ => []
  | .floatNumber _ => []
  | .text _ => []
  | .absent => []
  | .json _ => []

/-- The enums whose cases occur in items. -/
def itemEnumerations : List DefaultValue → List TypePath
  | [] => []
  | item :: rest => item.enumerations ++ itemEnumerations rest

/-- The enums whose cases occur in the values of entries. -/
def entryEnumerations : List (String × DefaultValue) → List TypePath
  | [] => []
  | (_, value) :: rest => value.enumerations ++ entryEnumerations rest

end

omit [Spelling] in
theorem mem_itemEnumerations {items : List DefaultValue} {path : TypePath} :
    path ∈ itemEnumerations items ↔ ∃ item ∈ items, path ∈ item.enumerations := by
  induction items with
  | nil => simp [itemEnumerations]
  | cons item rest ih => simp [itemEnumerations, ih]

omit [Spelling] in
theorem mem_entryEnumerations {entries : List (String × DefaultValue)} {path : TypePath} :
    path ∈ entryEnumerations entries ↔ ∃ entry ∈ entries, path ∈ entry.2.enumerations := by
  induction entries with
  | nil => simp [entryEnumerations]
  | cons entry rest ih => simp [entryEnumerations, ih]

namespace Property

variable {path : TypePath}

omit [Spelling] in
theorem enumerations_of_scalarDefault {kind : ScalarKind} {literal : Json} {value : DefaultValue}
    (hvalue : kind.defaultValue? literal = some value) : value.enumerations = [] := by
  cases kind with
  | bool | integer | string =>
      obtain ⟨own, -, rfl⟩ := Option.map_eq_some_iff.mp hvalue
      rw [DefaultValue.enumerations]
  | number =>
      obtain ⟨number, -, rfl⟩ := Option.map_eq_some_iff.mp hvalue
      split <;> rw [DefaultValue.enumerations]
  | dateTime => cases hvalue

/-- Defaults name cases of the enumerations that the property relies on. -/
theorem mem_relies_of_default : (property : Property) → {literal : Json} → {value : DefaultValue} →
    property.defaultValue? literal = some value → path ∈ value.enumerations →
      (path, .enumeration) ∈ property.relies
  | .scalar kind, literal, value, hvalue, hpath => by
      rw [enumerations_of_scalarDefault hvalue] at hpath
      cases hpath
  -- a collection has a default only if its items are scalars or references
  | .collection .primitive container item, literal, value, hvalue, hpath
  | .collection .reference container item, literal, value, hvalue, hpath => by
      cases container with
      | list =>
          cases literal with
          | array items =>
              obtain ⟨values, hvalues, rfl⟩ := Option.map_eq_some_iff.mp hvalue
              rw [DefaultValue.enumerations] at hpath
              obtain ⟨own, hown, hpath⟩ := mem_itemEnumerations.mp hpath
              obtain ⟨part, -, hpart⟩ := Outcome.exists_of_mem_mapM_option hvalues hown
              exact mem_relies_of_default item hpart hpath
          | _ => cases hvalue
      | map =>
          cases literal with
          | object members =>
              obtain ⟨values, hvalues, rfl⟩ := Option.map_eq_some_iff.mp hvalue
              rw [DefaultValue.enumerations] at hpath
              obtain ⟨own, hown, hpath⟩ := mem_entryEnumerations.mp hpath
              obtain ⟨part, -, hpart⟩ := Outcome.exists_of_mem_mapM_option hvalues hown
              obtain ⟨held, hheld, rfl⟩ := Option.map_eq_some_iff.mp hpart
              exact mem_relies_of_default item hheld hpath
          | _ => cases hvalue
  | .reference (.enumeration own definition), literal, value, hvalue, hpath => by
      obtain ⟨case, -, rfl⟩ := Option.map_eq_some_iff.mp hvalue
      rw [DefaultValue.enumerations, List.mem_singleton] at hpath
      exact hpath ▸ List.mem_singleton_self _
  | .reference (.unknown pointer), literal, value, hvalue, hpath => by
      obtain rfl := Option.some.inj hvalue
      rw [DefaultValue.enumerations] at hpath
      cases hpath
  | .enumeration target, literal, value, hvalue, hpath => by
      obtain ⟨case, -, rfl⟩ := Option.map_eq_some_iff.mp hvalue
      rw [DefaultValue.enumerations, List.mem_singleton] at hpath
      exact hpath ▸ List.mem_singleton_self _
  | .nullable inner, literal, value, hvalue, hpath => by
      rw [defaultValue?] at hvalue
      split at hvalue
      · obtain rfl := Option.some.inj hvalue
        rw [DefaultValue.enumerations] at hpath
        cases hpath
      · obtain ⟨held, hheld, rfl⟩ := Option.map_eq_some_iff.mp hvalue
        rw [DefaultValue.enumerations] at hpath
        exact mem_relies_of_default inner hheld hpath
  | .mixed, literal, value, hvalue, hpath => by
      obtain rfl := Option.some.inj hvalue
      rw [DefaultValue.enumerations] at hpath
      cases hpath

end Property

/-! ## Fields and variants -/

namespace FieldProperty

/-- The enumerations whose cases the default of a field names. -/
def enumerations : FieldProperty → List TypePath
  | .defaulted _ default _ _ => default.enumerations
  | .required _ => []
  | .optional _ _ _ => []

omit [Spelling] in
/-- A default that counts is one of the property. -/
theorem exists_of_decorate {property inner : Property} {required : Bool} {default : Option Json}
    {nullableDefaults nullable acceptsNull : Bool} {value : DefaultValue}
    (hsame : decorate property required default nullableDefaults =
      .defaulted inner value nullable acceptsNull) :
    ∃ literal, inner.defaultValue? literal = some value := by
  unfold decorate at hsame
  split at hsame
  · cases hsame
  · dsimp only at hsame
    split at hsame
    · cases hsame
    · split at hsame
      · rename_i hvalue
        cases hsame
        exact ⟨_, hvalue⟩
      · cases hsame

theorem mem_relies_of_decorate {field : FieldProperty} {property : Property} {required : Bool}
    {default : Option Json} {nullableDefaults : Bool}
    (hfield : decorate property required default nullableDefaults = field) {path : TypePath}
    (hpath : path ∈ field.enumerations) : (path, .enumeration) ∈ field.inner.relies := by
  cases field with
  | required | optional => cases hpath
  | defaulted inner value nullable acceptsNull =>
      obtain ⟨literal, hvalue⟩ := exists_of_decorate hfield
      exact inner.mem_relies_of_default hvalue hpath

end FieldProperty

namespace FieldUnit

variable {field : ResolvedField} {ident : String}

/-- What a field is made of relies on what its property relies on. -/
theorem reliesOn_of_shape {shape : TypeShape} (hshape : shape ∈ (ofField field ident).shapes)
    {path : TypePath} (hpath : shape.path? = some path) :
    field.property.inner.ReliesOn path := by
  have hcases : shape = field.property.fieldShape ∨ shape = field.property.mutatorShape ∨
      shape = (field.property.accessor (.field ident)).1 := by
    simpa [shapes, ofField] using hshape
  rcases hcases with rfl | rfl | rfl
  · unfold FieldProperty.fieldShape at hpath
    split at hpath <;> exact Property.reliesOn_of_fieldShape hpath
  · exact Property.reliesOn_of_viewShape _ hpath
  · unfold FieldProperty.accessor at hpath
    split at hpath
    · exact Property.reliesOn_of_optionalAccessor hpath
    · exact Property.reliesOn_of_accessor hpath

theorem reads_decode (field : ResolvedField) (ident : String) :
    (ofField field ident).decode.Reads (decodingCalls field.property.inner.relies) :=
  field.property.reads_inputMapping (field.property.reads_rawInput field.key)

theorem reads_clone (field : ResolvedField) (ident : String) :
    (ofField field ident).clone.Reads [] := by
  have hclone : (ofField field ident).clone =
      (field.property.cloneExpression? (.place (.field ident))).getD (Place.field ident).code := rfl
  rw [hclone]
  cases hexpression : field.property.cloneExpression? (.place (.field ident)) with
  | none => exact (Place.field ident).reads_code
  | some code => exact FieldProperty.reads_cloneExpression hexpression

/-- **The expressions of a field** call what decodes its property, and none of the functions
otherwise. -/
theorem reads_expressions {code : Code} (hcode : code ∈ (ofField field ident).expressions) :
    code.Reads (decodingCalls field.property.inner.relies) ∨ code.Reads [] := by
  have hcases : code = (field.property.accessor (.field ident)).2 ∨
      code = (ofField field ident).decode ∨
      code = field.property.encodeStatement (.word "output") field.key
        (.borrowed (.field ident)) ∨
      code = (ofField field ident).clone ∨
      code = field.property.wrapping.code (Place.variable ident).code ∨
      field.property.assertion? (.borrowed (.variable ident)) field.key = some code ∨
      field.property.absentValue? = some code := by
    simpa [expressions, ofField, or_assoc] using hcode
  rcases hcases with rfl | rfl | rfl | rfl | rfl | hassertion | habsent
  · exact .inr (field.property.reads_accessor _)
  · exact .inl (reads_decode field ident)
  · exact .inr (field.property.reads_encodeStatement _ _)
  · exact .inr (reads_clone field ident)
  · exact .inr (Wrapping.reads_code _ (Place.reads_code _))
  · exact .inr (Property.reads_assertion hassertion)
  · exact .inr (FieldProperty.reads_absentValue habsent)

end FieldUnit

namespace VariantUnit

/-- The expressions of a variant call what tests and decodes its property, and none of the functions
otherwise. -/
theorem reads_expressions {ident : String} {property : Property} {condition code : Code}
    (hcondition : condition.Reads [] ∨ condition = property.inputAssertion (.word "input"))
    (hcode : code ∈ (ofProperty ident property condition).expressions) :
    code.Reads (decodingCalls property.relies) ∨ code.Reads (testingCalls property.relies) ∨
      code.Reads [] := by
  have hinput := Code.reads_word "input"
  have hcases : code = condition ∨ code = property.inputMapping (.word "input") ∨
      code = property.outputMapping .value := by
    simpa [expressions, ofProperty] using hcode
  rcases hcases with rfl | rfl | rfl
  · rcases hcondition with hquiet | rfl
    · exact .inr (.inr hquiet)
    · exact .inr (.inl (property.reads_inputAssertion hinput))
  · exact .inl (property.reads_inputMapping hinput)
  · exact .inr (.inr (property.reads_outputMapping .value))

end VariantUnit

end SchemaTypes
