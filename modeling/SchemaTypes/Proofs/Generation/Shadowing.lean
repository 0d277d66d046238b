import SchemaTypes.Proofs.Generation.Closure
import SchemaTypes.Proofs.Generation.Hooks
import SchemaTypes.Proofs.TypeUnit.Scope

/-!
# Which generated types shadow what generated code looks up

A type takes the place of whatever has its name otherwise in the module that it lies in.  All
generated code looks up a few names of the standard library, next to names of its own, and one of
them is left to types.

* `TypeUnit.declared`, `Emission.Owns`: the names that the code of a type has of its own.
* `Emission.scoped_code`: what generated code looks up.
* `typeNameBy_mem_reliedNames_iff`: which names of types are among it.
-/

namespace SchemaTypes

open Code

/-! ## Names of a type's own -/

/-- The names that the code of a type declares: itself, its fields, cases or variants, and one more
name that all types of its kind have. -/
def TypeUnit.declared : TypeUnit → List String
  | .struct unit => unit.name :: "SCHEMA" :: unit.fields.map (·.ident)
  | .enumeration unit => unit.name :: "ALL" :: unit.definition.cases.map (·.ident)
  | .union unit => unit.name :: "Unmatched" :: unit.allVariants.map (·.ident)

namespace Emission

/-- A name that the code of a type has of its own: it is declared there, or starts the path of a
type that is relied on. -/
inductive Owns [Spelling] (generator : Generator) (emission : Emission) : (name : String) → Prop
  | declared {name : String} (hname : name ∈ (emission.unit generator).declared) :
      emission.Owns generator name
  | relied {property : Property} {path : TypePath} (hproperty : property ∈ emission.properties)
      (hpath : property.ReliesOn path) : emission.Owns generator path.head
  /-- The default of a field names a case of an enumeration. -/
  | default {request : ClassRequest} {fields : List ResolvedField} {field : ResolvedField}
      {path : TypePath} (hemission : emission = .struct request fields) (hfield : field ∈ fields)
      (hpath : path ∈ field.property.enumerations) : emission.Owns generator path.head

variable (generator : Generator)

/-- **What generated code looks up.**  Without hooks, the code of a type looks up common names and
names of its own. -/
theorem scoped_code [Spelling] (emission : Emission) :
    (emission.unit generator.withoutHooks).code.Scoped (emission.Owns generator.withoutHooks) := by
  have hdeclared : ∀ {name}, name ∈ (emission.unit generator.withoutHooks).declared →
      Known (emission.Owns generator.withoutHooks) name := fun hname => .own (.declared hname)
  have hheads : ∀ property ∈ emission.properties, ∀ path, property.ReliesOn path →
      Known (emission.Owns generator.withoutHooks) path.head :=
    fun property hproperty path hpath => .own (.relied hproperty hpath)
  -- a unit declares its own name and those inside it; its properties rely on the others
  cases emission with
  | struct request fields =>
      refine StructUnit.scoped_code (fun field hfield => ?_) (hdeclared List.mem_cons_self)
        (hdeclared (List.mem_cons_of_mem _ List.mem_cons_self)) rfl
      have hown : field ∈ ((Emission.struct request fields).unit generator.withoutHooks).fields :=
        hfield
      obtain ⟨_, _, ⟨⟩, resolved, hresolved, ident, rfl⟩ := exists_field hown
      refine FieldUnit.scoped_ofField (hdeclared ?_) (hheads _ (mem_properties hresolved))
        fun path hpath => .own (.default rfl hresolved hpath)
      exact List.mem_cons_of_mem _ (List.mem_cons_of_mem _ (List.mem_map_of_mem hfield))
  | enumeration target =>
      refine EnumUnit.scoped_code (hdeclared List.mem_cons_self) rfl
        (hdeclared (List.mem_cons_of_mem _ List.mem_cons_self)) fun case hcase => hdeclared ?_
      exact List.mem_cons_of_mem _ (List.mem_cons_of_mem _ (List.mem_map_of_mem hcase))
  | union path docs alternatives =>
      refine UnionUnit.scoped_code (fun variant hvariant => ?_) (hdeclared List.mem_cons_self) rfl
        (hdeclared (List.mem_cons_of_mem _ List.mem_cons_self))
      have hident := hdeclared (List.mem_cons_of_mem _ (List.mem_cons_of_mem _
        (List.mem_map_of_mem hvariant)))
      have hvariants :
          variant ∈ (UnionUnit.assemble path docs alternatives).variants ++ [] := hvariant
      rw [List.append_nil] at hvariants
      obtain ⟨alternative, halternative, rfl⟩ := List.mem_map.mp hvariants
      have hproperty := hheads _ (List.mem_map_of_mem halternative)
      exact VariantUnit.scoped_ofProperty hident hproperty
        (alternative.property.scoped_inputAssertion hproperty (scoped_word "input" rfl))
  | entry path branches =>
      refine UnionUnit.scoped_code (fun variant hvariant => ?_) (hdeclared List.mem_cons_self) rfl
        (hdeclared (List.mem_cons_of_mem _ List.mem_cons_self))
      have hident := hdeclared (List.mem_cons_of_mem _ (List.mem_cons_of_mem _
        (List.mem_map_of_mem hvariant)))
      rcases List.mem_append.mp hvariant with hpatterned | hfallback
      · -- patterns are tested with the support library, the fallback is always taken
        obtain ⟨branch, hbranch, rfl⟩ := List.mem_map.mp hpatterned
        exact VariantUnit.scoped_ofProperty hident
          (hheads _ (List.mem_map_of_mem (List.mem_filter.mp hbranch).1))
          ((scoped_support _).call ((scoped_string _).pair (scoped_word "key" rfl)))
      · obtain ⟨branch, hbranch, rfl⟩ := Option.map_eq_some_iff.mp (Option.mem_toList.mp hfallback)
        exact VariantUnit.scoped_ofProperty hident
          (hheads _ (List.mem_map_of_mem (List.mem_of_find?_eq_some hbranch)))
          (scoped_word "true" rfl)

end Emission

/-! ## Names of types -/

open Name

/-- **Which generated types shadow what generated code looks up**, whatever way names are written in
ASCII.  All code looks up the names that are relied on, names of its own, and others that no type
takes the place of.  All names that are relied on are reserved, except for `Box`, so a type has one
of them exactly if `Box` is all that its name consists of. -/
theorem typeNameBy_mem_reliedNames_iff [Spelling] (spell : List Char → List Char) :
    (∀ name, typeNameBy spell name ∈ reliedNames ↔ String.ofList (titleBy spell name) = "Box") ∧
      (∀ parent key suffix, typeNameForBy spell parent key suffix ∈ reliedNames ↔
        parent ++ String.ofList (capitalize (camelCaseBy spell key.toList)) ++ suffix = "Box") ∧
      ∀ (generator : Generator) (emission : Emission),
        (emission.unit generator.withoutHooks).code.Scoped
          (emission.Owns generator.withoutHooks) := by
  refine ⟨fun name => finishTypeName_mem_reliedNames_iff _, fun parent key suffix => ?_,
    fun generator emission => emission.scoped_code generator⟩
  rw [typeNameForBy, finishTypeName_mem_reliedNames_iff, String.ofList_append, String.ofList_append,
    String.ofList_toList, String.ofList_toList]

attribute [local instance] Spelling.plain

/-- A struct for the name `box` that holds itself and a list of texts. -/
def boxUnit : TypeUnit :=
  let request : ClassRequest := ⟨.object [], typeName "box", ["crate"], [], "#", 0⟩
  let fields : List ResolvedField := [
    ⟨"next", .object [], .optional (.reference (.struct request.path true)) none false⟩,
    ⟨"texts", .object [], .required (.collection .primitive .list (.scalar .string))⟩]
  (Emission.struct request fields).unit (Generator.withoutHooks default)

set_option maxRecDepth 10000 in
/-- The struct is named `Box`, and so is what its code looks up to hold it, along with the other
names that are relied on. -/
theorem typeName_mem_reliedNames_box :
    typeName "box" ∈ reliedNames ∧ typeNameFor "" "box" "" ∈ reliedNames ∧
      boxUnit.path.text = "crate::Box" ∧ ∀ name ∈ reliedNames, name ∈ boxUnit.code.openNames := by
  decide +kernel

end SchemaTypes
