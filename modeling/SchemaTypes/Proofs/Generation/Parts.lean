import SchemaTypes.Proofs.Generation.Emission
import SchemaTypes.Proofs.Property.Resolution

/-!
# Parts of resolved properties

A resolved property consists of references, of requests for structs, and of unions and entries of
further properties.  What is shown of the references and requests of one node is carried through
the resolution of nodes within it, and then through all emissions of a request.

* `Property.Resolved`: a property whose references and requests are as they should be.
* `NodeCases.resolutionCases`: resolving a node gives such a property.
* `Generator.resolved_of_mem_emissions`: so do all emissions.
* `Generator.emitsNeeded_of_realize`: what is needed is emitted, too.
-/

namespace SchemaTypes

open Outcome Resolve

/-- A property as resolution builds it: what it refers to are targets, the structs that it mints
are requests, and all other types that it mints have places.  Items of a collection of references
are held by value. -/
inductive Property.Resolved (target : ReferencedType → Prop) (request : ClassRequest → Prop)
    (place : TypePath → Prop) : Property → Prop
  | scalar (kind) : Resolved target request place (.scalar kind)
  | mixed : Resolved target request place .mixed
  | enumeration {own : EnumTarget} (hplace : place own.path) :
      Resolved target request place (.enumeration own)
  | collection {kind container item} (hkind : kind ≠ .reference)
      (hitem : Resolved target request place item) :
      Resolved target request place (.collection kind container item)
  | references {container item} (own) (htarget : target own)
      (hitem : item = .reference own.unboxed ∨ item = .nullable (.reference own.unboxed)) :
      Resolved target request place (.collection .reference container item)
  | nestedObject {own} (hrequest : request own) (henum : own.schema.enumValues? = none) :
      Resolved target request place (.nestedObject own)
  | intersection {own} (hrequest : request own) :
      Resolved target request place (.intersection own)
  | reference {own} (htarget : target own) : Resolved target request place (.reference own)
  | union {path docs alternatives} (hplace : place path)
      (halternatives : ∀ alternative ∈ alternatives,
        Resolved target request place alternative.property) :
      Resolved target request place (.union path docs alternatives)
  | dynamic {entry branches} (hplace : place entry)
      (hbranches : ∀ branch ∈ branches, Resolved target request place branch.property) :
      Resolved target request place (.dynamic entry branches)
  | nullable {inner} (hinner : Resolved target request place inner) :
      Resolved target request place (.nullable inner)

variable {target : ReferencedType → Prop} {isRequest : ClassRequest → Prop}
  {place : TypePath → Prop}

/-- A struct that has been requested, or another type that has a place. -/
def MintedType.Placed (isRequest : ClassRequest → Prop) (place : TypePath → Prop) :
    MintedType → Prop
  | .struct request => isRequest request
  | .enumeration own => place own.path
  | .union path _ _ => place path
  | .dynamic entry _ => place entry

/-- The properties inside a type that is generated along with a property. -/
def MintedType.parts : MintedType → List Property
  | .struct _ => []
  | .enumeration _ => []
  | .union _ _ alternatives => alternatives.map (·.property)
  | .dynamic _ branches => branches.map (·.property)

namespace Property.Resolved

variable {property : Property}

theorem orNull (hproperty : Resolved target isRequest place property) :
    Resolved target isRequest place property.orNull := by
  unfold Property.orNull
  split
  · exact hproperty
  · exact .nullable hproperty

theorem mono {target' : ReferencedType → Prop}
    (hproperty : Resolved target isRequest place property)
    (htarget : ∀ own, target own → target' own) : Resolved target' isRequest place property := by
  induction hproperty with
  | scalar kind => exact .scalar kind
  | mixed => exact .mixed
  | enumeration hplace => exact .enumeration hplace
  | collection hkind hitem ih => exact .collection hkind ih
  | references own hown hitem => exact .references own (htarget own hown) hitem
  | nestedObject hrequest henum => exact .nestedObject hrequest henum
  | intersection hrequest => exact .intersection hrequest
  | reference hown => exact .reference (htarget _ hown)
  | union hplace halternatives ih => exact .union hplace ih
  | dynamic hplace hbranches ih => exact .dynamic hplace ih
  | nullable hinner ih => exact .nullable ih

theorem inner {inner : Property} (hproperty : Resolved target isRequest place (.nullable inner)) :
    Resolved target isRequest place inner := by
  cases hproperty with
  | nullable hinner => exact hinner

/-- A union or an entry is needed ahead of what its parts need: what holds of the types that a part
needs then holds of all that are needed. -/
theorem of_mem_cons_flatMap {whole minted : MintedType} (hplace : whole.Placed isRequest place)
    (hresolved : ∀ part ∈ whole.parts, Resolved target isRequest place part)
    (hneeded : ∀ part ∈ whole.parts, minted ∈ part.needed →
      minted.Placed isRequest place ∧
        ∀ inner ∈ minted.parts, Resolved target isRequest place inner ∧
          ∀ inside ∈ inner.needed, List.Sublist [minted, inside] part.needed)
    (hminted : minted ∈ whole :: whole.parts.flatMap (·.needed)) :
    minted.Placed isRequest place ∧
      ∀ part ∈ minted.parts, Resolved target isRequest place part ∧
        ∀ inside ∈ part.needed,
          List.Sublist [minted, inside] (whole :: whole.parts.flatMap (·.needed)) := by
  rcases List.mem_cons.mp hminted with rfl | hlater
  · -- the whole comes before all that its parts need
    refine ⟨hplace, fun part hpart => ⟨hresolved part hpart, fun inside hinside => ?_⟩⟩
    refine List.Sublist.cons_cons _ (List.singleton_sublist.mpr ?_)
    exact List.mem_flatMap.mpr ⟨part, hpart, hinside⟩
  · -- a type inside a part keeps its order among all that are needed
    obtain ⟨part, hpart, hlater⟩ := List.mem_flatMap.mp hlater
    obtain ⟨hplaced, hinner⟩ := hneeded part hpart hlater
    refine ⟨hplaced, fun inner hmember => ⟨(hinner inner hmember).1, fun inside hinside => ?_⟩⟩
    refine ((hinner inner hmember).2 inside hinside).trans (List.Sublist.cons _ ?_)
    exact List.sublist_flatten_of_mem (List.mem_map_of_mem hpart)

/-- Needed types have been requested or have places.  What lies inside a needed union or entry is
resolved too, and what it needs comes after the union or entry. -/
theorem of_mem_needed (hproperty : Resolved target isRequest place property) {minted : MintedType}
    (hminted : minted ∈ property.needed) :
    minted.Placed isRequest place ∧
      ∀ part ∈ minted.parts, Resolved target isRequest place part ∧
        ∀ inside ∈ part.needed, List.Sublist [minted, inside] property.needed := by
  induction hproperty with
  | scalar | mixed | reference => simp [needed] at hminted
  | references own htarget hitem => rcases hitem with rfl | rfl <;> simp [needed] at hminted
  | enumeration hplace =>
      obtain rfl : minted = .enumeration _ := by simpa [needed] using hminted
      exact ⟨hplace, by simp [MintedType.parts]⟩
  | collection hkind hitem ih => exact ih (by simpa [needed] using hminted)
  | nullable hinner ih => exact ih (by simpa [needed] using hminted)
  | nestedObject hrequest henum | intersection hrequest =>
      obtain rfl : minted = .struct _ := by simpa [needed] using hminted
      exact ⟨hrequest, by simp [MintedType.parts]⟩
  | @union path docs alternatives hplace halternatives ih =>
      have hneeded : (Property.union path docs alternatives).needed =
          .union path docs alternatives ::
            (alternatives.map (·.property)).flatMap (·.needed) := by
        rw [needed, neededByAlternatives_eq, List.flatMap_map]
      rw [hneeded] at hminted ⊢
      exact of_mem_cons_flatMap hplace (List.forall_mem_map.mpr halternatives)
        (List.forall_mem_map.mpr ih) hminted
  | @dynamic entry branches hplace hbranches ih =>
      have hneeded : (Property.dynamic entry branches).needed =
          .dynamic entry branches :: (branches.map (·.property)).flatMap (·.needed) := by
        rw [needed, neededByBranches_eq, List.flatMap_map]
      rw [hneeded] at hminted ⊢
      exact of_mem_cons_flatMap hplace (List.forall_mem_map.mpr hbranches)
        (List.forall_mem_map.mpr ih) hminted

end Property.Resolved

/-! ## Resolving nodes -/

variable [Spelling]

/-- A property of nodes that passes to the parts of a node, with what it says of references and
requests. -/
structure NodeCases (context : Context) (request : ClassRequest) (good : Json → Prop)
    (target : ReferencedType → Prop) (isRequest : ClassRequest → Prop) (place : TypePath → Prop) :
    Prop where
  reference : ∀ node reference, good node → node.reference? = some reference →
    target (context.lookup.find reference)
  items : ∀ node container items, good node → node.collection? = some (container, items) →
    good items
  alternatives : ∀ node part, good node → part ∈ node.alternatives?.getD [] → good part
  patterns : ∀ node entry, good node → entry ∈ node.patternProperties?.getD [] → good entry.2
  additional : ∀ node part, good node → node.additionalProperties? = some part → good part
  path : ∀ key suffix, place (request.pathFor key suffix)
  nested : ∀ node key suffix pointer, good node → isRequest (request.mint key suffix node pointer)
  merged : ∀ node merged key suffix pointer, good node →
    mergeAllOf context node pointer = .ok merged →
    isRequest (request.mint key suffix merged pointer)

omit [Spelling] in
theorem enumValues?_eq_none_of_nestedObject {node : Json} (hkind : node.kind = .nestedObject) :
    node.enumValues? = none := by
  unfold Json.kind at hkind
  by_contra henum
  have hsome : node.enumValues?.isSome := Option.isSome_iff_ne_none.mpr henum
  simp only [hsome, if_true] at hkind
  split_ifs at hkind

namespace NodeCases

variable {context : Context} {request : ClassRequest} {good : Json → Prop}

/-- What a good node is resolved to is made of good parts. -/
theorem resolutionCases (hcases : NodeCases context request good target isRequest place)
    (key : String) :
    ResolutionCases context request key fun node property =>
      good node → property.Resolved target isRequest place where
  null node property hproperty hgood := by
    unfold withNull
    split
    · exact (hproperty hgood).orNull
    · exact hproperty hgood
  reference node hkind hgood := by
    unfold referenceProperty
    cases hreference : node.reference? with
    | some reference => exact .reference (hcases.reference node reference hgood hreference)
    | none =>
        dsimp only
        cases hcollection : node.collection? with
        | none => exact .mixed
        | some collection =>
            obtain ⟨container, items⟩ := collection
            dsimp only
            cases hitems : items.reference? with
            | none => exact .mixed
            | some reference =>
                have hgoodItems := hcases.items node container items hgood hcollection
                -- the reference stands in the items: the items are the reference, with or without
                -- null
                refine .references _ (hcases.reference items reference hgoodItems hitems) ?_
                split
                · unfold Property.orNull
                  split
                  · exact .inl rfl
                  · exact .inr rfl
                · exact .inl rfl
  intersection node suffix merged pointer _ hmerged hgood :=
    .intersection (hcases.merged node merged key suffix pointer hgood hmerged)
  union node suffix alternatives _ halternatives hgood := by
    unfold unionProperty
    split
    · exact .mixed
    · split
      · exact .scalar _
      · refine .union (hcases.path key suffix) fun alternative halternative => ?_
        obtain ⟨part, hpart, hresolved⟩ := halternatives alternative halternative
        exact hresolved (hcases.alternatives node part hgood hpart)
  enumeration _ suffix _ _ _ _ := .enumeration (hcases.path key suffix)
  scalar _ kind _ := .scalar kind
  collection node kind container items item hreference hcollection hitem hgood :=
    .collection hreference (hitem (hcases.items node container items hgood hcollection))
  nestedObject node suffix pointer hkind hgood :=
    .nestedObject (hcases.nested node key suffix pointer hgood)
      (enumValues?_eq_none_of_nestedObject hkind)
  dynamic node suffix branches _ hbranches hgood := by
    refine .dynamic (hcases.path key suffix) fun branch hbranch => ?_
    rcases hbranches branch hbranch with ⟨entry, hentry, hresolved⟩ | ⟨part, hpart, hresolved⟩
    · exact hresolved (hcases.patterns node entry hgood hentry)
    · exact hresolved (hcases.additional node part hgood hpart)
  mixed _ _ := .mixed

end NodeCases

/-! ## Emissions -/

namespace Emission

/-- The emission of a type that some property needs. -/
def Covers (generator : Generator) (emission : Emission) : MintedType → Prop
  | .struct request => generator.prepare request = .ok emission
  | .enumeration target => emission = .enumeration target
  | .union path docs alternatives => emission = .union path docs alternatives
  | .dynamic path branches => emission = .entry path branches

end Emission

namespace Generator

variable {generator : Generator}

/-- **What a request stands for**: an enumeration when its schema has `enum`, and otherwise the
struct of its merged schema. -/
theorem of_prepare {request : ClassRequest} {emission : Emission}
    (hprepare : generator.prepare request = .ok emission) :
    (request.schema.enumValues?.isSome = true ∧ ∃ definition,
        emission = .enumeration ⟨request.path, definition, documentation request.schema⟩) ∨
      request.schema.enumValues? = none ∧
        ∃ merged fields, generator.mergedSchema request = .ok merged ∧
          generator.resolveFields { request with schema := merged } = .ok fields ∧
          emission = .struct { request with schema := merged } fields := by
  unfold prepare at hprepare
  by_cases henum : request.schema.enumValues?.isSome
  · rw [if_pos henum] at hprepare
    split at hprepare
    · cases hprepare
    · cases hprepare
      exact .inl ⟨henum, _, rfl⟩
  · rw [if_neg henum] at hprepare
    obtain ⟨merged, hmerged, hprepare⟩ := bind_eq_ok.mp hprepare
    split at hprepare
    · cases hprepare
    · obtain ⟨fields, hfields, hprepare⟩ := bind_eq_ok.mp hprepare
      cases hprepare
      exact .inr ⟨by simpa using henum, merged, fields, hmerged, hfields, rfl⟩

/-- Preparing a struct resolves its fields. -/
theorem prepare_struct {request prepared : ClassRequest} {fields : List ResolvedField}
    (hprepare : generator.prepare request = .ok (.struct prepared fields)) :
    request.schema.enumValues? = none ∧
      ∃ merged, generator.mergedSchema request = .ok merged ∧
        prepared = { request with schema := merged } ∧
        generator.resolveFields prepared = .ok fields := by
  rcases of_prepare hprepare with
    ⟨-, definition, hsame⟩ | ⟨henum, merged, own, hmerged, hown, hsame⟩
  · cases hsame
  · obtain ⟨rfl, rfl⟩ := Emission.struct.inj hsame
    exact ⟨henum, merged, hmerged, rfl, hown⟩

/-- A request stands for an enumeration or a struct. -/
theorem prepare_cases {request : ClassRequest} {emission : Emission}
    (hprepare : generator.prepare request = .ok emission) :
    (∃ target, emission = .enumeration target) ∨
      ∃ prepared fields, emission = .struct prepared fields := by
  rcases of_prepare hprepare with ⟨-, definition, hsame⟩ | ⟨-, merged, fields, -, -, hsame⟩
  · exact .inl ⟨_, hsame⟩
  · exact .inr ⟨_, fields, hsame⟩

/-- What a type that is emitted for a request needs is needed by a property of it, and what a
property needs stays in order. -/
theorem exists_property_of_mem_needed {request : ClassRequest} {emission : Emission}
    (hprepare : generator.prepare request = .ok emission) {minted : MintedType}
    (hminted : minted ∈ emission.needed) :
    ∃ property ∈ emission.properties, minted ∈ property.needed ∧
      property.needed.Sublist emission.needed := by
  rcases prepare_cases hprepare with ⟨target, rfl⟩ | ⟨prepared, fields, rfl⟩
  · cases hminted
  · obtain ⟨field, hfield, hneeded⟩ := List.mem_flatMap.mp hminted
    exact ⟨_, List.mem_map_of_mem hfield, hneeded,
      List.sublist_flatten_of_mem (List.mem_map_of_mem hfield)⟩

/-- What a property of a type that is emitted for a request needs, the type needs. -/
theorem mem_needed_of_mem_properties {request : ClassRequest} {emission : Emission}
    (hprepare : generator.prepare request = .ok emission) {property : Property}
    (hproperty : property ∈ emission.properties) {minted : MintedType}
    (hminted : minted ∈ property.needed) : minted ∈ emission.needed := by
  rcases prepare_cases hprepare with ⟨target, rfl⟩ | ⟨prepared, fields, rfl⟩
  · cases hproperty
  · obtain ⟨field, hfield, rfl⟩ := List.mem_map.mp hproperty
    exact List.mem_flatMap.mpr ⟨field, hfield, hminted⟩

/-- The fields of a prepared struct are resolved from good nodes. -/
theorem resolved_of_prepare {good : Json → Prop}
    (hcases : ∀ request schema, isRequest request →
      NodeCases generator.context { request with schema } good target isRequest place)
    (hschema : ∀ request merged, isRequest request → generator.mergedSchema request = .ok merged →
      ∀ entry ∈ merged.properties?.getD [], good entry.2)
    {request prepared : ClassRequest} {fields : List ResolvedField} (hrequest : isRequest request)
    (hprepare : generator.prepare request = .ok (.struct prepared fields)) :
    ∀ field ∈ fields, field.property.inner.Resolved target isRequest place := by
  obtain ⟨-, merged, hmerged, rfl, hfields⟩ := prepare_struct hprepare
  intro field hfield
  obtain ⟨entry, hentry, hresolved⟩ := exists_of_resolveFields
    (fun key => (hcases request merged hrequest).resolutionCases key)
    (fun node inner hinner hgood => (hinner hgood).inner) hfields hfield
  exact hresolved (hschema request merged hrequest hmerged entry hentry)

/-- A needed type is emitted on its own, unless it is a struct. -/
theorem mem_emitNeeded {emitStruct : ClassRequest → List Emission} {minted : MintedType}
    {emission : Emission} (hemission : emission ∈ emitNeeded emitStruct minted) :
    (∃ request, minted = .struct request ∧ emission ∈ emitStruct request) ∨
      (emission.properties = minted.parts ∧ (∀ request fields, emission ≠ .struct request fields) ∧
        (∀ isRequest place, minted.Placed isRequest place → place emission.path) ∧
        emitNeeded emitStruct minted = [emission]) := by
  cases minted with
  | struct request => exact .inl ⟨request, rfl, hemission⟩
  | enumeration | union | dynamic =>
      obtain rfl := List.mem_singleton.mp hemission
      exact .inr ⟨rfl, nofun, fun _ _ => id, rfl⟩

section

variable (hprepare : ∀ request prepared fields, isRequest request →
  generator.prepare request = .ok (.struct prepared fields) →
  ∀ field ∈ fields, field.property.inner.Resolved target isRequest place)

include hprepare

/-- Whatever a request stands for, its properties are resolved: an enumeration has none. -/
theorem resolved_of_mem_properties {request : ClassRequest} (hrequest : isRequest request)
    {emission : Emission} (hfirst : generator.prepare request = .ok emission) :
    ∀ property ∈ emission.properties, property.Resolved target isRequest place := by
  rcases prepare_cases hfirst with ⟨own, rfl⟩ | ⟨prepared, fields, rfl⟩
  · exact fun _ => nofun
  · exact List.forall_mem_map.mpr (hprepare request prepared fields hrequest hfirst)

/-- **Induction over emissions.**  When the fields of requested structs are resolved, the
properties of everything that a request emits are; and what is emitted as a struct has been
requested. -/
theorem resolved_of_mem_emissions {levels : Nat} {request : ClassRequest}
    (hrequest : isRequest request) {emission : Emission}
    (hemission : emission ∈ generator.emissions levels request) :
    (∀ property ∈ emission.properties, property.Resolved target isRequest place) ∧
      ((∃ own, isRequest own ∧ generator.prepare own = .ok emission) ∨
        (∀ prepared fields, emission ≠ .struct prepared fields) ∧ place emission.path) := by
  induction levels generalizing request emission with
  | zero => cases hemission
  | succ levels ih =>
      rw [emissions] at hemission
      cases hfirst : generator.prepare request with
      | error fault =>
          rw [hfirst] at hemission
          cases hemission
      | ok first =>
          rw [hfirst] at hemission
          have hproperties := resolved_of_mem_properties hprepare hrequest hfirst
          rcases List.mem_cons.mp hemission with rfl | hlater
          · exact ⟨hproperties, .inl ⟨request, hrequest, hfirst⟩⟩
          · obtain ⟨minted, hminted, hemitted⟩ := List.mem_flatMap.mp hlater
            obtain ⟨property, hproperty, hneeded, -⟩ :=
              exists_property_of_mem_needed hfirst hminted
            obtain ⟨hplaced, hparts⟩ := (hproperties property hproperty).of_mem_needed hneeded
            -- a struct goes one level down, what else is minted is emitted as it is
            rcases mem_emitNeeded hemitted with
              ⟨nested, rfl, hnested⟩ | ⟨hsame, hnone, hplace, -⟩
            · exact ih hplaced hnested
            · rw [hsame]
              exact ⟨fun part hpart => (hparts part hpart).1, .inr ⟨hnone, hplace _ _ hplaced⟩⟩

end

/-! ## What is needed is emitted -/

/-- The type of a request is emitted, and after each emission the types that its properties
need. -/
structure EmitsNeeded (generator : Generator) (levels : Nat) (request : ClassRequest) : Prop where
  first : ∃ emission ∈ generator.emissions levels request, generator.prepare request = .ok emission
  needed : ∀ emission ∈ generator.emissions levels request, ∀ property ∈ emission.properties,
    ∀ minted ∈ property.needed, ∃ other : Emission, other.Covers generator minted ∧
      List.Sublist [emission, other] (generator.emissions levels request)

namespace EmitsNeeded

variable {levels : Nat}

/-- What is needed is emitted, if the nested structs emit theirs. -/
theorem exists_covers {minted : MintedType}
    (hnested : ∀ nested, minted = .struct nested → generator.EmitsNeeded levels nested) :
    ∃ other : Emission, other.Covers generator minted ∧
      other ∈ emitNeeded (generator.emissions levels) minted := by
  cases minted with
  | struct nested =>
      obtain ⟨emission, hemission, hprepared⟩ := (hnested nested rfl).first
      exact ⟨emission, hprepared, hemission⟩
  | enumeration | union | dynamic => exact ⟨_, rfl, List.mem_cons_self⟩

/-- **One level.**  A request emits the type that it stands for, and then what this needs. -/
theorem succ {request : ClassRequest} {first : Emission}
    (hfirst : generator.prepare request = .ok first)
    (hproperties : ∀ property ∈ first.properties, property.Resolved target isRequest place)
    (hnested : ∀ nested, .struct nested ∈ first.needed → generator.EmitsNeeded levels nested) :
    generator.EmitsNeeded (levels + 1) request := by
  have hemissions : generator.emissions (levels + 1) request =
      first :: first.needed.flatMap (emitNeeded (generator.emissions levels)) := by
    rw [emissions, hfirst]
  have hcovered : ∀ minted ∈ first.needed, ∃ other : Emission, other.Covers generator minted ∧
      other ∈ emitNeeded (generator.emissions levels) minted :=
    fun minted hminted => exists_covers fun nested hsame => hnested nested (hsame ▸ hminted)
  refine ⟨⟨first, hemissions ▸ List.mem_cons_self, hfirst⟩, ?_⟩
  intro emission hemission property hproperty minted hminted
  rw [hemissions] at hemission ⊢
  rcases List.mem_cons.mp hemission with rfl | hemission
  · -- fields of the request itself
    have hneeded := mem_needed_of_mem_properties hfirst hproperty hminted
    obtain ⟨other, hcovers, hother⟩ := hcovered minted hneeded
    refine ⟨other, hcovers, List.Sublist.cons_cons _ (List.singleton_sublist.mpr ?_)⟩
    exact List.mem_flatMap.mpr ⟨minted, hneeded, hother⟩
  · obtain ⟨outer, houter, hemitted⟩ := List.mem_flatMap.mp hemission
    rcases mem_emitNeeded hemitted with ⟨nested, rfl, hinside⟩ | ⟨hsame, -, -, honly⟩
    · -- inside a nested struct
      obtain ⟨other, hcovers, horder⟩ :=
        (hnested nested houter).needed emission hinside property hproperty minted hminted
      refine ⟨other, hcovers, horder.trans (List.Sublist.cons _ ?_)⟩
      exact List.sublist_flatten_of_mem (List.mem_map.mpr ⟨_, houter, rfl⟩)
    · -- inside a union or an entry, which leaves what it needs to the struct around it
      rw [hsame] at hproperty
      obtain ⟨whole, hwhole, hneeded, hsublist⟩ := exists_property_of_mem_needed hfirst houter
      obtain ⟨-, hparts⟩ := (hproperties whole hwhole).of_mem_needed hneeded
      have hpair : List.Sublist [outer, minted] first.needed :=
        ((hparts property hproperty).2 minted hminted).trans hsublist
      obtain ⟨other, hcovers, hother⟩ := hcovered minted (hpair.subset (by simp))
      refine ⟨other, hcovers, List.Sublist.cons _ (List.Sublist.trans ?_ (hpair.flatMap _))⟩
      rw [List.flatMap_cons, List.flatMap_singleton, honly]
      exact List.Sublist.cons_cons _ (List.singleton_sublist.mpr hother)

end EmitsNeeded

/-- **Needed types are emitted.**  A request that is realized emits the type that it stands for, and
after each emission the types that its properties need. -/
theorem emitsNeeded_of_realize
    (hprepare : ∀ request prepared fields, isRequest request →
      generator.prepare request = .ok (.struct prepared fields) →
      ∀ field ∈ fields, field.property.inner.Resolved target isRequest place)
    {levels : Nat} {request : ClassRequest} (hrequest : isRequest request)
    {progress result : Progress}
    (hresult : generator.realize levels request progress = .ok result) :
    generator.EmitsNeeded levels request := by
  induction levels generalizing request progress result with
  | zero => cases hresult
  | succ levels ih =>
      rw [realize_succ, realizeStep_eq_ok] at hresult
      obtain ⟨first, hfirst, middle, -, hloop⟩ := hresult
      have hproperties := resolved_of_mem_properties hprepare hrequest hfirst
      refine .succ hfirst hproperties fun nested hminted => ?_
      -- nested structs have been realized with the remaining levels
      obtain ⟨property, hproperty, hneeded, -⟩ := exists_property_of_mem_needed hfirst hminted
      obtain ⟨before, after, hstep⟩ := exists_step_of_foldlM hloop hminted
      exact ih ((hproperties property hproperty).of_mem_needed hneeded).1 hstep

end Generator

end SchemaTypes
