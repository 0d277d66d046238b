import SchemaTypes.Proofs.Generation.Closure
import SchemaTypes.Proofs.Schema.Tracing

/-!
# Containment by value

A type holds the types of its fields by value, also under `Option`, but not behind a `Box` and not
inside a collection.  A type that holds itself, directly or through others, has no finite size.

Types that are minted along with a property come after the type that holds them, so containment can
only come back through a reference.  A reference is boxed when its target is on a reported cycle.

* `Holds`: one type holds another by value.
* `Generation.Reaches`: what is known of the references inside a request.
* `Generation.finiteSize`: when all types of a run have finite size.
-/

namespace SchemaTypes

open Outcome

/-! ## Types held by value -/

/-- The type that is held by value. -/
def TypeShape.held? : TypeShape → Option TypePath
  | .named path => some path
  | .optional inner => inner.held?
  | _ => none

/-- The types of what a value of the unit consists of. -/
def TypeUnit.components (unit : TypeUnit) : List TypeShape :=
  unit.fields.map (·.fieldShape) ++ unit.variants.map (·.storage)

/-- One type holds another by value. -/
def Holds (units : List TypeUnit) (outer inner : TypePath) : Prop :=
  ∃ unit ∈ units, unit.path = outer ∧ ∃ shape ∈ unit.components, shape.held? = some inner

instance (units : List TypeUnit) (outer inner : TypePath) : Decidable (Holds units outer inner) :=
  inferInstanceAs (Decidable (∃ unit ∈ units, unit.path = outer ∧
    ∃ shape ∈ unit.components, shape.held? = some inner))

/-- No type holds itself, directly or through others. -/
def FiniteSize (units : List TypeUnit) : Prop :=
  ∀ path, ¬Relation.TransGen (Holds units) path path

section

variable [Spelling]

namespace Property

variable {target : ReferencedType → Prop} {isRequest : ClassRequest → Prop}
  {place : TypePath → Prop} {property : Property} {path : TypePath}

theorem held?_nullable (inner : Property) :
    (nullable inner).fieldShape.held? = inner.fieldShape.held? := by
  rw [fieldShape, fieldShape, storageShape?]
  cases inner.storageShape? <;> rfl

/-- What a property holds by value is minted for it, or the target of a reference that is not
boxed. -/
theorem Resolved.of_held? (hproperty : property.Resolved target isRequest place)
    (hheld : property.fieldShape.held? = some path) :
    (∃ own, target own ∧ own.path? = some path ∧ own.isBoxed = false) ∨
      ∃ minted ∈ property.minted, minted.path = path := by
  induction hproperty with
  | scalar kind => cases kind <;> cases hheld
  | mixed => cases hheld
  | @collection kind container item hkind hitem ih => cases container <;> cases hheld
  | @references container item own htarget hitem => cases container <;> cases hheld
  | dynamic hplace hbranches ih => cases hheld
  | enumeration hplace | nestedObject hrequest henum | intersection hrequest
  | union hplace halternatives ih =>
      exact .inr ⟨_, List.mem_singleton_self _, Option.some.inj hheld⟩
  | @reference own htarget =>
      left
      refine ⟨own, htarget, ?_⟩
      -- a boxed target is not held by value
      cases own with
      | struct own boxed =>
          cases boxed with
          | false => exact ⟨hheld, rfl⟩
          | true => cases hheld
      | enumeration own definition => exact ⟨hheld, rfl⟩
      | unknown pointer => cases hheld
  | nullable hinner ih =>
      rw [held?_nullable] at hheld
      exact ih hheld

end Property

theorem FieldProperty.held?_fieldShape (property : FieldProperty) :
    property.fieldShape.held? = property.inner.fieldShape.held? := by
  unfold fieldShape
  split <;> rfl

/-- What a unit consists of are the values of its properties. -/
theorem Emission.exists_property {generator : Generator} {emission : Emission} {shape : TypeShape}
    (hshape : shape ∈ (emission.unit generator).components) :
    ∃ property ∈ emission.properties, shape.held? = property.fieldShape.held? := by
  rcases List.mem_append.mp hshape with hfields | hvariants
  · obtain ⟨field, hfield, rfl⟩ := List.mem_map.mp hfields
    obtain ⟨request, fields, rfl, own, hown, ident, rfl⟩ := exists_field hfield
    exact ⟨_, mem_properties hown, own.property.held?_fieldShape⟩
  · obtain ⟨variant, hvariant, rfl⟩ := List.mem_map.mp hvariants
    obtain ⟨property, hproperty, ident, condition, rfl, -⟩ := exists_variant hvariant
    exact ⟨property, hproperty, rfl⟩

omit [Spelling] in
theorem ReferencedType.exists_relied {target : ReferencedType} {path : TypePath}
    (hpath : target.path? = some path) : ∃ category, (path, category) ∈ target.relies := by
  cases target with
  | struct | enumeration =>
      obtain rfl := Option.some.inj hpath
      exact ⟨_, List.mem_singleton_self _⟩
  | unknown => cases hpath

/-! ## Owners and places -/

namespace Generation

variable {generation : Generation} {output : GenerationOutput} {path other : TypePath}
  {owner : String}

/-- A type is emitted for the request with a pointer. -/
def Owned (generation : Generation) (owner : String) (path : TypePath) : Prop :=
  ∃ request ∈ generation.requests, request.pointer = owner ∧
    ∃ emission ∈ generation.emissionsOf request, emission.path = path

/-- The place of a type in the order of emission. -/
def position (generation : Generation) (path : TypePath) : Nat :=
  (generation.emissions.map (·.path)).idxOf path

/-- A type is emitted for one request only. -/
theorem Owned.eq (hrun : generation.run = .ok output)
    (hfree : CollisionFree output.stats.warnings) {owner owner' : String}
    (howner : generation.Owned owner path) (howner' : generation.Owned owner' path) :
    owner = owner' := by
  obtain ⟨request, hrequest, rfl, emission, hemission, hpath⟩ := howner
  obtain ⟨request', hrequest', rfl, emission', hemission', hpath'⟩ := howner'
  have hnodup := nodup_paths hrun hfree
  rw [emissions, List.map_flatMap, List.nodup_flatMap] at hnodup
  by_contra hdifferent
  have hsymm : Std.Symm (Function.onFun List.Disjoint fun request =>
      (generation.emissionsOf request).map (·.path)) := ⟨fun _ _ hdisjoint => hdisjoint.symm⟩
  have hdisjoint := hnodup.2.forall hrequest hrequest'
    (fun hsame => hdifferent (congrArg _ hsame))
  exact hdisjoint (List.mem_map.mpr ⟨emission, hemission, hpath⟩)
    (List.mem_map.mpr ⟨emission', hemission', hpath'⟩)

omit [Spelling] in
theorem idxOf_lt_of_sublist {paths : List TypePath} (hnodup : paths.Nodup)
    (hsublist : List.Sublist [path, other] paths) : paths.idxOf path < paths.idxOf other := by
  induction paths with
  | nil => cases hsublist
  | cons first rest ih =>
      obtain ⟨hfirst, hrest⟩ := List.nodup_cons.mp hnodup
      cases hsublist with
      | cons _ hlater =>
          have hpath : first ≠ path := fun hsame => hfirst (hsame ▸ hlater.subset (by simp))
          have hother : first ≠ other := fun hsame => hfirst (hsame ▸ hlater.subset (by simp))
          rw [List.idxOf_cons_ne _ hpath, List.idxOf_cons_ne _ hother]
          exact Nat.succ_lt_succ (ih hrest hlater)
      | cons_cons _ hlater =>
          have hother : path ≠ other := fun hsame =>
            hfirst (hsame ▸ List.singleton_sublist.mp hlater)
          rw [List.idxOf_cons_self, List.idxOf_cons_ne _ hother]
          exact Nat.succ_pos _

/-- What a type needs is emitted for the same request, and later. -/
theorem owned_of_minted (hrun : generation.run = .ok output)
    (hfree : CollisionFree output.stats.warnings) {request : ClassRequest}
    (hrequest : request ∈ generation.requests) {emission : Emission}
    (hemission : emission ∈ generation.emissionsOf request) {property : Property}
    (hproperty : property ∈ emission.properties) {minted : MintedType}
    (hminted : minted ∈ property.minted) :
    generation.Owned request.pointer minted.path ∧
      generation.position emission.path < generation.position minted.path := by
  obtain ⟨later, hcovers, horder⟩ := (emitsNeeded hrun hrequest).needed emission hemission property
    hproperty minted (Property.minted_subset_needed property hminted)
  rw [← hcovers.path.1]
  refine ⟨⟨request, hrequest, rfl, later, horder.subset (by simp), rfl⟩, ?_⟩
  refine idxOf_lt_of_sublist (nodup_paths hrun hfree) ?_
  refine List.Sublist.map _ (horder.trans ?_)
  exact List.sublist_flatten_of_mem (List.mem_map_of_mem hrequest)

/-- The references in what is emitted for a request are related to the pointer of the request. -/
def Reaches (generation : Generation) (relation : String → String → Prop) : Prop :=
  ∀ request ∈ generation.requests, ∀ emission ∈ generation.emissionsOf request,
    ∀ property ∈ emission.properties, ∃ isRequest place,
      property.Resolved
        (fun target => ∃ reference, target = generation.targets.find reference ∧
          (isLocalReference reference → relation request.pointer reference)) isRequest place

/-- A type that holds others is no enumeration. -/
theorem category_ne_of_holds (hrun : generation.run = .ok output)
    (hfree : CollisionFree output.stats.warnings)
    (hholds : ∃ inner, Holds generation.units path inner)
    {emission : Emission} (hemission : emission ∈ generation.emissions)
    (hpath : emission.path = path) : emission.category ≠ .enumeration := by
  obtain ⟨inner, unit, hunit, hown, shape, hshape, -⟩ := hholds
  rw [units_eq hrun hfree] at hunit
  obtain ⟨source, hsource, rfl⟩ := List.mem_map.mp hunit
  rw [Emission.unit_path] at hown
  obtain rfl := emission_eq hrun hfree hemission hsource (hpath.trans hown.symm)
  rintro hcategory
  obtain ⟨target, rfl⟩ : ∃ target, emission = .enumeration target := by
    cases emission <;> first | exact ⟨_, rfl⟩ | cases hcategory
  cases hshape

/-- What a reference stands for that is not boxed belongs to the target of the reference, which is
on no reported cycle. -/
theorem owned_of_target (hrun : generation.run = .ok output)
    (hexternal : generation.external = []) (hfree : CollisionFree output.stats.warnings)
    {reference : String}
    (hpath : (generation.targets.find reference).path? = some path)
    (hboxed : (generation.targets.find reference).isBoxed = false)
    (hholds : ∃ inner, Holds generation.units path inner) :
    generation.Owned reference path ∧ isLocalReference reference ∧
      reference ∉ generation.targets.cyclic := by
  -- the root is always known as a struct, so that it is owned must come from what it holds
  by_cases hreference : reference = Pointer.root
  · subst hreference
    rw [find_root hexternal] at hpath hboxed
    obtain rfl := Option.some.inj hpath
    refine ⟨?_, rfl, fun hcyclic => ?_⟩
    · obtain ⟨inner, unit, hunit, hown, -⟩ := hholds
      rw [units_eq hrun hfree] at hunit
      obtain ⟨emission, hemission, rfl⟩ := List.mem_map.mp hunit
      rw [Emission.unit_path] at hown
      obtain ⟨request, hrequest, hemitted⟩ := mem_emissions.mp hemission
      obtain ⟨-, rfl⟩ := eq_rootRequest hrequest hemitted hown
      exact ⟨_, hrequest, rfl, emission, hemitted, hown⟩
    · rw [ReferencedType.isBoxed, List.contains_iff_mem.mpr hcyclic] at hboxed
      cases hboxed
  · rcases find_cases hexternal hreference with ⟨definition, hdefinition, rfl, hfind⟩ | hunknown
    · rw [hfind] at hpath hboxed
      obtain ⟨category, hrelied⟩ := ReferencedType.exists_relied hpath
      obtain ⟨hrequest, hsame⟩ := mem_requests_of_relies hdefinition hfind hrelied
      obtain ⟨rfl, -⟩ := Prod.mk.inj hsame
      obtain ⟨emission, hemission, hprepare⟩ := (emitsNeeded hrun hrequest).first
      obtain ⟨hown, hcategory⟩ := Generator.prepare_path hprepare
      refine ⟨⟨_, hrequest, rfl, emission, hemission, hown⟩,
        (Definition.declared_of_mem_collect hdefinition).isLocal, fun hcyclic => ?_⟩
      have hstruct := category_ne_of_holds hrun hfree hholds
        (mem_emissions.mpr ⟨_, hrequest, hemission⟩) hown
      have henum : ¬definition.schema.enumValues?.isSome := fun henum =>
        hstruct (hcategory.trans (if_pos henum))
      rw [targetOf, ReferencedType.ofDefinition, if_neg henum] at hboxed hpath
      split at hboxed
      · rw [ReferencedType.isBoxed, List.contains_iff_mem.mpr hcyclic] at hboxed
        cases hboxed
      · rename_i hshape
        rw [if_neg hshape] at hpath
        cases hpath
    · rw [hunknown] at hpath
      cases hpath

/-! ## Steps -/

/-- **One step of containment** goes to a type that comes later for the same request, or to the
target of a reference that is on no reported cycle. -/
theorem holds_cases (hrun : generation.run = .ok output) (hexternal : generation.external = [])
    (hfree : CollisionFree output.stats.warnings) {relation : String → String → Prop}
    (hreaches : generation.Reaches relation) (hholds : Holds generation.units path other)
    (hnext : ∃ inner, Holds generation.units other inner) :
    ∃ owner, generation.Owned owner path ∧
      ((generation.Owned owner other ∧ generation.position path < generation.position other) ∨
        ∃ reference, generation.Owned reference other ∧ relation owner reference ∧
          reference ∉ generation.targets.cyclic ∧
          (generation.targets.find reference).path? = some other) := by
  obtain ⟨unit, hunit, rfl, shape, hshape, hheld⟩ := hholds
  rw [units_eq hrun hfree] at hunit
  obtain ⟨emission, hemission, rfl⟩ := List.mem_map.mp hunit
  obtain ⟨request, hrequest, hemitted⟩ := mem_emissions.mp hemission
  obtain ⟨property, hproperty, hsame⟩ := Emission.exists_property hshape
  obtain ⟨isRequest, place, hresolved⟩ := hreaches request hrequest emission hemitted property
    hproperty
  rw [Emission.unit_path]
  refine ⟨request.pointer, ⟨request, hrequest, rfl, emission, hemitted, rfl⟩, ?_⟩
  rw [hsame] at hheld
  -- what is held was minted for the property, or a reference stands for it
  rcases hresolved.of_held? hheld with
    ⟨own, ⟨reference, rfl, hrelation⟩, hpath, hboxed⟩ | ⟨minted, hminted, rfl⟩
  · right
    obtain ⟨howned, hlocal, hacyclic⟩ :=
      owned_of_target hrun hexternal hfree hpath hboxed hnext
    exact ⟨reference, howned, hrelation hlocal, hacyclic, hpath⟩
  · exact .inl (owned_of_minted hrun hfree hrequest hemitted hproperty hminted)

/-- Between types that hold each other, containment goes to later types, unless it passes the target
of a reference that holds itself and is on no reported cycle. -/
theorem position_lt_of_transGen (hrun : generation.run = .ok output)
    (hexternal : generation.external = []) (hfree : CollisionFree output.stats.warnings)
    (htargets : ∀ reference ∉ generation.targets.cyclic, ∀ path,
      (generation.targets.find reference).path? = some path →
        ¬Relation.TransGen (Holds generation.units) path path)
    (hforth : Relation.TransGen (Holds generation.units) path other)
    (hback : Relation.TransGen (Holds generation.units) other path) :
    generation.position path < generation.position other := by
  have hreaches : generation.Reaches fun _ _ => True := by
    intro request hrequest emission hemission property hproperty
    obtain ⟨«namespace», hresolved⟩ :=
      resolved_of_mem (mem_emissions.mpr ⟨request, hrequest, hemission⟩) hproperty
    refine ⟨_, _, hresolved.mono ?_⟩
    rintro target ⟨reference, rfl⟩
    exact ⟨reference, rfl, fun _ => trivial⟩
  -- a step to the target of a reference would close a cycle through it
  have hstep : ∀ {outer inner}, Holds generation.units outer inner →
      Relation.TransGen (Holds generation.units) inner outer →
      generation.position outer < generation.position inner := by
    intro outer inner hholds hback
    obtain ⟨next, hnext, -⟩ := Relation.TransGen.head'_iff.mp hback
    obtain ⟨owner, -, hlater | ⟨reference, -, -, hacyclic, hpath⟩⟩ :=
      holds_cases hrun hexternal hfree hreaches hholds ⟨next, hnext⟩
    · exact hlater.2
    · exact absurd (hback.tail hholds) (htargets reference hacyclic inner hpath)
  induction hforth with
  | single hholds => exact hstep hholds hback
  | tail hearlier hholds ih =>
      exact (ih (.head hholds hback)).trans (hstep hholds (hback.trans hearlier))

/-- Along containment the owner stays the same and types come later, or the graph of references
leads from owner to owner. -/
theorem owned_of_transGen (hrun : generation.run = .ok output)
    (hexternal : generation.external = []) (hfree : CollisionFree output.stats.warnings)
    (hreaches : generation.Reaches (Relation.TransGen
      (referenceGraph generation.document generation.definitions).Refers))
    (hforth : Relation.TransGen (Holds generation.units) path other)
    (hnext : ∃ inner, Holds generation.units other inner) :
    ∃ owner final, generation.Owned owner path ∧ generation.Owned final other ∧
      ((owner = final ∧ generation.position path < generation.position other) ∨
        (Relation.TransGen (referenceGraph generation.document generation.definitions).Refers
          owner final ∧ final ∉ generation.targets.cyclic)) := by
  induction hforth with
  | single hholds =>
      obtain ⟨owner, howner, ⟨hsame, hlater⟩ | ⟨reference, hreference, hrefers, hacyclic, -⟩⟩ :=
        holds_cases hrun hexternal hfree hreaches hholds hnext
      · exact ⟨owner, owner, howner, hsame, .inl ⟨rfl, hlater⟩⟩
      · exact ⟨owner, reference, howner, hreference, .inr ⟨hrefers, hacyclic⟩⟩
  | tail _ hholds ih =>
      obtain ⟨owner, middle, howner, hmiddle, hearlier⟩ := ih ⟨_, hholds⟩
      obtain ⟨middle', hmiddle', hstep⟩ := holds_cases hrun hexternal hfree hreaches hholds hnext
      -- paths are distinct, so both steps agree on the owner in the middle
      obtain rfl := hmiddle.eq hrun hfree hmiddle'
      rcases hstep with ⟨hsame, hlater⟩ | ⟨reference, hreference, hrefers, hacyclic, -⟩
      · refine ⟨owner, middle, howner, hsame, ?_⟩
        exact hearlier.imp_left fun hearlier => ⟨hearlier.1, hearlier.2.trans hlater⟩
      · refine ⟨owner, reference, howner, hreference, .inr ⟨?_, hacyclic⟩⟩
        rcases hearlier with ⟨rfl, -⟩ | ⟨hrefers', -⟩
        · exact hrefers
        · exact hrefers'.trans hrefers

/-! ## Traced documents -/

/-- Requests are for the root and for definitions. -/
theorem owner_of_mem_requests {request : ClassRequest} (hrequest : request ∈ generation.requests) :
    (request.pointer, request.schema) ∈ owners generation.document generation.definitions ∧
      request.schema.Within generation.document := by
  rcases List.mem_append.mp hrequest with hdefinition | hroot
  · obtain ⟨definition, hmember, hdefinition⟩ := List.mem_filterMap.mp hdefinition
    have hdeclared := Definition.declared_of_mem_collect hmember
    unfold definitionRequest? at hdefinition
    dsimp only at hdefinition
    split at hdefinition
    · obtain rfl := Option.some.inj hdefinition
      exact ⟨List.mem_cons_of_mem _ (List.mem_map_of_mem hmember), hdeclared.within⟩
    · cases hdefinition
  · split at hroot
    · obtain rfl := List.mem_singleton.mp hroot
      exact ⟨List.mem_cons_self, .refl⟩
    · cases hroot

/-- Resolution passes from a good node to good nodes. -/
theorem nodeCases_good (htraced : Traced generation.document generation.definitions)
    (owner : String) (request : ClassRequest) :
    NodeCases generation.generator.context request
      (Good generation.document generation.definitions owner)
      (fun target => ∃ reference, target = generation.targets.find reference ∧
        (isLocalReference reference → Relation.TransGen
          (referenceGraph generation.document generation.definitions).Refers owner reference))
      (fun request => Covered generation.document generation.definitions owner request.schema)
      (fun _ => True) where
  reference _ reference hgood hreference :=
    ⟨reference, rfl, fun hlocal => hgood.reached _ (mem_localReferences hreference hlocal)⟩
  items _ _ _ hgood hitems := hgood.of_collection? hitems
  alternatives _ _ hgood hpart := (hgood.covered.of_alternatives? hpart).1
  patterns node entry hgood hentry := by
    cases hentries : node.patternProperties? with
    | none => simp [hentries] at hentry
    | some entries =>
        rw [hentries, Option.getD_some] at hentry
        exact hgood.of_entry (by simp) (Json.carries_of_members? hentries) hentry
  additional _ _ hgood hpart := hgood.of_get? (Option.filter_eq_some_iff.mp hpart).1 (by decide)
  path _ _ := trivial
  nested _ _ _ _ hgood := hgood.covered
  merged _ _ _ _ _ hgood hmerged :=
    @Covered.mergeAllOf generation.generator.context _ _ _ _ _ htraced hgood.covered hmerged

/-- **In a traced document** the graph of references leads from a request to all its references. -/
theorem reaches_of_traced (htraced : Traced generation.document generation.definitions) :
    generation.Reaches (Relation.TransGen
      (referenceGraph generation.document generation.definitions).Refers) := by
  intro request hrequest emission hemission property hproperty
  obtain ⟨howner, hwithin⟩ := owner_of_mem_requests hrequest
  have hcovered := (htraced.good howner hwithin).covered
  refine ⟨fun own => Covered generation.document generation.definitions request.pointer own.schema,
    fun _ => True, ?_⟩
  refine (Generator.resolved_of_mem_emissions (fun own prepared fields hown hprepare => ?_) hcovered
    hemission).1 property hproperty
  refine Generator.resolved_of_prepare
    (fun own schema _ => nodeCases_good htraced request.pointer { own with schema })
    (fun own merged hown hmerged entry hentry => ?_) hown hprepare
  unfold Generator.mergedSchema at hmerged
  split at hmerged
  · exact (@Covered.mergeAllOf generation.generator.context _ _ _ _ _ htraced hown
      hmerged).properties entry (Json.declares_of_mem hentry)
  · obtain rfl := Except.ok.inj hmerged
    exact hown.properties entry (Json.declares_of_mem hentry)

/-- **Finite size.**  The types of a run without collisions and without existing types have finite
size if and only if no type holds itself that a reference on no reported cycle stands for.  They do
when no reference of the document escapes the graph of references. -/
theorem finiteSize (hrun : generation.run = .ok output) (hexternal : generation.external = [])
    (hfree : CollisionFree output.stats.warnings) :
    (FiniteSize generation.units ↔ ∀ reference ∉ output.stats.cycles.flatten, ∀ path,
        (generation.targets.find reference).path? = some path →
          ¬Relation.TransGen (Holds generation.units) path path) ∧
      (Traced generation.document generation.definitions → FiniteSize generation.units) := by
  have hcycles : output.stats.cycles.flatten = generation.targets.cyclic := by
    obtain ⟨progress, -, hfiles⟩ := bind_eq_ok.mp hrun
    obtain ⟨written, -, hresult⟩ := bind_eq_ok.mp hfiles
    obtain rfl := pure_eq_ok.mp hresult
    rfl
  rw [hcycles]
  refine ⟨⟨fun hfinite _ _ path _ => hfinite path, fun htargets path hcycle => ?_⟩,
    fun htraced path hcycle => ?_⟩
  · exact lt_irrefl _ (position_lt_of_transGen hrun hexternal hfree htargets hcycle hcycle)
  · -- a type that holds itself is later than itself, or its owner is on a cycle not reported
    obtain ⟨next, hnext, -⟩ := Relation.TransGen.head'_iff.mp hcycle
    obtain ⟨owner, final, howner, hfinal, hcases⟩ :=
      owned_of_transGen hrun hexternal hfree (reaches_of_traced htraced) hcycle ⟨next, hnext⟩
    obtain rfl := howner.eq hrun hfree hfinal
    rcases hcases with ⟨-, hlater⟩ | ⟨hrefers, hacyclic⟩
    · exact lt_irrefl _ hlater
    · exact hacyclic (ReferenceGraph.mem_cycles (referenceGraph_spec _ _).1 hrefers)

end Generation

end

namespace Generation

attribute [local instance] Spelling.plain

theorem traced_selfReference : Traced selfReference.document selfReference.definitions where
  plain := {
    keys := by
      simp [selfReference, Json.Carries, Json.members?, Definition.keywords]
    combined := by
      simp [selfReference, Json.Carries, Json.members?, combining] }
  named := by
    have hdefinitions : selfReference.definitions = [] := rfl
    rw [hdefinitions]
    intro owner howner reference target hreference
    obtain rfl := List.mem_singleton.mp howner
    cases hreference

/-- A property that refers to the root around it is boxed. -/
theorem finiteSize_selfReference :
    ∃ output, selfReference.run = .ok output ∧ selfReference.external = [] ∧
      CollisionFree output.stats.warnings ∧ FiniteSize selfReference.units := by
  obtain ⟨output, hrun, hfree⟩ := exists_selfReference
  exact ⟨output, hrun, rfl, hfree, (finiteSize hrun rfl hfree).2 traced_selfReference⟩

/-- A reference to the root under a key that is spelled like a keyword of definitions. -/
def hiddenReference : Generation where
  document := .object [("type", .string "object"),
    ("properties", .object [("definitions", .object [("$ref", .string "#")])])]
  rootName := "Root"

set_option maxRecDepth 10000 in
/-- The reference is not boxed, and the root holds itself. -/
theorem not_finiteSize_hiddenReference :
    ∃ output, hiddenReference.run = .ok output ∧ hiddenReference.external = [] ∧
      CollisionFree output.stats.warnings ∧ ¬FiniteSize hiddenReference.units := by
  have hcheck : hiddenReference.run.toOption.any
      (fun output => decide (CollisionFree output.stats.warnings)) = true := by
    decide +kernel
  have hholds : Holds hiddenReference.units hiddenReference.rootPath hiddenReference.rootPath := by
    decide +kernel
  obtain ⟨output, hrun, hfree⟩ := exists_ok_of_any hcheck
  exact ⟨output, hrun, rfl, of_decide_eq_true hfree, fun hfinite => hfinite _ (.single hholds)⟩

end Generation

end SchemaTypes
