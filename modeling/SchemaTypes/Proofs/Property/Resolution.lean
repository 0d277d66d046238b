import SchemaTypes.Proofs.Outcome
import SchemaTypes.Generation.Realize

/-!
# Induction over resolution

What holds of every resolved property can be shown kind by kind: for each kind of a node, from what
holds of the parts that resolution recurses into.

* `ResolutionStep`: what a node of each kind becomes, given what its parts become.
* `resolutionStep_of_resolveNode`: resolution takes such a step and adds `null`.
* `ResolutionCases`: a relation between nodes and properties that respects every kind.
* `ResolutionCases.of_resolveNode`: such a relation holds of whatever a node is resolved to.
-/

namespace SchemaTypes

open Outcome Resolve

/-- The property with `null`, when the node accepts it. -/
def withNull (context : Context) (node : Json) (property : Property) : Property :=
  if context.lookup.acceptsNull node then property.orNull else property

/-! ## One step -/

variable [Spelling]

/-- What a node becomes before `null` is added, given what its parts have become. -/
inductive ResolutionStep (context : Context) (request : ClassRequest) (key suffix : String)
    (node : Json) (pointer : String) : Property → Prop
  | reference (hkind : node.kind = .reference) :
      ResolutionStep context request key suffix node pointer (referenceProperty context node)
  | intersection {merged} (hkind : node.kind = .intersection)
      (hmerged : mergeAllOf context node pointer = .ok merged) :
      ResolutionStep context request key suffix node pointer
        (.intersection (request.mint key suffix merged pointer))
  | union {alternatives} (hkind : node.kind = .union)
      (halternatives : resolveAlternatives context request key suffix
        (pointer ++ "/" ++ if node.oneOf?.isSome then "oneOf" else "anyOf") 0
        (node.alternatives?.getD []) = .ok alternatives) :
      ResolutionStep context request key suffix node pointer
        (unionProperty (request.pathFor key suffix) (documentation node) alternatives)
  | enumeration {definition} (hkind : node.kind = .enumeration)
      (hdefinition : EnumDefinition.ofSchema node context.options.enumsSupported =
        .ok definition) :
      ResolutionStep context request key suffix node pointer
        (.enumeration ⟨request.pathFor key suffix, definition, documentation node⟩)
  | dateTime (hkind : node.kind = .dateTime) :
      ResolutionStep context request key suffix node pointer (.scalar .dateTime)
  | string (hkind : node.kind = .string) :
      ResolutionStep context request key suffix node pointer (.scalar .string)
  | primitive (hkind : node.kind = .primitive) :
      ResolutionStep context request key suffix node pointer (.scalar (.ofPrimitive node))
  | collection {container items item}
      (hkind : node.kind = .objectArray ∨ node.kind = .primitiveArray)
      (hcollection : node.collection? = some (container, items))
      (hitem : resolveNode context request key (suffix ++ "Item") items
        (pointer ++ "/" ++ container.itemsKeyword) = .ok item) :
      ResolutionStep context request key suffix node pointer
        (.collection (if node.isObjectArrayKind then .object else .primitive) container item)
  | nestedObject (hkind : node.kind = .nestedObject) :
      ResolutionStep context request key suffix node pointer
        (.nestedObject (request.mint key suffix node pointer))
  | dynamic {patterned others} (hkind : node.kind = .dynamic)
      (hpatterned : resolveBranches context request key suffix (pointer ++ "/patternProperties") 1
        (node.patternProperties?.getD []) = .ok patterned)
      (hothers : others = [] ∨ ∃ additional own, node.additionalProperties? = some additional ∧
        resolveNode context request key (suffix ++ "Additional") additional
          (pointer ++ "/additionalProperties") = .ok own ∧
        others = [⟨"Additional", none, own⟩]) :
      ResolutionStep context request key suffix node pointer
        (.dynamic (request.pathFor key (suffix ++ "Entry")) (patterned ++ others))
  | mixed (hkind : node.kind = .mixed) :
      ResolutionStep context request key suffix node pointer .mixed

section

variable {context : Context} {request : ClassRequest} {key suffix pointer : String} {node : Json}
  {property : Property}

/-- **Resolution takes a step** of the node's kind, and adds `null` to what this gives. -/
theorem resolutionStep_of_resolveNode
    (hresult : resolveNode context request key suffix node pointer = .ok property) :
    ∃ own, ResolutionStep context request key suffix node pointer own ∧
      withNull context node own = property := by
  have hdone : ∀ {own}, ResolutionStep context request key suffix node pointer own →
      (pure (if context.lookup.acceptsNull node then own.orNull else own) :
        Except GenerationError Property) = .ok property →
      ∃ own, ResolutionStep context request key suffix node pointer own ∧
        withNull context node own = property :=
    fun hown hsame => ⟨_, hown, pure_eq_ok.mp hsame⟩
  rw [resolveNode] at hresult
  generalize hkind : node.kind = kind at hresult
  cases kind with
  | reference => exact hdone (.reference hkind) hresult
  | intersection =>
      obtain ⟨merged, hmerged, hresult⟩ := bind_eq_ok.mp hresult
      exact hdone (.intersection hkind hmerged) hresult
  | union =>
      dsimp only at hresult
      split at hresult
      · rename_i nodes hnodes
        obtain ⟨alternatives, halternatives, hresult⟩ := bind_eq_ok.mp hresult
        exact hdone (.union hkind (by rwa [hnodes])) hresult
      · rename_i hnone
        have halternatives : resolveAlternatives context request key suffix
            (pointer ++ "/" ++ if node.oneOf?.isSome then "oneOf" else "anyOf") 0
            (node.alternatives?.getD []) = .ok [] := by
          rw [hnone, Option.getD_none, resolveAlternatives]
          rfl
        exact hdone (.union hkind halternatives) hresult
  | enumeration =>
      dsimp only at hresult
      split at hresult
      · exact hdone (.enumeration hkind ‹_›) hresult
      · cases hresult
  | dateTime => exact hdone (.dateTime hkind) hresult
  | string => exact hdone (.string hkind) hresult
  | objectArray | primitiveArray =>
      have harray : node.kind = .objectArray ∨ node.kind = .primitiveArray := by simp [hkind]
      dsimp only at hresult
      split at hresult
      · obtain ⟨item, hitem, hresult⟩ := bind_eq_ok.mp hresult
        exact hdone (.collection harray ‹_› hitem) hresult
      · cases hresult
  | primitive => exact hdone (.primitive hkind) hresult
  | nestedObject => exact hdone (.nestedObject hkind) hresult
  | dynamic =>
      -- patterns and the remaining keys are each there or not
      dsimp only at hresult
      split at hresult
      · rename_i entries hentries
        obtain ⟨patterned, hpatterned, hresult⟩ := bind_eq_ok.mp hresult
        have hresolved : resolveBranches context request key suffix
            (pointer ++ "/patternProperties") 1 (node.patternProperties?.getD []) =
              .ok patterned := by
          rwa [hentries]
        split at hresult
        · obtain ⟨own, hown, hresult⟩ := bind_eq_ok.mp hresult
          exact hdone (.dynamic hkind hresolved (.inr ⟨_, own, ‹_›, hown, rfl⟩)) hresult
        · exact hdone (.dynamic hkind hresolved (.inl rfl)) hresult
      · rename_i hentries
        obtain ⟨patterned, hnone, hresult⟩ := bind_eq_ok.mp hresult
        have hresolved : resolveBranches context request key suffix
            (pointer ++ "/patternProperties") 1 (node.patternProperties?.getD []) =
              .ok patterned := by
          rwa [hentries, Option.getD_none, resolveBranches]
        split at hresult
        · obtain ⟨own, hown, hresult⟩ := bind_eq_ok.mp hresult
          exact hdone (.dynamic hkind hresolved (.inr ⟨_, own, ‹_›, hown, rfl⟩)) hresult
        · exact hdone (.dynamic hkind hresolved (.inl rfl)) hresult
  | mixed => exact hdone (.mixed hkind) hresult

omit [Spelling] in
theorem Json.sizeOf_lt_of_mem_alternatives {part : Json}
    (hpart : part ∈ node.alternatives?.getD []) : sizeOf part < sizeOf node := by
  cases hnodes : node.alternatives? with
  | none =>
      rw [hnodes] at hpart
      cases hpart
  | some nodes =>
      rw [hnodes, Option.getD_some] at hpart
      exact lt_trans (List.sizeOf_lt_of_mem hpart) (sizeOf_lt_of_alternatives? hnodes)

omit [Spelling] in
theorem Json.sizeOf_lt_of_mem_patternProperties {entry : String × Json}
    (hentry : entry ∈ node.patternProperties?.getD []) : sizeOf entry.2 < sizeOf node := by
  cases hentries : node.patternProperties? with
  | none =>
      rw [hentries] at hentry
      cases hentry
  | some entries =>
      rw [hentries, Option.getD_some] at hentry
      have hsmaller := sizeOf_lt_of_patternProperties? hentries
      have hmem := List.sizeOf_lt_of_mem hentry
      have hsize : sizeOf entry = 1 + sizeOf entry.1 + sizeOf entry.2 := rfl
      omega

end

/-! ## Every kind -/

/-- A relation between nodes and their properties that every step of resolution respects. -/
structure ResolutionCases (context : Context) (request : ClassRequest) (key : String)
    (relation : Json → Property → Prop) : Prop where
  null : ∀ node property, relation node property → relation node (withNull context node property)
  reference : ∀ node, node.kind = .reference → relation node (referenceProperty context node)
  intersection : ∀ node suffix merged pointer, node.kind = .intersection →
    mergeAllOf context node pointer = .ok merged →
    relation node (.intersection (request.mint key suffix merged pointer))
  union : ∀ node suffix alternatives, node.kind = .union →
    (∀ alternative ∈ alternatives, ∃ part ∈ node.alternatives?.getD [],
      relation part alternative.property) →
    relation node (unionProperty (request.pathFor key suffix) (documentation node) alternatives)
  enumeration : ∀ node suffix definition, node.kind = .enumeration →
    EnumDefinition.ofSchema node context.options.enumsSupported = .ok definition →
    relation node (.enumeration ⟨request.pathFor key suffix, definition, documentation node⟩)
  scalar : ∀ node kind, relation node (.scalar kind)
  collection : ∀ node kind container items item, kind ≠ .reference →
    node.collection? = some (container, items) → relation items item →
    relation node (.collection kind container item)
  nestedObject : ∀ node suffix pointer, node.kind = .nestedObject →
    relation node (.nestedObject (request.mint key suffix node pointer))
  dynamic : ∀ node suffix branches, node.kind = .dynamic →
    (∀ branch ∈ branches,
      (∃ entry ∈ node.patternProperties?.getD [], relation entry.2 branch.property) ∨
        ∃ additional, node.additionalProperties? = some additional ∧
          relation additional branch.property) →
    relation node (.dynamic (request.pathFor key suffix) branches)
  mixed : ∀ node, relation node .mixed

namespace ResolutionCases

variable {context : Context} {request : ClassRequest} {key : String}
  {relation : Json → Property → Prop}

/-- The parts that a list of alternatives resolves are nodes of the list. -/
theorem of_resolveAlternatives {suffix pointer : String} {index : Nat} {nodes : List Json}
    (hnodes : ∀ node ∈ nodes, ∀ suffix pointer property,
      resolveNode context request key suffix node pointer = .ok property → relation node property)
    {alternatives : List (Alternative Property)}
    (hresult : resolveAlternatives context request key suffix pointer index nodes =
      .ok alternatives) :
    ∀ alternative ∈ alternatives, ∃ part ∈ nodes, relation part alternative.property := by
  induction nodes generalizing index alternatives with
  | nil =>
      rw [resolveAlternatives] at hresult
      obtain rfl := pure_eq_ok.mp hresult
      simp
  | cons node rest ih =>
      rw [List.forall_mem_cons] at hnodes
      have hlater : ∀ {others : List (Alternative Property)},
          resolveAlternatives context request key suffix pointer (index + 1) rest = .ok others →
          ∀ alternative ∈ others, ∃ part ∈ node :: rest, relation part alternative.property := by
        intro others hothers alternative halternative
        obtain ⟨part, hpart, hrelation⟩ := ih hnodes.2 hothers alternative halternative
        exact ⟨part, List.mem_cons_of_mem _ hpart, hrelation⟩
      rw [resolveAlternatives] at hresult
      -- alternatives for null are left out
      by_cases hnull : node.isNullSchema
      · rw [if_pos hnull] at hresult
        exact hlater hresult
      · rw [if_neg hnull] at hresult
        obtain ⟨property, hproperty, hresult⟩ := bind_eq_ok.mp hresult
        obtain ⟨others, hothers, hresult⟩ := bind_eq_ok.mp hresult
        obtain rfl := pure_eq_ok.mp hresult
        rw [List.forall_mem_cons]
        exact ⟨⟨node, List.mem_cons_self, hnodes.1 _ _ _ hproperty⟩, hlater hothers⟩

/-- The parts that a list of branches resolves are entries of the list. -/
theorem of_resolveBranches {suffix pointer : String} {number : Nat} {entries : List (String × Json)}
    (hentries : ∀ entry ∈ entries, ∀ suffix pointer property,
      resolveNode context request key suffix entry.2 pointer = .ok property →
        relation entry.2 property)
    {branches : List (Branch Property)}
    (hresult : resolveBranches context request key suffix pointer number entries =
      .ok branches) :
    ∀ branch ∈ branches, ∃ entry ∈ entries, relation entry.2 branch.property := by
  induction entries generalizing number branches with
  | nil =>
      rw [resolveBranches] at hresult
      obtain rfl := pure_eq_ok.mp hresult
      simp
  | cons entry rest ih =>
      obtain ⟨pattern, node⟩ := entry
      rw [List.forall_mem_cons] at hentries
      rw [resolveBranches] at hresult
      obtain ⟨property, hproperty, hresult⟩ := bind_eq_ok.mp hresult
      obtain ⟨others, hothers, hresult⟩ := bind_eq_ok.mp hresult
      obtain rfl := pure_eq_ok.mp hresult
      rw [List.forall_mem_cons]
      refine ⟨⟨_, List.mem_cons_self, hentries.1 _ _ _ hproperty⟩, fun branch hbranch => ?_⟩
      obtain ⟨part, hpart, hrelation⟩ := ih hentries.2 hothers branch hbranch
      exact ⟨part, List.mem_cons_of_mem _ hpart, hrelation⟩

/-- **Induction over resolution.**  A relation that respects every step holds of a node and what it
is resolved to. -/
theorem of_resolveNode (hcases : ResolutionCases context request key relation)
    {suffix pointer : String} {node : Json} {property : Property}
    (hresult : resolveNode context request key suffix node pointer = .ok property) :
    relation node property := by
  induction hsize : sizeOf node using Nat.strong_induction_on
    generalizing suffix pointer node property with
  | _ size ih =>
  subst hsize
  obtain ⟨own, hstep, rfl⟩ := resolutionStep_of_resolveNode hresult
  apply hcases.null
  cases hstep with
  | reference hkind => exact hcases.reference node hkind
  | intersection hkind hmerged =>
      exact hcases.intersection node suffix _ pointer hkind hmerged
  | union hkind halternatives =>
      refine hcases.union node suffix _ hkind (of_resolveAlternatives ?_ halternatives)
      exact fun part hpart _ _ _ hproperty =>
        ih _ (Json.sizeOf_lt_of_mem_alternatives hpart) hproperty rfl
  | enumeration hkind hdefinition => exact hcases.enumeration node suffix _ hkind hdefinition
  | dateTime hkind => exact hcases.scalar node _
  | string hkind => exact hcases.scalar node _
  | primitive hkind => exact hcases.scalar node _
  | collection hkind hcollection hitem =>
      -- arrays of references are of another kind, which is dealt with above
      have hreference :
          (if node.isObjectArrayKind then CollectionKind.object else .primitive) ≠ .reference := by
        split <;> decide
      exact hcases.collection node _ _ _ _ hreference hcollection
        (ih _ (Json.sizeOf_lt_of_collection? hcollection) hitem rfl)
  | nestedObject hkind => exact hcases.nestedObject node suffix pointer hkind
  | dynamic hkind hpatterned hothers =>
      refine hcases.dynamic node _ _ hkind fun branch hbranch => ?_
      rcases List.mem_append.mp hbranch with hbranch | hbranch
      · left
        refine of_resolveBranches (fun entry hentry _ _ _ hproperty => ?_) hpatterned branch hbranch
        exact ih _ (Json.sizeOf_lt_of_mem_patternProperties hentry) hproperty rfl
      · right
        rcases hothers with rfl | ⟨additional, own, hfound, hown, rfl⟩
        · cases hbranch
        · obtain rfl := List.mem_singleton.mp hbranch
          exact ⟨additional, hfound,
            ih _ (Json.sizeOf_lt_of_additionalProperties? hfound) hown rfl⟩
  | mixed hkind => exact hcases.mixed node

end ResolutionCases

/-! ## Fields -/

omit [Spelling] in
/-- A property is decorated as it is or, when it accepts `null`, without `null`. -/
theorem FieldProperty.inner_decorate (property : Property) (required : Bool)
    (default : Option Json) (nullableDefaults : Bool) :
    property = (decorate property required default nullableDefaults).inner ∨
      property = .nullable (decorate property required default nullableDefaults).inner := by
  unfold decorate
  cases required with
  | true => exact .inl rfl
  | false =>
      cases property with
      | nullable inner =>
          right
          dsimp only
          rw [if_neg (by simp)]
          split
          · rfl
          · split <;> rfl
      | _ =>
          left
          dsimp only
          rw [if_neg (by simp)]
          split
          · rfl
          · split <;> rfl

/-- The fields of a struct are the properties of its schema, each decorated by its presence. -/
theorem exists_entry_of_resolveFields {generator : Generator} {request : ClassRequest}
    {fields : List ResolvedField} (hfields : generator.resolveFields request = .ok fields)
    {field : ResolvedField} (hfield : field ∈ fields) :
    ∃ entry ∈ request.schema.properties?.getD [], ∃ pointer property,
      resolveNode generator.context request entry.1 "" entry.2 pointer = .ok property ∧
        .decorate property ((request.schema.requiredKeys).contains entry.1) entry.2.defaultValue?
          generator.context.options.treatDefaultedAsOptional = field.property := by
  obtain ⟨entry, hentry, hresolved⟩ := exists_of_mem_mapM hfields hfield
  obtain ⟨decorated, hdecorated, hresult⟩ := bind_eq_ok.mp hresolved
  obtain rfl := pure_eq_ok.mp hresult
  obtain ⟨property, hproperty, hresult⟩ := bind_eq_ok.mp hdecorated
  exact ⟨entry, hentry, _, property, hproperty, pure_eq_ok.mp hresult⟩

/-- Induction over the resolution of the fields of a struct. -/
theorem exists_of_resolveFields {generator : Generator} {request : ClassRequest}
    {relation : Json → Property → Prop}
    (hcases : ∀ key, ResolutionCases generator.context request key relation)
    (hinner : ∀ node inner, relation node (.nullable inner) → relation node inner)
    {fields : List ResolvedField} (hfields : generator.resolveFields request = .ok fields)
    {field : ResolvedField} (hfield : field ∈ fields) :
    ∃ entry ∈ request.schema.properties?.getD [], relation entry.2 field.property.inner := by
  obtain ⟨entry, hentry, pointer, property, hproperty, hsame⟩ :=
    exists_entry_of_resolveFields hfields hfield
  refine ⟨entry, hentry, ?_⟩
  rw [← hsame]
  have hrelation := (hcases entry.1).of_resolveNode hproperty
  rcases FieldProperty.inner_decorate property
    ((request.schema.requiredKeys).contains entry.1) entry.2.defaultValue?
    generator.context.options.treatDefaultedAsOptional with hinside | hinside
  · exact hinside ▸ hrelation
  · exact hinner _ _ (hinside ▸ hrelation)

end SchemaTypes
