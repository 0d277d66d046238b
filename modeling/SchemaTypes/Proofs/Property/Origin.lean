import SchemaTypes.Proofs.Generation.Emission
import SchemaTypes.Proofs.Property.Resolution
import SchemaTypes.Proofs.Schema.Kind
import SchemaTypes.Proofs.Schema.Position

/-!
# Where requests and failures come from

Resolving a node resolves some of its parts, each with a pointer of its own.  Every struct that is
requested along the way is requested for one of the nodes that are reached, under the pointer that
the node has been reached with, and so is every failure.

* `Site.Part`: the parts that resolution goes on to, and the pointers it gives them.
* `Site.Requests`: a struct that is requested for a node.
* `Site.Refuses`: a node that cannot be resolved.
* `Site.ends_union`, `Site.ends_dynamic`: kinds with parts, from what is known of the parts.
* `Site.ends_resolveNode`: requests and failures of resolving a node.
-/

namespace SchemaTypes

open Outcome Resolve

namespace Site

/-- Resolving a node goes on to a part of it. -/
inductive Part : Site → Site → Prop
  | items {site : Site} {container items}
      (hkind : site.node.kind = .objectArray ∨ site.node.kind = .primitiveArray)
      (hitems : site.node.collection? = some (container, items)) :
      Part site ⟨items, site.pointer ++ "/" ++ container.itemsKeyword⟩
  | alternative {site : Site} {nodes : List Json} {index : Nat} {node : Json}
      (hkind : site.node.kind = .union) (hnodes : site.node.alternatives? = some nodes)
      (hnode : nodes[index]? = some node) (hnull : ¬node.isNullSchema) :
      Part site ⟨node, site.pointer ++ "/" ++
        (if site.node.oneOf?.isSome then "oneOf" else "anyOf") ++ "/" ++ toString index⟩
  | pattern {site : Site} {entries pattern node} (hkind : site.node.kind = .dynamic)
      (hentries : site.node.patternProperties? = some entries)
      (hentry : (pattern, node) ∈ entries) :
      Part site ⟨node, Pointer.child (site.pointer ++ "/patternProperties") pattern⟩
  | additional {site : Site} {node} (hkind : site.node.kind = .dynamic)
      (hnode : site.node.additionalProperties? = some node) :
      Part site ⟨node, site.pointer ++ "/additionalProperties"⟩

/-- A node is the one that is resolved, or a part that resolution reaches. -/
abbrev Reaches : Site → Site → Prop := Relation.ReflTransGen Part

/-- The struct is requested for the node. -/
inductive Requests (context : Context) (site : Site) (request : ClassRequest) : Prop
  | nestedObject (hkind : site.node.kind = .nestedObject) (hschema : request.schema = site.node)
      (hpointer : request.pointer = site.pointer)
  | intersection (hkind : site.node.kind = .intersection)
      (hschema : mergeAllOf context site.node site.pointer = .ok request.schema)
      (hpointer : request.pointer = site.pointer)

/-- The node cannot be resolved. -/
inductive Refuses [Spelling] (context : Context) (site : Site) : GenerationError → Prop
  | enumeration {fault} (hkind : site.node.kind = .enumeration)
      (hfault : EnumDefinition.ofSchema site.node context.options.enumsSupported = .error fault) :
      Refuses context site (.enumeration site.pointer fault)
  | intersection {error} (hkind : site.node.kind = .intersection)
      (herror : mergeAllOf context site.node site.pointer = .error error) :
      Refuses context site error

/-- Every struct that the property needs is requested for a node that is reached. -/
def Yields (context : Context) (site : Site) (property : Property) : Prop :=
  ∀ request, .struct request ∈ property.needed →
    ∃ origin, site.Reaches origin ∧ origin.Requests context request

/-- The failure is that of a node that is reached. -/
def Fails [Spelling] (context : Context) (site : Site) (error : GenerationError) : Prop :=
  ∃ origin, site.Reaches origin ∧ origin.Refuses context error

variable {context : Context} {site part : Site} {property : Property}

theorem Part.yields (hpart : site.Part part) (hproperty : part.Yields context property) :
    site.Yields context property := by
  intro request hrequest
  obtain ⟨origin, horigin, hrequests⟩ := hproperty request hrequest
  exact ⟨origin, .head hpart horigin, hrequests⟩

theorem Part.fails [Spelling] (hpart : site.Part part) {error : GenerationError}
    (herror : part.Fails context error) : site.Fails context error := by
  obtain ⟨origin, horigin, hrefuses⟩ := herror
  exact ⟨origin, .head hpart horigin, hrefuses⟩

theorem yields_of_not_mem (hproperty : ∀ request, .struct request ∉ property.needed) :
    site.Yields context property :=
  fun request hrequest => absurd hrequest (hproperty request)

theorem yields_of_request {request : ClassRequest} (hproperty : property.needed = [.struct request])
    (hrequests : site.Requests context request) : site.Yields context property := by
  intro other hother
  rw [hproperty, List.mem_singleton] at hother
  cases hother
  exact ⟨site, .refl, hrequests⟩

end Site

theorem Property.needed_orNull (property : Property) :
    property.orNull.needed = property.needed := by
  unfold Property.orNull
  split
  · rfl
  · rfl

theorem Property.needed_withNull (context : Context) (node : Json) (property : Property) :
    (withNull context node property).needed = property.needed := by
  unfold withNull
  split
  · exact needed_orNull property
  · rfl

theorem needed_referenceProperty (context : Context) (node : Json) :
    (referenceProperty context node).needed = [] := by
  unfold referenceProperty
  split
  · rfl
  · split
    · split
      · dsimp only
        split
        · exact Property.needed_orNull _
        · rfl
      · rfl
    · rfl

namespace Site

variable {context : Context} {request : ClassRequest} {key : String}

theorem yields_unionProperty {site : Site} {path : TypePath} {docs : Documentation}
    {alternatives : List (Alternative Property)}
    (halternatives : ∀ alternative ∈ alternatives, site.Yields context alternative.property) :
    site.Yields context (unionProperty path docs alternatives) := by
  unfold unionProperty
  split
  · exact yields_of_not_mem fun _ => List.not_mem_nil
  · split
    · exact yields_of_not_mem fun _ => List.not_mem_nil
    · intro request hrequest
      rw [Property.needed, neededByAlternatives_eq] at hrequest
      obtain ⟨alternative, halternative, hneeded⟩ :=
        List.mem_flatMap.mp ((List.mem_cons.mp hrequest).resolve_left nofun)
      exact halternatives alternative halternative request hneeded

theorem yields_dynamic {site : Site} {path : TypePath} {branches : List (Branch Property)}
    (hbranches : ∀ branch ∈ branches, site.Yields context branch.property) :
    site.Yields context (.dynamic path branches) := by
  intro request hrequest
  rw [Property.needed, neededByBranches_eq] at hrequest
  obtain ⟨branch, hbranch, hneeded⟩ :=
    List.mem_flatMap.mp ((List.mem_cons.mp hrequest).resolve_left nofun)
  exact hbranches branch hbranch request hneeded

/-- Alternatives are resolved one after the other, at their positions. -/
theorem ends_resolveAlternatives [Spelling] {success : Property → Prop}
    {failure : GenerationError → Prop} {suffix pointer : String} {index : Nat} {nodes : List Json}
    (hnodes : ∀ offset node, nodes[offset]? = some node → ¬node.isNullSchema → ∀ suffix,
      Ends (resolveNode context request key suffix node
        (pointer ++ "/" ++ toString (index + offset))) success failure) :
    Ends (resolveAlternatives context request key suffix pointer index nodes)
      (fun alternatives => ∀ alternative ∈ alternatives, success alternative.property) failure := by
  induction nodes generalizing index with
  | nil =>
      rw [resolveAlternatives]
      exact .of_ok (List.forall_mem_nil _)
  | cons node rest ih =>
      have hrest := @ih (index + 1) fun offset other hother => by
        rw [Nat.add_assoc, Nat.add_comm 1]
        exact hnodes (offset + 1) other hother
      rw [resolveAlternatives]
      by_cases hnull : node.isNullSchema
      · rw [if_pos hnull]
        exact hrest
      · rw [if_neg hnull]
        refine (hnodes 0 node rfl hnull _).bind fun property _ hproperty =>
          hrest.bind fun others _ hothers => .of_ok ?_
        rw [List.forall_mem_cons]
        exact ⟨hproperty, hothers⟩

/-- Branches are resolved one after the other, under their patterns. -/
theorem ends_resolveBranches [Spelling] {success : Property → Prop}
    {failure : GenerationError → Prop} {suffix pointer : String} {number : Nat}
    {entries : List (String × Json)}
    (hentries : ∀ entry ∈ entries, ∀ suffix,
      Ends (resolveNode context request key suffix entry.2 (Pointer.child pointer entry.1))
        success failure) :
    Ends (resolveBranches context request key suffix pointer number entries)
      (fun branches => ∀ branch ∈ branches, success branch.property) failure := by
  induction entries generalizing number with
  | nil =>
      rw [resolveBranches]
      exact .of_ok (List.forall_mem_nil _)
  | cons entry rest ih =>
      obtain ⟨pattern, node⟩ := entry
      rw [List.forall_mem_cons] at hentries
      rw [resolveBranches]
      refine (hentries.1 _).bind fun property _ hproperty =>
        (ih hentries.2).bind fun others _ hothers => .of_ok ?_
      rw [List.forall_mem_cons]
      exact ⟨hproperty, hothers⟩

/-! ## Kinds with parts

What the parts ask for, and how they fail, is what a node with these parts asks for and how it
fails.
-/

section

variable {suffix pointer : String} {node : Json}

theorem Part.sizeOf_lt {site part : Site} (hpart : site.Part part) :
    sizeOf part.node < sizeOf site.node := by
  cases hpart with
  | items hkind hitems => exact Json.sizeOf_lt_of_collection? hitems
  | alternative hkind hnodes hnode hnull =>
      apply Json.sizeOf_lt_of_mem_alternatives
      rw [hnodes]
      exact List.mem_of_getElem? hnode
  | @pattern entries pattern node hkind hentries hentry =>
      have hmem : (pattern, node) ∈ site.node.patternProperties?.getD [] := by
        rw [hentries]
        exact hentry
      exact Json.sizeOf_lt_of_mem_patternProperties hmem
  | additional hkind hnode => exact Json.sizeOf_lt_of_additionalProperties? hnode

variable [Spelling]

/-- With `null`, a property needs what it needs without. -/
theorem ends_withNull {own : Property} (hown : Yields context ⟨node, pointer⟩ own) :
    Ends (pure (withNull context node own) : Except GenerationError Property)
      (Yields context ⟨node, pointer⟩) (Fails context ⟨node, pointer⟩) := by
  refine .of_ok fun nested hnested => ?_
  rw [Property.needed_withNull] at hnested
  exact hown nested hnested

variable (hparts : ∀ {part : Site} (suffix : String), Part ⟨node, pointer⟩ part →
  Ends (resolveNode context request key suffix part.node part.pointer)
    (Yields context ⟨node, pointer⟩) (Fails context ⟨node, pointer⟩))

include hparts

theorem ends_union (hkind : node.kind = .union) :
    Ends (resolveNode context request key suffix node pointer)
      (Yields context ⟨node, pointer⟩) (Fails context ⟨node, pointer⟩) := by
  rw [resolveNode]
  simp only [hkind]
  split
  · rename_i nodes hnodes
    refine (ends_resolveAlternatives fun index part hindex hnull _ => ?_).bind
      fun alternatives _ halternatives => ends_withNull (yields_unionProperty halternatives)
    rw [Nat.zero_add]
    exact hparts _ (.alternative hkind hnodes hindex hnull)
  · exact ends_withNull (yields_unionProperty (List.forall_mem_nil _))

/-- Patterns and the remaining keys are each there or not. -/
theorem ends_dynamic (hkind : node.kind = .dynamic) :
    Ends (resolveNode context request key suffix node pointer)
      (Yields context ⟨node, pointer⟩) (Fails context ⟨node, pointer⟩) := by
  have hclose : ∀ {patterned others : List (Branch Property)},
      (∀ branch ∈ patterned, Yields context ⟨node, pointer⟩ branch.property) →
      (∀ branch ∈ others, Yields context ⟨node, pointer⟩ branch.property) →
      Yields context ⟨node, pointer⟩
        (.dynamic (request.pathFor key (suffix ++ "Entry")) (patterned ++ others)) :=
    fun hpatterned hothers => yields_dynamic (List.forall_mem_append.mpr ⟨hpatterned, hothers⟩)
  rw [resolveNode]
  simp only [hkind]
  split
  · rename_i entries hentries
    refine (ends_resolveBranches fun entry hentry _ =>
      hparts _ (.pattern hkind hentries hentry)).bind fun patterned _ hpatterned => ?_
    split
    · rename_i additional hfound
      exact (hparts _ (.additional hkind hfound)).bind fun own _ hown =>
        ends_withNull (hclose hpatterned (List.forall_mem_singleton.mpr hown))
    · exact ends_withNull (hclose hpatterned (List.forall_mem_nil _))
  · split
    · rename_i additional hfound
      exact (hparts _ (.additional hkind hfound)).bind fun own _ hown =>
        ends_withNull (hclose (List.forall_mem_nil _) (List.forall_mem_singleton.mpr hown))
    · exact ends_withNull (hclose (List.forall_mem_nil _) (List.forall_mem_nil _))

end

/-- **Requests and failures.**  The structs that a resolved property needs are requested for nodes
that resolution reaches, and a failure is that of such a node. -/
theorem ends_resolveNode [Spelling] {suffix pointer : String} {node : Json} :
    Ends (resolveNode context request key suffix node pointer)
      (Yields context ⟨node, pointer⟩) (Fails context ⟨node, pointer⟩) := by
  induction hsize : sizeOf node using Nat.strong_induction_on
    generalizing suffix pointer node with
  | _ size ih =>
  subst hsize
  -- what a part yields or fails with is yielded or failed with inside the node
  have hparts : ∀ {part : Site} (suffix : String), Part ⟨node, pointer⟩ part →
      Ends (resolveNode context request key suffix part.node part.pointer)
        (Yields context ⟨node, pointer⟩) (Fails context ⟨node, pointer⟩) := by
    intro part suffix hpart
    exact (ih _ hpart.sizeOf_lt rfl).mono (fun _ => hpart.yields) (fun _ => hpart.fails)
  cases hkind : node.kind with
  | union => exact ends_union hparts hkind
  | dynamic => exact ends_dynamic hparts hkind
  | objectArray | primitiveArray =>
      have harray : node.kind = .objectArray ∨ node.kind = .primitiveArray := by simp [hkind]
      rw [resolveNode]
      simp only [hkind]
      split
      · rename_i container items hitems
        exact (hparts _ (.items harray hitems)).bind fun item _ hitem => ends_withNull hitem
      · rename_i hnone
        -- the kind is that of an array, so there are items
        have hsome := Json.isSome_collection?_of_kind harray
        rw [hnone] at hsome
        cases hsome
  | intersection =>
      have hmerge : Ends (mergeAllOf context node pointer)
          (fun merged => mergeAllOf context node pointer = .ok merged)
          (Fails context ⟨node, pointer⟩) :=
        ⟨fun _ => id, fun _ herror => ⟨_, .refl, .intersection hkind herror⟩⟩
      rw [resolveNode]
      simp only [hkind]
      refine hmerge.bind fun merged _ hmerged => ends_withNull ?_
      exact yields_of_request rfl (.intersection hkind hmerged rfl)
  | enumeration =>
      rw [resolveNode]
      simp only [hkind]
      split
      · refine ends_withNull (yields_of_not_mem fun nested hnested => ?_)
        cases List.mem_singleton.mp hnested
      · rename_i fault hfault
        exact .of_error ⟨_, .refl, .enumeration hkind hfault⟩
  | nestedObject =>
      rw [resolveNode]
      simp only [hkind]
      exact ends_withNull (yields_of_request rfl (.nestedObject hkind rfl rfl))
  | reference =>
      rw [resolveNode]
      simp only [hkind]
      refine ends_withNull (yields_of_not_mem fun nested => ?_)
      rw [needed_referenceProperty]
      exact List.not_mem_nil
  | dateTime | string | primitive | mixed =>
      rw [resolveNode]
      simp only [hkind]
      exact ends_withNull (yields_of_not_mem fun _ => List.not_mem_nil)

/-! ## Pointers of parts -/

/-- Indices are their own tokens. -/
theorem descendant_index {keyword : String} (hplain : Pointer.escapeToken keyword = keyword)
    (pointer : String) (index : Nat) :
    Pointer.descendant pointer [keyword, toString index] =
      pointer ++ "/" ++ keyword ++ "/" ++ toString index := by
  rw [← Pointer.descendant_plain hplain,
    ← Pointer.descendant_plain (Pointer.escapeToken_toString index)]
  rfl

variable {document : Json} {site inner : Site}

/-- **Parts are schemas** at the positions that their pointers tell, unless an array has no schema
for its items: then anything is resolved in its place. -/
theorem IsIn.of_part (hmemory : document.InMemory) (hsite : site.IsIn document)
    (hpart : site.Part inner) : inner.IsIn document ∨ inner.node = .object [] := by
  have hkeyword : ∀ {keyword}, Pointer.escapeToken keyword = keyword →
      Pointer.descendant site.pointer [keyword] = site.pointer ++ ("/" ++ keyword) := by
    intro keyword hplain
    rw [Pointer.descendant_plain hplain, String.append_assoc]
  have hadditional : ∀ {node}, site.node.additionalProperties? = some node →
      IsIn document ⟨node, site.pointer ++ "/additionalProperties"⟩ := by
    intro node hfound
    obtain ⟨hget, -⟩ := Option.filter_eq_some_iff.mp hfound
    have hin := hsite.part (by decide) hget
    rwa [hkeyword (by decide)] at hin
  cases hpart with
  | @items container items hkind hitems =>
      unfold Json.collection? at hitems
      split at hitems
      · cases hitems
        unfold Json.listItems
        cases hfound : (site.node.get? "items").filter Json.isObject with
        | none => exact .inr rfl
        | some items =>
            obtain ⟨hget, -⟩ := Option.filter_eq_some_iff.mp hfound
            have hin := hsite.part (by decide) hget
            rw [Pointer.descendant_plain (by decide)] at hin
            exact .inl hin
      · split at hitems
        · obtain ⟨additional, hfound, hsame⟩ := Option.map_eq_some_iff.mp hitems
          cases hsame
          rw [String.append_assoc]
          exact .inl (hadditional hfound)
        · cases hitems
  | @alternative nodes index node hkind hnodes hindex hnull =>
      left
      unfold Json.alternatives? at hnodes
      -- `anyOf` counts only where there is no `oneOf`
      cases hone : site.node.oneOf? with
      | some own =>
          rw [hone] at hnodes
          obtain rfl := Option.some.inj hnodes
          have hin := hsite.alternative (by decide) hone hindex
          rw [descendant_index (by decide)] at hin
          exact hin
      | none =>
          rw [hone] at hnodes
          have hin := hsite.alternative (by decide) hnodes hindex
          rw [descendant_index (by decide)] at hin
          exact hin
  | @pattern entries pattern node hkind hentries hentry =>
      left
      have hsame : site.node.entries "patternProperties" = entries :=
        congrArg (·.getD []) hentries
      have hin := hsite.entry hmemory (by decide) (hsame ▸ hentry)
      have hpointer : site.pointer ++ "/patternProperties" =
          Pointer.descendant site.pointer ["patternProperties"] :=
        (@hkeyword "patternProperties" (by decide)).symm
      rw [hpointer]
      exact hin
  | @additional node hkind hfound => exact .inl (hadditional hfound)

theorem Part.kind_ne_mixed (hpart : site.Part inner) : site.node.kind ≠ .mixed := by
  intro hmixed
  cases hpart with
  | items hkind => rcases hkind with hkind | hkind <;> exact absurd (hmixed.symm.trans hkind) nofun
  | alternative hkind | pattern hkind | additional hkind =>
      exact absurd (hmixed.symm.trans hkind) nofun

theorem IsIn.of_reaches (hmemory : document.InMemory) (hsite : site.IsIn document)
    (hreaches : site.Reaches inner) : inner.IsIn document ∨ inner.node = .object [] := by
  induction hreaches with
  | refl => exact .inl hsite
  | tail _ hpart ih =>
      rcases ih with hin | hanything
      · exact hin.of_part hmemory hpart
      · -- anything is resolved without going further
        exact absurd (hanything ▸ rfl) hpart.kind_ne_mixed

variable {context : Context}

/-- Without `allOf`, nothing is merged. -/
theorem kind_ne_intersection (hunmerged : document.Unmerged)
    (hsite : site.IsIn document ∨ site.node = .object []) : site.node.kind ≠ .intersection := by
  intro hkind
  have hallOf := Json.isSome_allOf?_of_kind hkind
  rcases hsite with ⟨keys, hnode, -⟩ | hanything
  · rw [hunmerged keys site.node hnode] at hallOf
    cases hallOf
  · rw [hanything] at hallOf
    cases hallOf

/-- Without `allOf`, structs are requested for schemas as they are. -/
theorem IsIn.of_requests {request : ClassRequest} (hmemory : document.InMemory)
    (hunmerged : document.Unmerged) (hsite : site.IsIn document) (hreaches : site.Reaches inner)
    (hrequests : inner.Requests context request) :
    IsIn document ⟨request.schema, request.pointer⟩ := by
  have hinner := hsite.of_reaches hmemory hreaches
  cases hrequests with
  | nestedObject hkind hschema hpointer =>
      rw [hschema, hpointer]
      exact hinner.resolve_right fun hanything => absurd hkind (hanything ▸ nofun)
  | intersection hkind => exact absurd hkind (kind_ne_intersection hunmerged hinner)

/-- Without `allOf`, the nodes that cannot be resolved are enumerations. -/
theorem IsIn.of_refuses [Spelling] {error : GenerationError} (hmemory : document.InMemory)
    (hunmerged : document.Unmerged) (hsite : site.IsIn document) (hreaches : site.Reaches inner)
    (hrefuses : inner.Refuses context error) :
    inner.IsIn document ∧ error.pointer? = some inner.pointer := by
  have hinner := hsite.of_reaches hmemory hreaches
  cases hrefuses with
  | enumeration hkind hfault =>
      exact ⟨hinner.resolve_right fun hanything => absurd hkind (hanything ▸ nofun), rfl⟩
  | intersection hkind => exact absurd hkind (kind_ne_intersection hunmerged hinner)

end Site

end SchemaTypes
