import SchemaTypes.Proofs.Outcome
import SchemaTypes.Proofs.Schema.Acceptance
import SchemaTypes.Proofs.Schema.MergedMembers

/-!
# What merging keeps

Merging an `allOf` gives one object schema for all branches.  Properties and required keys of
branches hold of every object that the branches accept, and so do the keys that all alternatives
of a branch require.  A property that only an alternative declares is kept as well, although the
object may have been accepted on account of another alternative.

* `Json.Contributes`: the properties that a merge may collect.
* `Json.FromAlternative`: those that come from an alternative.
* `accepts_mergeAllOf_iff`: an object that a node accepts is accepted by the merged schema if and
  only if it fits what comes from alternatives.
-/

namespace SchemaTypes

open Outcome

namespace Json

/-! ## Declared properties and required keys -/

/-- A schema has a property, given by its key and schema. -/
def Declares (schema : Json) (entry : String × Json) : Prop :=
  ∃ entries, schema.Carries "properties" (.object entries) ∧ entry ∈ entries

/-- A schema requires a key. -/
def Requires (schema : Json) (key : String) : Prop :=
  ∃ keys, schema.Carries "required" (.array keys) ∧ .string key ∈ keys

variable {document schema : Json}

theorem declares_of_mem {entry : String × Json} (hentry : entry ∈ schema.properties?.getD []) :
    schema.Declares entry := by
  cases hentries : schema.properties? with
  | none => simp [hentries] at hentry
  | some entries =>
      rw [hentries, Option.getD_some] at hentry
      exact ⟨entries, carries_of_members? hentries, hentry⟩

theorem requires_of_mem {key : String} (hkey : key ∈ schema.requiredKeys) :
    schema.Requires key := by
  unfold requiredKeys at hkey
  cases hkeys : (schema.get? "required").bind items? with
  | none => simp [hkeys] at hkey
  | some keys =>
      rw [hkeys, Option.getD_some] at hkey
      obtain ⟨part, hpart, hstring⟩ := List.mem_filterMap.mp hkey
      cases part <;> cases hstring
      exact ⟨keys, carries_of_items? hkeys, hpart⟩

/-- An object has what a property asks for, if it has the property. -/
def Fits (document : Json) (object : Members) (entry : String × Json) : Prop :=
  ∀ child, object.get? entry.1 = some child → Accepts document entry.2 child

theorem Accepts.fits {object : Members} (haccepts : Accepts document schema (.object object))
    {entry : String × Json} (hentry : schema.Declares entry) : Fits document object entry := by
  obtain ⟨entries, hentries, hentry⟩ := hentry
  have hpasses : Passes document .properties (.object entries) (.object object) :=
    haccepts.passes hentries
  cases hpasses with
  | properties hall => exact fun child hchild => hall _ _ child hentry hchild

theorem Accepts.contains {object : Members} (haccepts : Accepts document schema (.object object))
    {key : String} (hkey : schema.Requires key) : object.contains key := by
  obtain ⟨keys, hkeys, hkey⟩ := hkey
  have hpasses : Passes document .required (.array keys) (.object object) :=
    haccepts.passes hkeys
  cases hpasses with
  | required hall => exact hall key object hkey rfl

theorem Accepts.of_mem_allOf {value branch : Json} (haccepts : Accepts document schema value)
    (hbranch : branch ∈ schema.allOf?.getD []) : Accepts document branch value := by
  cases hbranches : schema.allOf? with
  | none => simp [hbranches] at hbranch
  | some branches =>
      rw [hbranches, Option.getD_some] at hbranch
      have hpasses : Passes document .allOf (.array branches) value :=
        haccepts.passes (carries_of_items? hbranches)
      cases hpasses with
      | allOf hall => exact hall branch hbranch

/-- Of the alternatives of an accepting schema, one accepts. -/
theorem Accepts.exists_alternative {value : Json} (haccepts : Accepts document schema value)
    {alternatives : List Json} (halternatives : schema.alternatives? = some alternatives) :
    ∃ alternative ∈ alternatives, Accepts document alternative value := by
  rcases Option.or_eq_some_iff.mp halternatives with hone | ⟨-, hany⟩
  · have hpasses : Passes document .oneOf (.array alternatives) value :=
      haccepts.passes (carries_of_items? hone)
    -- the list of alternatives is split by the constructor, so its equation is kept apart
    generalize hpart : Json.array alternatives = part at hpasses
    cases hpasses with
    | @oneOf before alternative after _ halternative hothers =>
        obtain rfl := Json.array.inj hpart
        exact ⟨alternative, by simp, halternative⟩
  · have hpasses : Passes document .anyOf (.array alternatives) value :=
      haccepts.passes (carries_of_items? hany)
    cases hpasses with
    | anyOf halternative hown => exact ⟨_, halternative, hown⟩

/-! ## Where properties of a merged schema come from -/

/-- A property that a schema declares itself, through a branch or through an alternative. -/
inductive Contributes (document : Json) : (schema : Json) → String × Json → Prop
  | own {schema entry} (hentry : Declares schema entry) : Contributes document schema entry
  | branch {schema branch target entry} (hbranch : branch ∈ (allOf? schema).getD [])
      (htarget : LeadsTo document branch target) (hentry : Contributes document target entry) :
      Contributes document schema entry
  | alternative {schema alternative target entry}
      (halternative : alternative ∈ (alternatives? schema).getD [])
      (htarget : LeadsTo document alternative target)
      (hentry : Contributes document target entry) :
      Contributes document schema entry

/-- A property that an alternative contributes to the merge of a node: an alternative of a branch,
or of a branch of a branch. -/
inductive FromAlternative (document : Json) : (node : Json) → String × Json → Prop
  | here {node branch target alternative own entry} (hbranch : branch ∈ (allOf? node).getD [])
      (htarget : LeadsTo document branch target)
      (halternative : alternative ∈ (alternatives? target).getD [])
      (hown : LeadsTo document alternative own) (hentry : Contributes document own entry) :
      FromAlternative document node entry
  | inside {node branch target entry} (hbranch : branch ∈ (allOf? node).getD [])
      (htarget : LeadsTo document branch target)
      (hentry : FromAlternative document target entry) :
      FromAlternative document node entry

/-- Every property of a schema is allowed, and every key that it requires is held. -/
structure Keeps (allowed : String × Json → Prop) (held : String → Prop) (schema : Json) : Prop where
  properties : ∀ entry, schema.Declares entry → allowed entry
  required : ∀ key, schema.Requires key → held key

theorem Keeps.mono {allowed allowed' : String × Json → Prop} {held held' : String → Prop}
    (hkeeps : Keeps allowed held schema) (hallowed : ∀ entry, allowed entry → allowed' entry)
    (hheld : ∀ key, held key → held' key) : Keeps allowed' held' schema :=
  ⟨fun entry hentry => hallowed entry (hkeeps.properties entry hentry),
    fun key hkey => hheld key (hkeeps.required key hkey)⟩

theorem keeps_empty (allowed : String × Json → Prop) (held : String → Prop) :
    Keeps allowed held (.object []) := by
  constructor
  · rintro entry ⟨entries, hentries, -⟩
    simp [Carries, members?] at hentries
  · rintro key ⟨keys, hkeys, -⟩
    simp [Carries, members?] at hkeys

end Json

/-! ## Merged objects -/

theorem mem_unionKeys {keys more : List String} {key : String} :
    key ∈ unionKeys keys more ↔ key ∈ keys ∨ key ∈ more := by
  unfold unionKeys
  induction more generalizing keys with
  | nil => simp
  | cons first rest ih =>
      rw [List.foldl_cons, ih, List.mem_cons]
      -- a key that is there already is not added again
      by_cases hfirst : keys.contains first
      · rw [if_pos hfirst]
        have hmember : first ∈ keys := by simpa using hfirst
        constructor
        · exact Or.imp_right .inr
        · rintro (hkey | rfl | hkey)
          · exact .inl hkey
          · exact .inl hmember
          · exact .inr hkey
      · rw [if_neg hfirst]
        simp [or_assoc]

namespace MergedObject

variable {allowed : String × Json → Prop} {held : String → Prop} {merged : MergedObject}
  {schema base : Json}

/-- Every property that has been merged is allowed, and every required key is held. -/
structure Keeps (allowed : String × Json → Prop) (held : String → Prop) (merged : MergedObject) :
    Prop where
  properties : ∀ entry ∈ merged.properties, allowed entry
  required : ∀ key ∈ merged.required, held key

theorem keeps_empty : Keeps allowed held empty := ⟨by simp [empty], by simp [empty]⟩

theorem Keeps.absorb (hmerged : Keeps allowed held merged) (hschema : schema.Keeps allowed held) :
    Keeps allowed held (merged.absorb schema) := by
  refine ⟨fun entry hentry => ?_, fun key hkey => ?_⟩
  · rcases Members.mem_of_mem_foldl_insert hentry with hearlier | hown
    · exact hmerged.properties entry hearlier
    · exact hschema.properties entry (Json.declares_of_mem hown)
  · rcases mem_unionKeys.mp hkey with hearlier | hown
    · exact hmerged.required key hearlier
    · exact hschema.required key (Json.requires_of_mem hown)

/-- The keywords of a merged schema are those of its base, or describe what has been merged. -/
theorem carries_toSchema {keyword : String} {part : Json}
    (hpart : (merged.toSchema base).Carries keyword part) :
    base.Carries keyword part ∨ (keyword = "type" ∧ part = .string "object") ∨
      (keyword = "properties" ∧ part = .object merged.properties) ∨
      (keyword = "required" ∧ part = keyArray merged.required) ∨
      keyword = "additionalProperties" := by
  rw [toSchema_eq] at hpart
  rcases mem_written hpart with hentry | hadditional
  · rcases mem_bounded hentry with hentry | hentry
    · rcases mem_described hentry with hentry | hentry | hentry
      · exact .inl hentry
      · exact .inr (.inl (Prod.mk.inj hentry))
      · exact .inr (.inr (.inl (Prod.mk.inj hentry)))
    · exact .inr (.inr (.inr (.inl (Prod.mk.inj hentry))))
  · exact .inr (.inr (.inr (.inr hadditional)))

theorem string_mem_keyArray {keys : List String} {key : String} {items : List Json}
    (hitems : Json.array items = keyArray keys) : .string key ∈ items ↔ key ∈ keys := by
  obtain rfl := Json.array.inj hitems
  simp

theorem Keeps.toSchema (hmerged : Keeps allowed held merged) (hbase : base.Keeps allowed held) :
    (merged.toSchema base).Keeps allowed held := by
  refine ⟨?_, ?_⟩
  · rintro entry ⟨entries, hentries, hentry⟩
    rcases carries_toSchema hentries with hown | ⟨hkey, -⟩ | ⟨-, hpart⟩ | ⟨hkey, -⟩ | hkey
    · exact hbase.properties entry ⟨entries, hown, hentry⟩
    · simp at hkey
    · obtain rfl := Json.object.inj hpart
      exact hmerged.properties entry hentry
    · simp at hkey
    · simp at hkey
  · rintro key ⟨keys, hkeys, hkey⟩
    rcases carries_toSchema hkeys with hown | ⟨hname, -⟩ | ⟨hname, -⟩ | ⟨-, hpart⟩ | hname
    · exact hbase.required key ⟨keys, hown, hkey⟩
    · simp at hname
    · simp at hname
    · exact hmerged.required key ((string_mem_keyArray hpart).mp hkey)
    · simp at hname

end MergedObject

/-! ## Faithful schemas -/

namespace Json

variable {document node target branch schema : Json} {object : Members}

/-- What a schema in the place of a node asks of an object that the node accepts: the object fits
all properties that are not from alternatives, and has all required keys. -/
def Faithful (document : Json) (object : Members) (node schema : Json) : Prop :=
  Keeps
    (fun entry => Contributes document node entry ∧
      (Accepts document node (.object object) →
        FromAlternative document node entry ∨ Fits document object entry))
    (fun key => Accepts document node (.object object) → object.contains key) schema

theorem faithful_self : Faithful document object node node :=
  ⟨fun _ hentry => ⟨.own hentry, fun haccepts => .inr (haccepts.fits hentry)⟩,
    fun _ hkey haccepts => haccepts.contains hkey⟩

/-- What is faithful to a branch is faithful to the node. -/
theorem Faithful.of_branch (hbranch : branch ∈ node.allOf?.getD [])
    (htarget : LeadsTo document branch target) (hschema : Faithful document object target schema) :
    Faithful document object node schema := by
  have haccepted : Accepts document node (.object object) →
      Accepts document target (.object object) :=
    fun haccepts => htarget.accepts (haccepts.of_mem_allOf hbranch)
  refine Keeps.mono hschema (fun entry hentry => ⟨.branch hbranch htarget hentry.1, ?_⟩)
    fun key hkey haccepts => hkey (haccepted haccepts)
  exact fun haccepts => (hentry.2 (haccepted haccepts)).imp_left (.inside hbranch htarget)

end Json

namespace Merge

open Json

variable {context : Context} {nested : NestedMerge} {pointer : String} {object : Members}

theorem referenced?_of_schema? {lookup : Lookup} {reference : String} {target : Json}
    (htarget : lookup.schema? reference = some target) :
    lookup.root.referenced? reference = some target := by
  unfold Lookup.schema? at htarget
  split at htarget
  · cases htarget
  · exact htarget

theorem leadsTo_of_dereference {hops : Nat} {node target : Json}
    (htarget : dereference context pointer hops node = .ok target) :
    LeadsTo context.lookup.root node target := by
  induction hops generalizing node with
  | zero =>
      unfold dereference at htarget
      split at htarget
      · rename_i hnode
        cases htarget
        exact .here hnode
      · cases htarget
  | succ hops ih =>
      unfold dereference at htarget
      split at htarget
      · rename_i hnode
        cases htarget
        exact .here hnode
      · rename_i reference hreference
        dsimp only at htarget
        split at htarget
        · rename_i next hnext
          exact .step hreference (referenced?_of_schema? hnext) (ih htarget)
        · cases htarget

/-! ## Alternatives -/

theorem Reduction.mem_add {reduction : Reduction} {alternative : Json} {entry : String × Json}
    (hentry : entry ∈ (reduction.add alternative).properties) :
    entry ∈ reduction.properties ∨ alternative.Declares entry :=
  (Members.mem_of_mem_foldl_insertNew hentry).imp_right declares_of_mem

theorem Reduction.requires_of_mem_add {reduction : Reduction} {alternative : Json} {key : String}
    {keys : List String} (hkeys : (reduction.add alternative).required = some keys)
    (hkey : key ∈ keys) :
    alternative.Requires key ∧ ∀ earlier, reduction.required = some earlier → key ∈ earlier := by
  have hown : ∀ {key}, key ∈ unionKeys [] alternative.requiredKeys → alternative.Requires key :=
    fun hkey => requires_of_mem ((mem_unionKeys.mp hkey).resolve_left (by simp))
  obtain rfl := Option.some.inj hkeys
  cases hearlier : reduction.required with
  | none =>
      rw [hearlier] at hkey
      exact ⟨hown hkey, nofun⟩
  | some earlier =>
      rw [hearlier] at hkey
      obtain ⟨hold, hcontains⟩ := List.mem_filter.mp hkey
      refine ⟨hown (by simpa using hcontains), ?_⟩
      rintro _ ⟨⟩
      exact hold

theorem Reduction.declares_toSchema {reduction : Reduction} {entry : String × Json}
    (hentry : reduction.toSchema.Declares entry) : entry ∈ reduction.properties := by
  obtain ⟨entries, hentries, hentry⟩ := hentry
  unfold Carries Reduction.toSchema at hentries
  simp only [members?, Option.getD_some, List.mem_cons, Prod.mk.injEq, true_and] at hentries
  rcases hentries with hsame | hentries
  · exact Json.object.inj hsame ▸ hentry
  · split at hentries <;> simp at hentries

theorem Reduction.requires_toSchema {reduction : Reduction} {key : String}
    (hkey : reduction.toSchema.Requires key) : key ∈ reduction.required.getD [] := by
  obtain ⟨keys, hkeys, hkey⟩ := hkey
  unfold Carries Reduction.toSchema at hkeys
  simp only [members?, Option.getD_some, List.mem_cons, Prod.mk.injEq] at hkeys
  rcases hkeys with ⟨hname, -⟩ | hkeys
  · simp at hname
  · split at hkeys
    · simp at hkeys
    · simp only [List.mem_singleton, Prod.mk.injEq, true_and] at hkeys
      exact (MergedObject.string_mem_keyArray hkeys).mp hkey

/-- A reduction holds properties of alternatives, and requires what each of them requires. -/
theorem of_reduceAlternatives {index : Nat} {alternatives : List Json}
    {reduction result : Reduction}
    (hnested : ∀ node place schema, nested node place = .ok schema →
      Faithful context.lookup.root object node schema)
    (hresult : reduceAlternatives context nested pointer index alternatives reduction =
      .ok result) :
    (∀ entry ∈ result.properties, entry ∈ reduction.properties ∨
      ∃ alternative ∈ alternatives, ∃ own, LeadsTo context.lookup.root alternative own ∧
        Contributes context.lookup.root own entry) ∧
    ∀ key ∈ result.required.getD [],
      (∀ earlier, reduction.required = some earlier → key ∈ earlier) ∧
      ∀ alternative ∈ alternatives, Accepts context.lookup.root alternative (.object object) →
        object.contains key := by
  induction alternatives generalizing index reduction with
  | nil =>
      obtain rfl := Except.ok.inj hresult
      refine ⟨fun entry hentry => .inl hentry, fun key hkey => ?_⟩
      refine ⟨fun earlier hearlier => ?_, by simp⟩
      simpa [hearlier] using hkey
  | cons alternative rest ih =>
      rw [reduceAlternatives] at hresult
      obtain ⟨own, hown, hresult⟩ := bind_eq_ok.mp hresult
      have hleads := leadsTo_of_dereference hown
      -- an alternative with an `allOf` of its own is merged before it is added
      obtain ⟨schema, hfaithful, hrest⟩ : ∃ schema,
          Faithful context.lookup.root object own schema ∧
            reduceAlternatives context nested pointer (index + 1) rest (reduction.add schema) =
              .ok result := by
        dsimp only at hresult
        split at hresult
        · obtain ⟨schema, hschema, hrest⟩ := bind_eq_ok.mp hresult
          exact ⟨schema, hnested _ _ _ hschema, hrest⟩
        · exact ⟨own, faithful_self, hresult⟩
      obtain ⟨hproperties, hrequired⟩ := ih hrest
      refine ⟨fun entry hentry => ?_, fun key hkey => ?_⟩
      · rcases hproperties entry hentry with hadded | ⟨other, hother, hcontributes⟩
        · rcases Reduction.mem_add hadded with hearlier | hdeclared
          · exact .inl hearlier
          · exact .inr ⟨alternative, List.mem_cons_self, own, hleads,
              (hfaithful.properties entry hdeclared).1⟩
        · exact .inr ⟨other, List.mem_cons_of_mem _ hother, hcontributes⟩
      · -- a key stays required only while every alternative so far requires it
        obtain ⟨hadded, hothers⟩ := hrequired key hkey
        obtain ⟨hrequires, hearlier⟩ := Reduction.requires_of_mem_add rfl (hadded _ rfl)
        refine ⟨hearlier, fun other hother haccepts => ?_⟩
        rcases List.mem_cons.mp hother with rfl | hother
        · exact hfaithful.required key hrequires (hleads.accepts haccepts)
        · exact hothers other hother haccepts

/-! ## Branches -/

/-- What a branch contributes is faithful to the node. -/
theorem faithful_branchSchema {index : Nat} {node branch schema : Json}
    (hnested : ∀ node place schema, nested node place = .ok schema →
      Faithful context.lookup.root object node schema)
    (hbranch : branch ∈ node.allOf?.getD [])
    (hschema : branchSchema context nested pointer index branch = .ok schema) :
    Faithful context.lookup.root object node schema := by
  obtain ⟨target, htarget, hschema⟩ := bind_eq_ok.mp hschema
  have hleads := leadsTo_of_dereference htarget
  cases target with
  | bool value =>
      cases value with
      | true =>
          obtain rfl := pure_eq_ok.mp hschema
          exact keeps_empty _ _
      | false => cases hschema
  | object members =>
      dsimp only at hschema
      split at hschema
      · -- a branch that has branches itself is merged first
        exact (hnested _ _ _ hschema).of_branch hbranch hleads
      · split at hschema
        · rename_i alternatives halternatives
          obtain ⟨reduction, hreduction, hschema⟩ := bind_eq_ok.mp hschema
          obtain rfl := pure_eq_ok.mp hschema
          -- a branch of alternatives is reduced to one schema, next to its own properties
          obtain ⟨hproperties, hrequired⟩ := of_reduceAlternatives hnested hreduction
          have hreduced : Faithful context.lookup.root object node reduction.toSchema := by
            refine ⟨fun entry hentry => ?_, fun key hkey haccepts => ?_⟩
            · obtain ⟨alternative, halternative, own, hown, hcontributes⟩ :=
                (hproperties entry (Reduction.declares_toSchema hentry)).resolve_left (by simp)
              rw [← Option.getD_some (a := alternatives) (b := []), ← halternatives] at halternative
              exact ⟨.branch hbranch hleads (.alternative halternative hown hcontributes),
                fun _ => .inl (.here hbranch hleads halternative hown hcontributes)⟩
            · -- the object is accepted by some alternative, which requires the key
              obtain ⟨alternative, halternative, hown⟩ :=
                (hleads.accepts (haccepts.of_mem_allOf hbranch)).exists_alternative halternatives
              exact (hrequired key (Reduction.requires_toSchema hkey)).2 alternative halternative
                hown
          exact ((MergedObject.keeps_empty.absorb hreduced).absorb
            (faithful_self.of_branch hbranch hleads)).toSchema (keeps_empty _ _)
        · split at hschema
          · obtain rfl := pure_eq_ok.mp hschema
            exact faithful_self.of_branch hbranch hleads
          · cases hschema
  | null | number | string | array => cases hschema

/-- What all branches together contribute is what each of them may. -/
theorem keeps_mergeBranches {index : Nat} {branches : List Json}
    {allowed : String × Json → Prop} {held : String → Prop} {merged result : MergedObject}
    (hbranches : ∀ branch ∈ branches, ∀ place index schema,
      branchSchema context nested place index branch = .ok schema → schema.Keeps allowed held)
    (hmerged : merged.Keeps allowed held)
    (hresult : mergeBranches context nested pointer index branches merged = .ok result) :
    result.Keeps allowed held := by
  induction branches generalizing index merged with
  | nil =>
      obtain rfl := Except.ok.inj hresult
      exact hmerged
  | cons branch rest ih =>
      obtain ⟨schema, hschema, hresult⟩ := bind_eq_ok.mp hresult
      have hkeeps := hbranches branch List.mem_cons_self _ _ _ hschema
      exact ih (fun other hother => hbranches other (List.mem_cons_of_mem _ hother))
        (hmerged.absorb hkeeps) hresult

/-- Induction over nested `allOf`s. -/
theorem faithful_mergeLevels {levels : Nat} {node schema : Json} {place : String}
    (hschema : mergeLevels context levels node place = .ok schema) :
    Faithful context.lookup.root object node schema := by
  induction levels generalizing node schema place with
  | zero => cases hschema
  | succ levels ih =>
      obtain ⟨merged, hmerged, hschema⟩ := bind_eq_ok.mp hschema
      obtain rfl := pure_eq_ok.mp hschema
      have hkeeps := keeps_mergeBranches
        (fun branch hbranch _ _ _ => faithful_branchSchema (fun _ _ _ => ih) hbranch)
        MergedObject.keeps_empty hmerged
      exact (hkeeps.absorb faithful_self).toSchema faithful_self

/-- The properties of a merged schema are declared in its node, in branches or in alternatives. -/
theorem contributes_of_mergeAllOf {node merged : Json} {place : String}
    (hmerged : mergeAllOf context node place = .ok merged) {entry : String × Json}
    (hentry : merged.Declares entry) : Contributes context.lookup.root node entry := by
  have hfaithful : Faithful context.lookup.root [] node merged := faithful_mergeLevels hmerged
  exact (hfaithful.properties entry hentry).1

end Merge

/-! ## Overlapping alternatives -/

namespace Merge

open Json

/-- A context in which there is nothing to refer to. -/
def bareContext : Context where
  options := {}
  lookup := ⟨.object [], ⟨[], "Root"⟩, [], [], []⟩

/-- The schema of values of a type. -/
def typed (name : String) : Json := .object [("type", .string name)]

/-- The schema with one property. -/
def withProperty (key : String) (schema : Json) : Json :=
  .object [("properties", .object [(key, schema)])]

/-- Alternatives that declare the same key, once for texts and once for integers. -/
def overlapping : Json :=
  .object [("allOf", .array [.object [("anyOf", .array
    [withProperty "x" (typed "string"), withProperty "x" (typed "integer")])]])]

/-- The property of the first alternative stays. -/
def overlappingMerged : Json :=
  .object [("type", .string "object"), ("properties", .object [("x", typed "string")])]

variable {document : Json}

theorem accepts_withProperty {key name : String} {value : Json} (htype : value.hasType name) :
    Accepts document (withProperty key (typed name)) (.object [(key, value)]) := by
  refine .restrictions fun restriction part hpart => ?_
  cases restriction <;> simp [Restriction.keyword] at hpart
  subst hpart
  refine .properties fun own schema child hentry hchild => ?_
  obtain ⟨rfl, rfl⟩ := Prod.mk.inj (List.mem_singleton.mp hentry)
  obtain rfl : value = child := by simpa [get?, members?] using hchild
  refine .restrictions fun restriction part hpart => ?_
  cases restriction <;> simp [Restriction.keyword] at hpart
  subst hpart
  exact .type htype

theorem accepts_overlapping {value : Json}
    (htype : value.hasType "string" ∨ value.hasType "integer") :
    Accepts document overlapping (.object [("x", value)]) := by
  refine .restrictions fun restriction part hpart => ?_
  cases restriction <;> simp [Restriction.keyword] at hpart
  subst hpart
  refine .allOf fun branch hbranch => ?_
  obtain rfl := List.mem_singleton.mp hbranch
  refine .restrictions fun restriction part hpart => ?_
  cases restriction <;> simp [Restriction.keyword] at hpart
  subst hpart
  rcases htype with htype | htype
  · exact .anyOf List.mem_cons_self (accepts_withProperty htype)
  · exact .anyOf (List.mem_cons_of_mem _ List.mem_cons_self) (accepts_withProperty htype)

end Merge

/-! ## Acceptance -/

open Json Merge

/-- **Merging narrows by alternatives only.**  An object that a node accepts is accepted by the
schema merged for the node if and only if it fits the properties there that come from
alternatives.  The domain is that of `Json.Restriction`: schemas that tell values apart by `type`,
`enum`, `properties`, `required`, `allOf`, `anyOf`, `oneOf` and `$ref`.  Of a schema with further
keywords it says what these ones make of the object, so nothing about, say, keys that match a
pattern. -/
theorem accepts_mergeAllOf_iff {context : Context} {node merged : Json} {pointer : String}
    {object : Members} (hmerged : mergeAllOf context node pointer = .ok merged)
    (hnode : Accepts context.lookup.root node (.object object)) :
    Accepts context.lookup.root merged (.object object) ↔
      ∀ entry, merged.Declares entry → FromAlternative context.lookup.root node entry →
        Fits context.lookup.root object entry := by
  refine ⟨fun haccepts entry hentry _ => haccepts.fits hentry, fun hfits => ?_⟩
  have hfaithful : Faithful context.lookup.root object node merged :=
    Merge.faithful_mergeLevels hmerged
  have hproperties : ∀ entry, merged.Declares entry → Fits context.lookup.root object entry :=
    fun entry hentry =>
      ((hfaithful.properties entry hentry).2 hnode).elim (hfits entry hentry) id
  obtain ⟨gathered, -, hmerged⟩ := bind_eq_ok.mp hmerged
  obtain rfl := pure_eq_ok.mp hmerged
  -- from here on only the two facts about the total count, not how it was gathered
  generalize gathered.absorb node = total at hfaithful hproperties ⊢
  obtain ⟨members, hmembers⟩ : ∃ members, total.toSchema node = .object members := by
    unfold MergedObject.toSchema
    dsimp only
    split <;> exact ⟨_, rfl⟩
  have hcarries : ∀ {keyword part}, (keyword, part) ∈ members →
      (total.toSchema node).Carries keyword part := by
    intro keyword part hpart
    rw [hmembers]
    exact hpart
  rw [hmembers]
  refine .restrictions fun restriction part hpart => ?_
  have hpart := hcarries hpart
  rcases MergedObject.carries_toSchema hpart with
    hown | ⟨hkey, rfl⟩ | ⟨hkey, rfl⟩ | ⟨hkey, rfl⟩ | hkey
  · -- a keyword of the node, which the object fulfils there already
    exact hnode.passes hown
  · cases restriction <;> simp [Restriction.keyword] at hkey
    exact .type rfl
  · cases restriction <;> simp [Restriction.keyword] at hkey
    refine .properties fun key schema child hentry hchild => ?_
    exact hproperties (key, schema) ⟨_, hpart, hentry⟩ child hchild
  · cases restriction <;> simp [Restriction.keyword] at hkey
    refine .required fun key members hentry hsame => ?_
    cases hsame
    exact hfaithful.required key ⟨_, hpart, hentry⟩ hnode
  · cases restriction <;> simp [Restriction.keyword] at hkey

/-- A text fits the property that stays. -/
theorem accepts_overlappingMerged_text :
    mergeAllOf bareContext overlapping "#" = .ok overlappingMerged ∧
      Accepts (.object []) overlapping (.object [("x", .string "a")]) ∧
      Accepts (.object []) overlappingMerged (.object [("x", .string "a")]) := by
  have hmerged : mergeAllOf bareContext overlapping "#" = .ok overlappingMerged := rfl
  have hnode : Accepts (.object []) overlapping (.object [("x", .string "a")]) :=
    accepts_overlapping (.inl rfl)
  refine ⟨hmerged, hnode, (accepts_mergeAllOf_iff hmerged hnode).mpr fun entry hentry _ => ?_⟩
  have halone : Accepts (.object []) (withProperty "x" (typed "string"))
      (.object [("x", .string "a")]) := accepts_withProperty rfl
  obtain ⟨entries, hentries, hentry⟩ := hentry
  simp [Carries, overlappingMerged, members?] at hentries
  exact halone.fits ⟨entries, by simp [Carries, withProperty, members?, hentries], hentry⟩

/-- An integer is accepted by the second alternative and rejected after the merge. -/
theorem not_accepts_overlappingMerged_integer :
    mergeAllOf bareContext overlapping "#" = .ok overlappingMerged ∧
      Accepts (.object []) overlapping (.object [("x", .number (.integer 1))]) ∧
      ¬Accepts (.object []) overlappingMerged (.object [("x", .number (.integer 1))]) := by
  refine ⟨rfl, accepts_overlapping (.inr rfl), fun haccepts => haccepts.not_rejects ?_⟩
  have hproperty : Rejects (.object []) (typed "string") (.number (.integer 1)) :=
    @Rejects.restriction _ _ .type _ _ List.mem_cons_self (.type rfl)
  exact @Rejects.restriction _ _ .properties _ _ (List.mem_cons_of_mem _ List.mem_cons_self)
    (.properties List.mem_cons_self rfl hproperty)

end SchemaTypes
