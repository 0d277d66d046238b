import SchemaTypes.Proofs.Schema.Declaration

/-!
# Schemas and their positions

A schema has its position in a document: it is the document itself, or what a keyword of another
schema holds.  Keys of properties, patterns and definitions are any text, and alternatives are
counted from zero.  The pointer that is built from the position of a schema names the schema.

* `Json.InMemory`: documents that can be held in memory.
* `Json.HasSchema`: the schemas of a document, with the keys that lead to them.
* `Json.HasSchema.named?_eq`: pointers name the schemas that they were built for.
* `Site.IsIn`: a schema that is handed on with the pointer to it.
-/

namespace SchemaTypes

namespace Json

/-! ## Documents in memory -/

/-- A document that can be held in memory.  No object has a key twice, and no array has more items
than an index of 64 bits can tell apart. -/
structure InMemory (document : Json) : Prop where
  distinct : document.KeysDistinct
  indexed : ∀ node : Json, node.Within document → ∀ items, node.items? = some items →
    items.length ≤ 0x10000000000000000

theorem forall_within_object {property : Json → Prop} {members : Members} :
    (∀ node, node.Within (.object members) → property node) ↔
      property (.object members) ∧
        ∀ member ∈ members, ∀ node, node.Within member.2 → property node := by
  constructor
  · exact fun hall => ⟨hall _ .refl, fun member hmember node hnode =>
      hall node (within_object.mpr (.inr ⟨member, hmember, hnode⟩))⟩
  · rintro ⟨hself, hmembers⟩ node hnode
    rcases within_object.mp hnode with rfl | ⟨member, hmember, hwithin⟩
    · exact hself
    · exact hmembers member hmember node hwithin

theorem forall_within_array {property : Json → Prop} {items : List Json} :
    (∀ node, node.Within (.array items) → property node) ↔
      property (.array items) ∧ ∀ item ∈ items, ∀ node, node.Within item → property node := by
  constructor
  · exact fun hall => ⟨hall _ .refl, fun item hitem node hnode => hall node (.item hitem hnode)⟩
  · rintro ⟨hself, hitems⟩ node (_ | _ | ⟨hitem, hwithin⟩)
    · exact hself
    · exact hitems _ hitem node hwithin

theorem within_of_items? {node value child : Json} {keyword : String} {items : List Json}
    (hvalue : node.get? keyword = some value) (hitems : value.items? = some items)
    (hchild : child ∈ items) : child.Within node := by
  cases value with
  | array own =>
      obtain rfl := Option.some.inj hitems
      exact .trans (.item hchild .refl) (within_of_get? hvalue)
  | null | bool | number | string | object => cases hitems

/-! ## Schemas of a document -/

/-- A schema of a document, with the keys that lead to it. -/
inductive HasSchema (document : Json) : List String → Json → Prop
  | root : HasSchema document [] document
  /-- Keywords that hold a schema. -/
  | part {keys keyword} {node schema : Json} (hnode : HasSchema document keys node)
      (hkeyword : keyword ∈ ["items", "additionalProperties"])
      (hschema : node.get? keyword = some schema) :
      HasSchema document (keys ++ [keyword]) schema
  /-- Keywords that hold schemas by key. -/
  | entry {keys keyword key} {node schema : Json} (hnode : HasSchema document keys node)
      (hkeyword : keyword ∈ ["properties", "patternProperties", "definitions", "$defs"])
      (hschema : (node.entries keyword).get? key = some schema) :
      HasSchema document (keys ++ [keyword, key]) schema
  /-- Keywords that hold a list of alternatives. -/
  | alternative {keys keyword} {index : Nat} {items : List Json} {node value schema : Json}
      (hnode : HasSchema document keys node) (hkeyword : keyword ∈ ["oneOf", "anyOf"])
      (hvalue : node.get? keyword = some value) (hitems : value.items? = some items)
      (hschema : items[index]? = some schema) :
      HasSchema document (keys ++ [keyword, toString index]) schema

/-- No schema of the document has `allOf`. -/
def Unmerged (document : Json) : Prop :=
  ∀ keys node, document.HasSchema keys node → node.allOf? = none

namespace HasSchema

variable {document node : Json} {keys : List String}

theorem within (hnode : document.HasSchema keys node) : node.Within document := by
  induction hnode with
  | root => exact .refl
  | part _ _ hschema ih => exact .trans (within_of_get? hschema) ih
  | entry _ _ hschema ih =>
      exact .trans (within_of_mem_entries (Members.mem_of_get? hschema)) ih
  | alternative _ _ hvalue hitems hschema ih =>
      exact .trans (within_of_items? hvalue hitems (List.mem_of_getElem? hschema)) ih

theorem at?_eq (hmemory : document.InMemory) (hnode : document.HasSchema keys node) :
    document.at? keys = some node := by
  induction hnode with
  | root => rfl
  | part _ _ hschema ih => rw [at?_concat, ih, Option.bind_some, child?_of_get? hschema]
  | @entry keys keyword key node schema _ _ hschema ih =>
      have hentries := get?_of_mem_entries (Members.mem_of_get? hschema)
      have hinner : (Json.object (node.entries keyword)).child? key = some schema := hschema
      rw [at?_append, ih, Option.bind_some, at?, child?_of_get? hentries, Option.bind_some, at?,
        hinner]
      rfl
  | @alternative keys keyword index items node value schema hnode _ hvalue hitems hschema ih =>
      have hlength := hmemory.indexed value (.trans (within_of_get? hvalue) hnode.within) items
        hitems
      have hindex : index < items.length := (List.getElem?_eq_some_iff.mp hschema).1
      have hchild : value.child? (toString index) = some schema := by
        cases value with
        | array own =>
            obtain rfl := Option.some.inj hitems
            rw [child?, Pointer.index?_toString (by omega), Option.bind_some, hschema]
        | null | bool | number | string | object => cases hitems
      rw [at?_append, ih, Option.bind_some, at?, child?_of_get? hvalue, Option.bind_some, at?,
        hchild]
      rfl

/-- **Pointers name schemas.**  The pointer to the position of a schema names the schema. -/
theorem named?_eq (hmemory : document.InMemory) (hnode : document.HasSchema keys node) :
    document.named? (Pointer.descendant Pointer.root keys) = some node := by
  rw [named?_descendant, at?_eq hmemory hnode]

/-- Entries are found under their keys. -/
theorem of_mem_entries (hmemory : document.InMemory) (hnode : document.HasSchema keys node)
    {keyword key : String} {schema : Json}
    (hkeyword : keyword ∈ ["properties", "patternProperties", "definitions", "$defs"])
    (hentry : (key, schema) ∈ node.entries keyword) :
    document.HasSchema (keys ++ [keyword, key]) schema := by
  have hdistinct := nodup_keys_entries (hmemory.distinct.within hnode.within) keyword
  exact .entry hnode hkeyword ((Members.get?_eq_some_iff hdistinct).mpr hentry)

/-- Definitions are schemas. -/
theorem of_declared {schema : Json} {path : Declaration.Path}
    (hnode : document.HasSchema keys node)
    (hkeyword : ∀ step ∈ path, step.keyword ∈ Definition.keywords)
    (hschema : Declaration.schema? node path = some schema) :
    document.HasSchema (keys ++ Declaration.keys path) schema := by
  induction path generalizing node keys with
  | nil =>
      obtain rfl := Option.some.inj hschema
      rw [Declaration.keys, List.flatMap_nil, List.append_nil]
      exact hnode
  | cons step rest ih =>
      rw [List.forall_mem_cons] at hkeyword
      obtain ⟨child, hchild, hrest⟩ := Option.bind_eq_some_iff.mp hschema
      have hlisted : step.keyword ∈ ["properties", "patternProperties", "definitions", "$defs"] :=
        List.mem_cons_of_mem _ (List.mem_cons_of_mem _ hkeyword.1)
      have hlater := ih (.entry hnode hlisted hchild) hkeyword.2 hrest
      rw [List.append_assoc] at hlater
      exact hlater

end HasSchema

theorem unmerged_of_within {document : Json}
    (hdocument : ∀ node : Json, node.Within document → node.allOf? = none) : document.Unmerged :=
  fun _ node hnode => hdocument node hnode.within

end Json

/-! ## Schemas that are handed on -/

/-- A schema node together with the pointer that goes with it. -/
structure Site where
  node : Json
  pointer : String

namespace Site

/-- The node is a schema of the document, and the pointer is that of its position. -/
def IsIn (document : Json) (site : Site) : Prop :=
  ∃ keys, document.HasSchema keys site.node ∧
    site.pointer = Pointer.descendant Pointer.root keys

theorem IsIn.named?_eq {document : Json} (hmemory : document.InMemory) {site : Site}
    (hsite : site.IsIn document) : document.named? site.pointer = some site.node := by
  obtain ⟨keys, hnode, hpointer⟩ := hsite
  rw [hpointer, hnode.named?_eq hmemory]

section

variable {document schema : Json} {site : Site} {keyword key : String}

theorem IsIn.part (hsite : site.IsIn document)
    (hkeyword : keyword ∈ ["items", "additionalProperties"])
    (hschema : site.node.get? keyword = some schema) :
    IsIn document ⟨schema, Pointer.descendant site.pointer [keyword]⟩ := by
  obtain ⟨keys, hnode, hpointer⟩ := hsite
  exact ⟨keys ++ [keyword], .part hnode hkeyword hschema,
    by rw [hpointer, Pointer.descendant_append]⟩

theorem IsIn.entry (hmemory : document.InMemory) (hsite : site.IsIn document)
    (hkeyword : keyword ∈ ["properties", "patternProperties", "definitions", "$defs"])
    (hentry : (key, schema) ∈ site.node.entries keyword) :
    IsIn document ⟨schema, Pointer.descendant site.pointer [keyword, key]⟩ := by
  obtain ⟨keys, hnode, hpointer⟩ := hsite
  exact ⟨keys ++ [keyword, key], hnode.of_mem_entries hmemory hkeyword hentry,
    by rw [hpointer, Pointer.descendant_append]⟩

theorem IsIn.alternative (hsite : site.IsIn document) (hkeyword : keyword ∈ ["oneOf", "anyOf"])
    {items : List Json} {index : Nat}
    (hitems : (site.node.get? keyword).bind Json.items? = some items)
    (hschema : items[index]? = some schema) :
    IsIn document ⟨schema, Pointer.descendant site.pointer [keyword, toString index]⟩ := by
  obtain ⟨keys, hnode, hpointer⟩ := hsite
  obtain ⟨value, hvalue, hitems⟩ := Option.bind_eq_some_iff.mp hitems
  exact ⟨keys ++ [keyword, toString index], .alternative hnode hkeyword hvalue hitems hschema,
    by rw [hpointer, Pointer.descendant_append]⟩

end

end Site

end SchemaTypes
