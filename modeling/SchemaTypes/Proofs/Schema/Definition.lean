import Mathlib.Tactic
import SchemaTypes.Schema.Cycle

/-!
# Where definitions are declared

A collected definition lies inside the document, and its pointer has at least the two tokens of a
keyword and a key, so that definitions never share the namespace of the root.

* `Json.Within`: one node lies inside another.
* `Definition.declared_of_mem_collect`: the place and the name of a collected definition.
* `Definition.Declared.namespace_ne_nil`: definitions lie below the root.
-/

namespace SchemaTypes

/-- A node is another one or lies inside it. -/
inductive Json.Within (node : Json) : Json → Prop
  | refl : Within node node
  | member {members : Members} {key : String} {child : Json} (hmember : (key, child) ∈ members)
      (hwithin : Within node child) : Within node (.object members)
  | item {items : List Json} {child : Json} (hitem : child ∈ items)
      (hwithin : Within node child) : Within node (.array items)

theorem Json.Within.trans {inner middle outer : Json} (hinner : inner.Within middle)
    (houter : middle.Within outer) : inner.Within outer := by
  induction houter with
  | refl => exact hinner
  | member hmember _ ih => exact .member hmember ih
  | item hitem _ ih => exact .item hitem ih

@[simp] theorem Json.within_object {node : Json} {members : Members} :
    node.Within (.object members) ↔
      node = .object members ∨ ∃ member ∈ members, node.Within member.2 := by
  constructor
  · rintro (_ | ⟨hmember, hwithin⟩)
    · exact .inl rfl
    · exact .inr ⟨_, hmember, hwithin⟩
  · rintro (rfl | ⟨member, hmember, hwithin⟩)
    · exact .refl
    · exact .member hmember hwithin

@[simp] theorem Json.within_string {node : Json} {text : String} :
    node.Within (.string text) ↔ node = .string text := by
  constructor
  · rintro (_ | _)
    rfl
  · rintro rfl
    exact .refl

namespace Definition

variable [Spelling]

/-- A definition that is declared somewhere inside a node. -/
structure Declared (definition : Definition) (node : Json) : Prop where
  place : ∃ parent keyword key : String,
    definition.pointer = Pointer.child (parent ++ "/" ++ keyword) key
  named : at? definition.pointer definition.schema = some definition
  within : definition.schema.Within node

theorem Declared.mono {definition : Definition} {inner outer : Json}
    (hdeclared : definition.Declared inner) (hwithin : inner.Within outer) :
    definition.Declared outer :=
  ⟨hdeclared.place, hdeclared.named, hdeclared.within.trans hwithin⟩

theorem at?_eq_some {pointer : String} {schema : Json} {definition : Definition}
    (hdefinition : at? pointer schema = some definition) :
    definition.pointer = pointer ∧ definition.schema = schema ∧
      Name.definitionPath? pointer = some (definition.namespace, definition.typeName) := by
  obtain ⟨path, hpath, rfl⟩ := Option.map_eq_some_iff.mp hdefinition
  exact ⟨rfl, rfl, hpath⟩

/-- Definitions of a member are definitions of its object. -/
theorem Declared.of_member {definition : Definition} {members : Members}
    (hdeclared : ∃ entry ∈ members, definition.Declared entry.2) :
    definition.Declared (.object members) := by
  obtain ⟨⟨key, child⟩, hmember, hdeclared⟩ := hdeclared
  exact hdeclared.mono (.member hmember .refl)

mutual

theorem declared_of_mem_collectAt {definition : Definition} :
    ∀ {pointer : String} {node : Json}, definition ∈ collectAt pointer node →
      definition.Declared node
  | pointer, .object members, hdefinition => by
      rw [collectAt, List.mem_append] at hdefinition
      rcases hdefinition with hdefinition | hdefinition
      · exact .of_member (declared_of_mem_collectUnder hdefinition)
      · exact .of_member (declared_of_mem_collectUnder hdefinition)
  | _, .null, hdefinition => nomatch hdefinition
  | _, .bool _, hdefinition => nomatch hdefinition
  | _, .number _, hdefinition => nomatch hdefinition
  | _, .string _, hdefinition => nomatch hdefinition
  | _, .array _, hdefinition => nomatch hdefinition

theorem declared_of_mem_collectUnder {definition : Definition} {pointer keyword : String} :
    ∀ {members : Members}, definition ∈ collectUnder pointer keyword members →
      ∃ entry ∈ members, definition.Declared entry.2
  | [], hdefinition => nomatch hdefinition
  | (key, .object entries) :: rest, hdefinition => by
      rw [collectUnder] at hdefinition
      split at hdefinition
      · exact ⟨_, List.mem_cons_self, .of_member (declared_of_mem_collectEntries hdefinition)⟩
      · obtain ⟨entry, hentry, hdeclared⟩ := declared_of_mem_collectUnder hdefinition
        exact ⟨entry, List.mem_cons_of_mem _ hentry, hdeclared⟩
  | (key, .null) :: rest, hdefinition | (key, .bool _) :: rest, hdefinition
  | (key, .number _) :: rest, hdefinition | (key, .string _) :: rest, hdefinition
  | (key, .array _) :: rest, hdefinition => by
      rw [collectUnder] at hdefinition
      · obtain ⟨entry, hentry, hdeclared⟩ := declared_of_mem_collectUnder hdefinition
        exact ⟨entry, List.mem_cons_of_mem _ hentry, hdeclared⟩
      · simp

theorem declared_of_mem_collectEntries {definition : Definition} {parent keyword : String} :
    ∀ {entries : Members}, definition ∈ collectEntries (parent ++ "/" ++ keyword) entries →
      ∃ entry ∈ entries, definition.Declared entry.2
  | [], hdefinition => nomatch hdefinition
  | (key, schema) :: rest, hdefinition => by
      rw [collectEntries] at hdefinition
      rw [List.mem_append, List.mem_append, Option.mem_toList] at hdefinition
      rcases hdefinition with (hown | hinside) | hlater
      · obtain ⟨hpointer, rfl, -⟩ := at?_eq_some hown
        exact ⟨_, List.mem_cons_self, ⟨parent, keyword, key, hpointer⟩, hpointer ▸ hown, .refl⟩
      · exact ⟨_, List.mem_cons_self, declared_of_mem_collectAt hinside⟩
      · obtain ⟨entry, hentry, hdeclared⟩ := declared_of_mem_collectEntries hlater
        exact ⟨entry, List.mem_cons_of_mem _ hentry, hdeclared⟩

end

/-- **Collected definitions** are declared in the document. -/
theorem declared_of_mem_collect {document : Json} {definition : Definition}
    (hdefinition : definition ∈ collect document) : definition.Declared document :=
  declared_of_mem_collectAt hdefinition

/-! ## Names -/

omit [Spelling] in
theorem length_pieces (separator : Char) (text : List Char) :
    (Text.pieces separator text).length = text.count separator + 1 := by
  induction text with
  | nil => rfl
  | cons c rest ih =>
      rw [Text.pieces, List.count_cons]
      split
      · rename_i hsame
        rw [List.length_cons, ih]
      · rename_i hother
        rw [Nat.add_zero, ← ih]
        cases hpieces : Text.pieces separator rest with
        | nil => simp [hpieces] at ih
        | cons piece more => rfl

/-- The pointer of a definition is a reference into the document. -/
theorem Declared.isLocal {definition : Definition} {node : Json}
    (hdeclared : definition.Declared node) :
    isLocalReference definition.pointer := by
  obtain ⟨-, -, hpath⟩ := at?_eq_some hdeclared.named
  unfold Name.definitionPath? Text.dropStart? at hpath
  by_cases hstart : Text.startsWith definition.pointer Pointer.localStart
  · rw [isLocalReference, hstart, Bool.or_true]
  · rw [if_neg hstart] at hpath
    cases hpath

/-- **Definitions lie below the root**, in a namespace of their own. -/
theorem Declared.namespace_ne_nil {definition : Definition} {node : Json}
    (hdeclared : definition.Declared node) : definition.namespace ≠ [] := by
  obtain ⟨parent, keyword, key, hpointer⟩ := hdeclared.place
  obtain ⟨-, -, hpath⟩ := at?_eq_some hdeclared.named
  -- the pointer has a slash before its keyword and one before its key
  have hslashes : 2 ≤ definition.pointer.toList.count '/' := by
    have hslash : "/".toList.count '/' = 1 := by decide
    simp only [hpointer, Pointer.child, String.toList_append, List.count_append, hslash]
    omega
  unfold Name.definitionPath? Text.dropStart? at hpath
  by_cases hstart : Text.startsWith definition.pointer Pointer.localStart
  · obtain ⟨rest, hrest⟩ := List.isPrefixOf_iff_prefix.mp hstart
    have hcount : 1 ≤ rest.count '/' := by
      have hfirst : Pointer.localStart.toList.count '/' = 1 := by decide
      rw [← hrest, List.count_append, hfirst] at hslashes
      omega
    have hdrop : definition.pointer.toList.drop Pointer.localStart.length = rest := by
      rw [← hrest, List.drop_left' String.length_toList]
    rw [if_pos hstart, hdrop] at hpath
    dsimp only at hpath
    split at hpath
    · cases hpath
    · obtain ⟨name, -, hname⟩ := Option.map_eq_some_iff.mp hpath
      obtain ⟨hnamespace, -⟩ := Prod.mk.inj hname
      intro hnil
      have hlength := congrArg List.length (hnamespace.trans hnil)
      rw [List.length_dropLast, List.length_map, Text.split, List.length_map, String.toList_ofList,
        length_pieces] at hlength
      simp only [List.length_nil] at hlength
      omega
  · rw [if_neg hstart] at hpath
    cases hpath

end Definition

end SchemaTypes
