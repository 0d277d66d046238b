import SchemaTypes.Proofs.Json.Members
import SchemaTypes.Proofs.Schema.Tracing
import SchemaTypes.Schema.Embedding

/-!
# References of embedded schemas

An embedded schema keeps only references that resolve in the document that it is taken from.  In
the embedded schema itself such a reference may still lead nowhere: what it names lies below a node
that carries a reference of its own, and if that one had to go, the node went with all that is below
it.  This file shows that there is no other way for a reference to dangle.

* `Embedding.child?_detach`: replacing nodes and following a key commute at nodes that are kept.
* `Embedding.isSome_at?_detach`: a path still leads somewhere when no node on the way is replaced.
* `Embedding.isResolvable_of_within`: references that an embedded schema carries.
* `Embedding.noneDangling_embed_iff`: when all of them resolve in the embedded schema.
-/

namespace SchemaTypes

namespace Embedding

open Json

/-! ## Nodes that are replaced -/

/-- A node with a reference that has to go. -/
def Replaced (resolvable : String → Bool) (node : Json) : Prop :=
  ∃ reference, node.reference? = some reference ∧ resolvable reference = false

section

variable {resolvable : String → Bool} {node : Json}

theorem detach_of_replaced (hnode : Replaced resolvable node) :
    detach resolvable node = .object [] := by
  obtain ⟨reference, hreference, hunresolvable⟩ := hnode
  cases node with
  | object members =>
      rw [detach, hreference, Option.map_some, Option.getD_some, hunresolvable]
      simp
  | null | bool | number | string | array => simp [reference?, get?, members?] at hreference

theorem detach_object_of_kept {members : Members}
    (hnode : ¬Replaced resolvable (.object members)) :
    detach resolvable (.object members) = .object (detachMembers resolvable members) := by
  rw [detach, if_pos]
  cases hreference : (Json.object members).reference? with
  | none => rfl
  | some reference =>
      by_contra hunresolvable
      exact hnode ⟨reference, hreference, by simpa using hunresolvable⟩

theorem get?_detachMembers (members : Members) (key : String) :
    Members.get? (detachMembers resolvable members) key =
      (Members.get? members key).map (detach resolvable) := by
  induction members with
  | nil => rfl
  | cons entry rest ih =>
      obtain ⟨own, child⟩ := entry
      rw [detachMembers, Members.get?_cons, Members.get?_cons, ih]
      split <;> rfl

theorem detachItems_eq_map (items : List Json) :
    detachItems resolvable items = items.map (detach resolvable) := by
  induction items with
  | nil => rfl
  | cons item rest ih => rw [detachItems, ih, List.map_cons]

/-- At a node that is kept, the children are those of the node with nodes replaced in them. -/
theorem child?_detach (hnode : ¬Replaced resolvable node) (key : String) :
    (detach resolvable node).child? key = (node.child? key).map (detach resolvable) := by
  cases node with
  | object members =>
      rw [detach_object_of_kept hnode, child?, child?, get?_detachMembers]
  | array items =>
      rw [detach, detachItems_eq_map, child?, child?]
      cases Pointer.index? key with
      | none => rfl
      | some index => simp
  | null | bool | number | string => rfl

/-- **Paths after replacing nodes.**  A path leads somewhere when it did so before and no node
strictly above its end is replaced. -/
theorem isSome_at?_detach (keys : List String) :
    ((detach resolvable node).at? keys).isSome ↔ (node.at? keys).isSome ∧
      ∀ outer inner above, keys = outer ++ inner → inner ≠ [] → node.at? outer = some above →
        ¬Replaced resolvable above := by
  induction keys generalizing node with
  | nil =>
      refine iff_of_true rfl ⟨rfl, fun outer inner above hkeys hinner => ?_⟩
      exact absurd (List.append_eq_nil_iff.mp hkeys.symm).2 hinner
  | cons key rest ih =>
      by_cases hnode : Replaced resolvable node
      · have hnone : ((Json.object []).at? (key :: rest)).isSome = false := rfl
        rw [detach_of_replaced hnode, hnone]
        refine iff_of_false Bool.false_ne_true fun hkept => ?_
        exact hkept.2 [] (key :: rest) node rfl (List.cons_ne_nil _ _) rfl hnode
      · rw [at?, child?_detach hnode, at?]
        cases hchild : node.child? key with
        | none => simp
        | some child =>
            rw [Option.map_some, Option.bind_some, Option.bind_some, ih]
            refine and_congr_right fun _ => ⟨fun hkept => ?_, fun hkept => ?_⟩
            · -- the node itself is kept, and what lies below it is above the rest of the path
              intro outer inner above hkeys hinner habove
              cases outer with
              | nil =>
                  obtain rfl := Option.some.inj habove
                  exact hnode
              | cons first outer =>
                  obtain ⟨rfl, hrest⟩ := List.cons.inj hkeys
                  rw [at?, hchild, Option.bind_some] at habove
                  exact hkept outer inner above hrest hinner habove
            · intro outer inner above hkeys hinner habove
              refine hkept (key :: outer) inner above (by rw [hkeys, List.cons_append]) hinner ?_
              rw [at?, hchild, Option.bind_some]
              exact habove

theorem string?_detach (node : Json) : (detach resolvable node).string? = node.string? := by
  cases node with
  | object members =>
      rw [detach]
      split <;> rfl
  | null | bool | number | string | array => rfl

theorem reference?_detachMembers (members : Members) :
    (Json.object (detachMembers resolvable members)).reference? =
      (Json.object members).reference? := by
  simp only [reference?, get?, members?, Option.bind_some, get?_detachMembers]
  cases Members.get? members "$ref" with
  | none => rfl
  | some value => exact string?_detach value

/-! ## References that are left -/

/-- The empty schema carries no reference. -/
theorem reference?_of_within_empty {inner : Json} (hinner : inner.Within (.object [])) :
    inner.reference? = none := by
  obtain rfl : inner = .object [] := by simpa using hinner
  rfl

mutual

/-- After nodes have been replaced, only references are left that need not go. -/
theorem resolvable_of_within_detach {inner : Json} {reference : String}
    (hreference : inner.reference? = some reference) :
    ∀ {node : Json}, inner.Within (detach resolvable node) → resolvable reference = true
  | .object members, hwithin => by
      by_cases hnode : Replaced resolvable (.object members)
      · rw [detach_of_replaced hnode] at hwithin
        rw [reference?_of_within_empty hwithin] at hreference
        cases hreference
      · rw [detach_object_of_kept hnode, within_object] at hwithin
        rcases hwithin with rfl | ⟨member, hmember, hwithin⟩
        · rw [reference?_detachMembers] at hreference
          by_contra hunresolvable
          exact hnode ⟨reference, hreference, by simpa using hunresolvable⟩
        · exact resolvable_of_within_detachMembers hreference hmember hwithin
  | .array items, hwithin => by
      rw [detach] at hwithin
      rcases hwithin with _ | _ | ⟨hitem, hwithin⟩
      · cases hreference
      · exact resolvable_of_within_detachItems hreference hitem hwithin
  | .null, hwithin | .bool _, hwithin | .number _, hwithin | .string _, hwithin => by
      rcases hwithin with _ | _ | _
      cases hreference

theorem resolvable_of_within_detachMembers {inner : Json} {reference : String}
    (hreference : inner.reference? = some reference) {member : String × Json} :
    ∀ {members : Members}, member ∈ detachMembers resolvable members → inner.Within member.2 →
      resolvable reference = true
  | [], hmember, _ => nomatch hmember
  | (key, child) :: rest, hmember, hwithin => by
      rw [detachMembers] at hmember
      rcases List.mem_cons.mp hmember with rfl | hmember
      · exact resolvable_of_within_detach hreference hwithin
      · exact resolvable_of_within_detachMembers hreference hmember hwithin

theorem resolvable_of_within_detachItems {inner : Json} {reference : String}
    (hreference : inner.reference? = some reference) {item : Json} :
    ∀ {items : List Json}, item ∈ detachItems resolvable items → inner.Within item →
      resolvable reference = true
  | [], hitem, _ => nomatch hitem
  | own :: rest, hitem, hwithin => by
      rw [detachItems] at hitem
      rcases List.mem_cons.mp hitem with rfl | hitem
      · exact resolvable_of_within_detach hreference hwithin
      · exact resolvable_of_within_detachItems hreference hitem hwithin

end

/-! ## Definitions that are attached -/

/-- Attached definitions take the place of those that the schema has itself. -/
theorem get?_attachDefinitions (root : Json) (members : Members) (key : String) :
    Members.get? (attachDefinitions resolvable root members) key =
      ((if key ∈ Definition.keywords then root.get? key else none).map (detach resolvable)).or
        (Members.get? members key) := by
  unfold attachDefinitions
  -- the members grow along the loop over the keywords
  induction Definition.keywords generalizing members with
  | nil => simp
  | cons keyword rest ih =>
      rw [List.foldl_cons, ih]
      cases hdefinitions : root.get? keyword with
      | none =>
          by_cases hkey : key = keyword
          · simp [hkey, hdefinitions]
          · simp [hkey]
      | some definitions =>
          by_cases hkey : key = keyword
          · simp only [hkey, hdefinitions, Members.get?_insert, List.mem_cons, true_or, if_true]
            split <;> rfl
          · simp [hkey, Members.get?_insert]

/-- Everything else comes from the schema itself. -/
theorem mem_attachDefinitions {root : Json} {members : Members} {entry : String × Json}
    (hentry : entry ∈ attachDefinitions resolvable root members) :
    entry ∈ members ∨ ∃ definitions, entry.2 = detach resolvable definitions := by
  unfold attachDefinitions at hentry
  generalize Definition.keywords = keywords at hentry
  induction keywords generalizing members with
  | nil => exact .inl hentry
  | cons keyword rest ih =>
      rw [List.foldl_cons] at hentry
      rcases ih hentry with hearlier | hattached
      · cases hdefinitions : root.get? keyword with
        | none =>
            rw [hdefinitions] at hearlier
            exact .inl hearlier
        | some definitions =>
            rw [hdefinitions] at hearlier
            rcases Members.mem_of_mem_insert hearlier with hown | rfl
            · exact .inl hown
            · exact .inr ⟨definitions, rfl⟩
      · exact .inr hattached

end

/-! ## References into the definitions -/

/-- A reference to a node of the document other than its root, as a pointer. -/
theorem dropStart?_root {reference path : String}
    (hpath : Text.dropStart? reference Pointer.localStart = some path) :
    Text.dropStart? reference Pointer.root = some ("/" ++ path) := by
  unfold Text.dropStart? at hpath ⊢
  split at hpath
  · rename_i hstart
    obtain ⟨rest, hrest⟩ := List.isPrefixOf_iff_prefix.mp hstart
    obtain rfl := Option.some.inj hpath
    have htext : reference.toList = '#' :: '/' :: rest := hrest.symm
    have hroot : Text.startsWith reference Pointer.root := by
      rw [Text.startsWith, htext]
      rfl
    rw [if_pos hroot, htext]
    refine congrArg some (String.toList_injective ?_)
    simp only [Pointer.root, Pointer.localStart, String.toList_ofList, String.toList_append]
    rfl
  · cases hpath

theorem keys?_slash (path : String) :
    Pointer.keys? ("/" ++ path) = some ((Text.pieces '/' path.toList).map fun token =>
      String.ofList (Pointer.unescapeTokenChars token)) := by
  have hslash : ("/" ++ path).toList = '/' :: path.toList := by simp
  rw [Pointer.keys?, hslash]
  rfl

/-- A pointer that starts with a keyword of definitions has it as its first key. -/
theorem exists_keys_of_head? {path keyword : String} (hkeyword : keyword ∈ Definition.keywords)
    (hhead : (Text.split '/' path).head? = some keyword) :
    ∃ keys, Pointer.keys? ("/" ++ path) = some (keyword :: keys) := by
  rw [keys?_slash]
  rw [Text.split, List.head?_map] at hhead
  cases hpieces : Text.pieces '/' path.toList with
  | nil => simp [hpieces] at hhead
  | cons piece more =>
      rw [hpieces, List.head?_cons, Option.map_some, Option.some.injEq] at hhead
      have hpiece : piece = keyword.toList := by rw [← hhead, String.toList_ofList]
      -- neither keyword has a tilde in it
      have hkey : String.ofList (Pointer.unescapeTokenChars piece) = keyword := by
        rw [hpiece]
        rcases List.mem_pair.mp hkeyword with rfl | rfl <;> decide
      rw [List.map_cons, hkey]
      exact ⟨_, rfl⟩

theorem child?_eq_get? {keyword : String} (hkeyword : keyword ∈ Definition.keywords)
    (node : Json) : node.child? keyword = node.get? keyword := by
  cases node with
  | array items =>
      have hindex : Pointer.index? keyword = none := by
        rcases List.mem_pair.mp hkeyword with rfl | rfl <;> decide
      rw [child?, hindex]
      rfl
  | null | bool | number | string | object => rfl

/-- What a reference that need not go looks like, apart from that to the root. -/
theorem exists_keys_of_isResolvable {root : Json} {isRoot : Bool} {reference : String}
    (hreference : isResolvable root isRoot reference = true) (hroot : reference ≠ Pointer.root) :
    ∃ path keyword keys definitions, Text.dropStart? reference Pointer.root = some path ∧
      Pointer.keys? path = some (keyword :: keys) ∧ keyword ∈ Definition.keywords ∧
      root.get? keyword = some definitions ∧ (definitions.at? keys).isSome := by
  rw [isResolvable, if_neg (by simpa using hroot)] at hreference
  cases hpath : Text.dropStart? reference Pointer.localStart with
  | none => simp [hpath] at hreference
  | some path =>
      simp only [hpath, Bool.and_eq_true, List.any_eq_true, beq_iff_eq] at hreference
      obtain ⟨⟨keyword, hkeyword, hhead⟩, hnode⟩ := hreference
      obtain ⟨keys, hkeys⟩ := exists_keys_of_head? hkeyword hhead
      rw [atPointer?, hkeys, Option.bind_some, at?, child?_eq_get? hkeyword] at hnode
      cases hdefinitions : root.get? keyword with
      | none => simp [hdefinitions] at hnode
      | some definitions =>
          rw [hdefinitions, Option.bind_some] at hnode
          exact ⟨_, keyword, keys, definitions, dropStart?_root hpath, hkeys, hkeyword,
            hdefinitions, hnode⟩

/-! ## Embedded schemas -/

/-- A reference names a node of an embedded schema.  The sign alone stands for the root of the
document, which only its own schema embeds. -/
def ResolvesIn (embedded : Json) (isRoot : Bool) (reference : String) : Prop :=
  if reference = Pointer.root then isRoot = true
  else (embedded.referenced? reference).isSome

/-- Every reference that a node of an embedded schema carries names a node of it. -/
def NoneDangling (embedded : Json) (isRoot : Bool) : Prop :=
  ∀ (node : Json) (reference : String), node.Within embedded → node.reference? = some reference →
    ResolvesIn embedded isRoot reference

/-- On the way from the root of the document to the node that a reference names, strictly between
the two, lies a node that is replaced. -/
def LeadsThroughReplaced (root : Json) (isRoot : Bool) (reference : String) : Prop :=
  ∃ path outer inner above, Text.dropStart? reference Pointer.root = some path ∧
    Pointer.keys? path = some (outer ++ inner) ∧ outer ≠ [] ∧ inner ≠ [] ∧
    root.at? outer = some above ∧ Replaced (isResolvable root isRoot) above

section

variable (members : Members) (root : Json) (isRoot : Bool)

/-- The schema itself is an object, whether it is kept or replaced. -/
theorem exists_embed_eq : ∃ kept,
    detach (isResolvable root isRoot) (.object members) = .object kept ∧
      embed (.object members) root isRoot =
        .object (attachDefinitions (isResolvable root isRoot) root kept) := by
  by_cases hreplaced : Replaced (isResolvable root isRoot) (.object members)
  · have hempty := detach_of_replaced hreplaced
    exact ⟨[], hempty, by rw [embed, hempty]⟩
  · have hkept := detach_object_of_kept hreplaced
    exact ⟨_, hkept, by rw [embed, hkept]⟩

variable {members root isRoot} {reference : String}

/-- References that an embedded schema carries resolve in the document. -/
theorem isResolvable_of_within {node : Json}
    (hnode : node.Within (embed (.object members) root isRoot))
    (hreference : node.reference? = some reference) :
    isResolvable root isRoot reference = true := by
  obtain ⟨kept, hkept, hembedded⟩ := exists_embed_eq members root isRoot
  rw [hembedded, within_object] at hnode
  rcases hnode with rfl | ⟨entry, hentry, hwithin⟩
  · -- attached definitions are no references
    have hown : (Json.object kept).reference? = some reference := by
      rw [← hreference]
      simp [reference?, get?, members?, get?_attachDefinitions, Definition.keywords]
    have hroot : (Json.object kept).Within
        (detach (isResolvable root isRoot) (.object members)) := hkept ▸ .refl
    exact resolvable_of_within_detach hown hroot
  · rcases mem_attachDefinitions hentry with hown | ⟨definitions, hdefinitions⟩
    · have hroot : node.Within (detach (isResolvable root isRoot) (.object members)) :=
        hkept ▸ .member hown hwithin
      exact resolvable_of_within_detach hreference hroot
    · exact resolvable_of_within_detach hreference (hdefinitions ▸ hwithin)

/-- A reference that resolves in the document does so in the embedded schema, unless a node on the
way is replaced. -/
theorem resolvesIn_embed_iff (hreference : isResolvable root isRoot reference = true) :
    ResolvesIn (embed (.object members) root isRoot) isRoot reference ↔
      ¬LeadsThroughReplaced root isRoot reference := by
  by_cases hroot : reference = Pointer.root
  · subst hroot
    rw [isResolvable, if_pos (by decide)] at hreference
    refine iff_of_true (by rw [ResolvesIn, if_pos rfl, hreference]) ?_
    rintro ⟨path, outer, inner, above, hpath, hkeys, houter, -⟩
    obtain rfl : path = "" := by
      rw [← Option.some.injEq, ← hpath]
      decide
    obtain hnil : [] = outer ++ inner := Option.some.inj hkeys
    exact houter (List.append_eq_nil_iff.mp hnil.symm).1
  · obtain ⟨path, keyword, keys, definitions, hpath, hkeys, hkeyword, hdefinitions, htarget⟩ :=
      exists_keys_of_isResolvable hreference hroot
    -- the reference leads into the definitions of the root, which the embedded schema takes over
    -- detached
    obtain ⟨kept, -, hembedded⟩ := exists_embed_eq members root isRoot
    have hattached : (embed (.object members) root isRoot).get? keyword =
        some (detach (isResolvable root isRoot) definitions) := by
      rw [hembedded, get?, members?, Option.bind_some, get?_attachDefinitions, if_pos hkeyword,
        hdefinitions]
      rfl
    rw [ResolvesIn, if_neg hroot, referenced?, hpath, Option.bind_some, atPointer?, hkeys,
      Option.bind_some, at?, child?_eq_get? hkeyword, hattached, Option.bind_some,
      isSome_at?_detach, and_iff_right htarget]
    constructor
    · rintro hkept ⟨path', outer, inner, above, hpath', hkeys', houter, hinner, habove, hreplaced⟩
      obtain rfl : path = path' := Option.some.inj (hpath.symm.trans hpath')
      obtain hsplit : keyword :: keys = outer ++ inner := Option.some.inj (hkeys.symm.trans hkeys')
      -- a replaced node lies below the keyword of the definitions
      obtain ⟨first, outer, rfl⟩ := List.exists_cons_of_ne_nil houter
      obtain ⟨rfl, hrest⟩ := List.cons.inj hsplit
      rw [at?, child?_eq_get? hkeyword, hdefinitions, Option.bind_some] at habove
      exact hkept outer inner above hrest hinner habove hreplaced
    · intro hpassed outer inner above hsplit hinner habove hreplaced
      refine hpassed ⟨path, keyword :: outer, inner, above, hpath, by rw [hkeys, hsplit]; rfl,
        List.cons_ne_nil _ _, hinner, ?_, hreplaced⟩
      rw [at?, child?_eq_get? hkeyword, hdefinitions, Option.bind_some, habove]

end

/-- **Dangling references.**  All references of an embedded schema resolve in it exactly when none
of them leads through a node that is replaced. -/
theorem noneDangling_embed_iff (members : Members) (root : Json) (isRoot : Bool) :
    NoneDangling (embed (.object members) root isRoot) isRoot ↔
      ∀ (node : Json) (reference : String), node.Within (embed (.object members) root isRoot) →
        node.reference? = some reference → ¬LeadsThroughReplaced root isRoot reference :=
  forall_congr' fun _ => forall_congr' fun _ => forall_congr' fun hnode =>
    forall_congr' fun hreference => resolvesIn_embed_iff (isResolvable_of_within hnode hreference)

/-- A document with a definition that refers to another document and declares a definition of its
own, and with a reference to the latter. -/
def nestedBelowRemote : Json := .object [
  ("definitions", .object [
    ("A", .object [
      ("$ref", .string "other.json"),
      ("definitions", .object [("B", .object [("type", .string "string")])])]),
    ("C", .object [("$ref", .string "#/definitions/A/definitions/B")])])]

/-- What replaces the first definition has no place for the second one, to which the reference is
kept. -/
theorem not_noneDangling_nestedBelowRemote :
    ¬NoneDangling (embed (.object [("type", .string "object")]) nestedBelowRemote false) false := by
  have hembedded : embed (.object [("type", .string "object")]) nestedBelowRemote false = .object [
      ("type", .string "object"),
      ("definitions", .object [
        ("A", .object []),
        ("C", .object [("$ref", .string "#/definitions/A/definitions/B")])])] := by
    rfl
  intro hall
  have hresolves := hall (.object [("$ref", .string "#/definitions/A/definitions/B")])
    "#/definitions/A/definitions/B" (by simp [hembedded]) rfl
  rw [hembedded, ResolvesIn, if_neg (by decide)] at hresolves
  revert hresolves
  decide +kernel

end Embedding

end SchemaTypes
