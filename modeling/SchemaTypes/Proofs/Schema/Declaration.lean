import SchemaTypes.Proofs.Json.Distinct
import SchemaTypes.Proofs.Json.Pointer
import SchemaTypes.Schema.Lookup

/-!
# Definitions and the paths to them

A definition is reached from the root by steps, each through a keyword of definitions and the key
of an entry under it.  The collected definitions are those that can be reached in this way, each of
them once, in pre-order, and each can be found again by its pointer.

* `Declaration.IsDeclared`: the paths that lead to a definition.
* `Declaration.Precedes`: pre-order, as a relation between paths.
* `Declaration.mem_paths_iff` and `Declaration.pairwise_precedes_paths`: the paths in order.
* `Definition.map_some_collectAt`: one definition is collected for each path.
* `Definition.enumerates_collect`: the collected definitions.
-/

namespace SchemaTypes

namespace Json

/-- The entries under a keyword of a node. -/
def entries (node : Json) (keyword : String) : Members :=
  ((node.get? keyword).bind members?).getD []

theorem child?_of_get? {node child : Json} {key : String} (hchild : node.get? key = some child) :
    node.child? key = some child := by
  cases node with
  | object members => exact hchild
  | null | bool | number | string | array => cases hchild

theorem get?_of_mem_entries {node : Json} {keyword : String} {entry : String × Json}
    (hentry : entry ∈ node.entries keyword) :
    node.get? keyword = some (.object (node.entries keyword)) := by
  unfold entries at hentry ⊢
  cases hnode : node.get? keyword with
  | none => simp [hnode] at hentry
  | some child =>
      cases child with
      | object members => rfl
      | null | bool | number | string | array => simp [hnode, members?] at hentry

theorem within_of_get? {node child : Json} {key : String} (hchild : node.get? key = some child) :
    child.Within node := by
  cases node with
  | object members => exact .member (Members.mem_of_get? hchild) .refl
  | null | bool | number | string | array => cases hchild

theorem within_of_mem_entries {node : Json} {keyword : String} {entry : String × Json}
    (hentry : entry ∈ node.entries keyword) : entry.2.Within node :=
  .trans (.member hentry .refl) (within_of_get? (get?_of_mem_entries hentry))

theorem nodup_keys_entries {node : Json} (hdistinct : node.KeysDistinct) (keyword : String) :
    (Members.keys (node.entries keyword)).Nodup := by
  by_cases hentries : node.entries keyword = []
  · rw [hentries]
    exact List.nodup_nil
  · obtain ⟨entry, hentry⟩ := List.exists_mem_of_ne_nil _ hentries
    exact hdistinct _ (within_of_get? (get?_of_mem_entries hentry))

theorem sizeOf_lt_of_mem_entries {node : Json} {keyword : String} {entry : String × Json}
    (hentry : entry ∈ node.entries keyword) : sizeOf entry.2 < sizeOf node := by
  have hmember : ∀ {members : Members} {member : String × Json}, member ∈ members →
      sizeOf member.2 < sizeOf (Json.object members) := by
    intro members member hmember
    have hlist := List.sizeOf_lt_of_mem hmember
    obtain ⟨key, child⟩ := member
    simp only [Prod.mk.sizeOf_spec, object.sizeOf_spec] at hlist ⊢
    omega
  have hnode := get?_of_mem_entries hentry
  cases node with
  | object members =>
      exact (hmember hentry).trans (hmember (Members.mem_of_get? hnode))
  | null | bool | number | string | array => cases hnode

end Json

namespace Declaration

open Definition (keywords)

/-- A step from a schema to a definition inside it. -/
structure Step where
  keyword : String
  key : String
deriving DecidableEq

/-- The steps from a document to one of its nodes. -/
abbrev Path := List Step

/-- The keys that a path leads over. -/
def keys (path : Path) : List String := path.flatMap fun step => [step.keyword, step.key]

/-- The pointer to the end of a path. -/
def pointer (path : Path) : String := Pointer.descendant Pointer.root (keys path)

/-- The schema at the end of a path. -/
def schema? (node : Json) : Path → Option Json
  | [] => some node
  | step :: rest => ((node.entries step.keyword).get? step.key).bind (schema? · rest)

/-- A path that leads to a definition: keywords and keys of entries alternate. -/
structure IsDeclared (node : Json) (path : Path) : Prop where
  ne_nil : path ≠ []
  keyword : ∀ step ∈ path, step.keyword ∈ keywords
  schema : (schema? node path).isSome

/-- Pre-order of the definitions in a node. -/
inductive Precedes : Json → Path → Path → Prop
  /-- A definition comes before those inside it. -/
  | above {node : Json} {step : Step} {rest : Path} : Precedes node [] (step :: rest)
  /-- Definitions inside one entry are ordered as they are in the entry. -/
  | inside {node child : Json} {step : Step} {path other : Path}
      (hchild : (node.entries step.keyword).get? step.key = some child)
      (hprecedes : Precedes child path other) : Precedes node (step :: path) (step :: other)
  /-- Entries are in order of declaration. -/
  | entry {node : Json} {keyword key other : String} {path rest : Path}
      (horder : [key, other].Sublist (Members.keys (node.entries keyword))) :
      Precedes node (⟨keyword, key⟩ :: path) (⟨keyword, other⟩ :: rest)
  /-- The keywords are in order. -/
  | keyword {node : Json} {keyword other key last : String} {path rest : Path}
      (horder : [keyword, other].Sublist keywords) :
      Precedes node (⟨keyword, key⟩ :: path) (⟨other, last⟩ :: rest)

@[simp]
theorem keys_cons (step : Step) (rest : Path) :
    keys (step :: rest) = step.keyword :: step.key :: keys rest := rfl

theorem keys_injective : Function.Injective keys := by
  intro path other hsame
  induction path generalizing other with
  | nil =>
      cases other with
      | nil => rfl
      | cons step rest => cases hsame
  | cons step rest ih =>
      cases other with
      | nil => cases hsame
      | cons next more =>
          simp only [keys_cons, List.cons.injEq] at hsame
          obtain ⟨hkeyword, hkey, hrest⟩ := hsame
          have hstep : step = next := by
            cases step
            cases next
            exact congrArg₂ Step.mk hkeyword hkey
          rw [hstep, ih hrest]

theorem isDeclared_cons {node : Json} {step : Step} {rest : Path} :
    IsDeclared node (step :: rest) ↔ step.keyword ∈ keywords ∧
      ∃ child, (node.entries step.keyword).get? step.key = some child ∧
        (rest = [] ∨ IsDeclared child rest) := by
  constructor
  · rintro ⟨-, hkeyword, hschema⟩
    rw [List.forall_mem_cons] at hkeyword
    rw [schema?, Option.isSome_bind, Option.any_eq_true] at hschema
    obtain ⟨child, hchild, hrest⟩ := hschema
    refine ⟨hkeyword.1, child, hchild, ?_⟩
    by_cases hnil : rest = []
    · exact .inl hnil
    · exact .inr ⟨hnil, hkeyword.2, hrest⟩
  · rintro ⟨hkeyword, child, hchild, rfl | hrest⟩
    · refine ⟨List.cons_ne_nil _ _, List.forall_mem_singleton.mpr hkeyword, ?_⟩
      rw [schema?, hchild]
      rfl
    · refine ⟨List.cons_ne_nil _ _, List.forall_mem_cons.mpr ⟨hkeyword, hrest.keyword⟩, ?_⟩
      rw [schema?, hchild]
      exact hrest.schema

/-- Keywords of definitions lead into objects, whatever the keys are. -/
theorem at?_keys {node schema : Json} {path : Path} (hschema : schema? node path = some schema) :
    node.at? (keys path) = some schema := by
  induction path generalizing node with
  | nil => exact hschema
  | cons step rest ih =>
      obtain ⟨child, hchild, hrest⟩ := Option.bind_eq_some_iff.mp hschema
      have hentries := Json.get?_of_mem_entries (Members.mem_of_get? hchild)
      have hinner : (Json.object (node.entries step.keyword)).child? step.key = some child := hchild
      rw [keys_cons, Json.at?, Json.child?_of_get? hentries, Option.bind_some, Json.at?, hinner,
        Option.bind_some]
      exact ih hrest

/-- No definition precedes itself. -/
theorem Precedes.ne {node : Json} {path other : Path} (hprecedes : Precedes node path other)
    (hdistinct : node.KeysDistinct) : path ≠ other := by
  induction hprecedes with
  | above => exact (List.cons_ne_nil _ _).symm
  | inside hchild _ ih =>
      have hwithin := Json.within_of_mem_entries (Members.mem_of_get? hchild)
      intro hsame
      exact ih (hdistinct.within hwithin) (List.cons.inj hsame).2
  | @entry node keyword key _ _ _ horder =>
      intro hsame
      obtain ⟨hstep, -⟩ := List.cons.inj hsame
      obtain ⟨-, rfl⟩ := Step.mk.inj hstep
      have hpair := horder.nodup (Json.nodup_keys_entries hdistinct keyword)
      simp at hpair
  | keyword horder =>
      intro hsame
      obtain ⟨hstep, -⟩ := List.cons.inj hsame
      obtain ⟨rfl, -⟩ := Step.mk.inj hstep
      have hpair := horder.nodup (by decide)
      simp at hpair

/-! ## The paths of a document -/

/-- The paths to all definitions inside a node, in pre-order. -/
def paths (node : Json) : List Path :=
  keywords.flatMap fun keyword =>
    (node.entries keyword).attach.flatMap fun entry =>
      [⟨keyword, entry.1.1⟩] :: (paths entry.1.2).map (⟨keyword, entry.1.1⟩ :: ·)
termination_by sizeOf node
decreasing_by exact Json.sizeOf_lt_of_mem_entries entry.2

/-- The path to an entry, followed by the paths through it. -/
def pathsThrough (keyword : String) (entry : String × Json) : List Path :=
  [⟨keyword, entry.1⟩] :: (paths entry.2).map (⟨keyword, entry.1⟩ :: ·)

theorem paths_eq (node : Json) :
    paths node = keywords.flatMap fun keyword =>
      (node.entries keyword).flatMap (pathsThrough keyword) := by
  rw [paths]
  refine List.flatMap_congr fun keyword _ => ?_
  exact (List.flatMap_subtype fun _ _ => rfl).trans (congrArg _ List.unattach_attach)

theorem mem_pathsThrough {keyword : String} {entry : String × Json} {path : Path} :
    path ∈ pathsThrough keyword entry ↔
      ∃ rest, path = ⟨keyword, entry.1⟩ :: rest ∧ (rest = [] ∨ rest ∈ paths entry.2) := by
  rw [pathsThrough, List.mem_cons, List.mem_map]
  constructor
  · rintro (rfl | ⟨rest, hrest, rfl⟩)
    · exact ⟨[], rfl, .inl rfl⟩
    · exact ⟨rest, rfl, .inr hrest⟩
  · rintro ⟨rest, rfl, rfl | hrest⟩
    · exact .inl rfl
    · exact .inr ⟨rest, hrest, rfl⟩

/-- **Completeness.**  The paths of a node are those that lead to a definition. -/
theorem mem_paths_iff {node : Json} (hdistinct : node.KeysDistinct) {path : Path} :
    path ∈ paths node ↔ IsDeclared node path := by
  -- along the path, from its first step on
  induction path generalizing node with
  | nil =>
      refine iff_of_false ?_ fun hdeclared => hdeclared.ne_nil rfl
      rw [paths_eq]
      simp [mem_pathsThrough]
  | cons step rest ih =>
      have hkey : ∀ {child}, (node.entries step.keyword).get? step.key = some child ↔
          (step.key, child) ∈ node.entries step.keyword :=
        Members.get?_eq_some_iff (Json.nodup_keys_entries hdistinct step.keyword)
      rw [paths_eq, isDeclared_cons]
      simp only [List.mem_flatMap, mem_pathsThrough, List.cons.injEq]
      constructor
      · rintro ⟨keyword, hkeyword, entry, hentry, own, ⟨rfl, rfl⟩, hrest⟩
        refine ⟨hkeyword, entry.2, hkey.mpr hentry, hrest.imp_right fun hmem => ?_⟩
        exact (ih (hdistinct.within (Json.within_of_mem_entries hentry))).mp hmem
      · rintro ⟨hkeyword, child, hchild, hrest⟩
        have hentry := hkey.mp hchild
        refine ⟨step.keyword, hkeyword, (step.key, child), hentry, rest, ⟨rfl, rfl⟩, ?_⟩
        refine hrest.imp_right fun hdeclared => ?_
        exact (ih (hdistinct.within (Json.within_of_mem_entries hentry))).mpr hdeclared

theorem pairwise_sublist {α : Type} (items : List α) :
    items.Pairwise fun item other => [item, other].Sublist items :=
  List.pairwise_iff_forall_sublist.mpr id

/-- **Order.**  The paths of a node are in pre-order. -/
theorem pairwise_precedes_paths {node : Json} (hdistinct : node.KeysDistinct) :
    (paths node).Pairwise (Precedes node) := by
  induction node using paths.induct with
  | case1 node ih =>
      rw [paths_eq, List.pairwise_flatMap]
      refine ⟨fun keyword hkeyword => ?_, (pairwise_sublist keywords).imp ?_⟩
      · rw [List.pairwise_flatMap]
        have hentries := pairwise_sublist (Members.keys (node.entries keyword))
        refine ⟨fun entry hentry => ?_, (List.pairwise_map.mp hentries).imp ?_⟩
        · -- one entry: the definition itself, and then those inside it
          have hchild : (node.entries keyword).get? entry.1 = some entry.2 :=
            (Members.get?_eq_some_iff (Json.nodup_keys_entries hdistinct keyword)).mpr hentry
          have hinside := ih keyword ⟨entry, hentry⟩
            (hdistinct.within (Json.within_of_mem_entries hentry))
          rw [pathsThrough, List.pairwise_cons, List.pairwise_map]
          refine ⟨fun path hpath => ?_, hinside.imp fun hprecedes => .inside hchild hprecedes⟩
          obtain ⟨rest, hrest, rfl⟩ := List.mem_map.mp hpath
          have hdeclared := (mem_paths_iff
            (hdistinct.within (Json.within_of_mem_entries hentry))).mp hrest
          obtain ⟨step, more, rfl⟩ := List.exists_cons_of_ne_nil hdeclared.ne_nil
          exact .inside hchild .above
        · intro entry other horder path hpath last hlast
          obtain ⟨rest, rfl, -⟩ := mem_pathsThrough.mp hpath
          obtain ⟨more, rfl, -⟩ := mem_pathsThrough.mp hlast
          exact .entry horder
      · intro keyword other horder path hpath last hlast
        obtain ⟨entry, -, hpath⟩ := List.mem_flatMap.mp hpath
        obtain ⟨final, -, hlast⟩ := List.mem_flatMap.mp hlast
        obtain ⟨rest, rfl, -⟩ := mem_pathsThrough.mp hpath
        obtain ⟨more, rfl, -⟩ := mem_pathsThrough.mp hlast
        exact .keyword horder

theorem nodup_paths {node : Json} (hdistinct : node.KeysDistinct) : (paths node).Nodup :=
  (pairwise_precedes_paths hdistinct).imp fun hprecedes => hprecedes.ne hdistinct

end Declaration

/-! ## One definition for each path -/

section

variable [Spelling]

namespace Name

/-- Every pointer that starts with a key has a name, unless this key is empty. -/
theorem exists_definitionPath? {key : String} (hkey : key ≠ "") (keys : List String) :
    ∃ path, definitionPath? (Pointer.descendant Pointer.root (key :: keys)) = some path := by
  obtain ⟨rest, hrest⟩ : ∃ rest : List Char,
      (Pointer.descendant Pointer.root (key :: keys)).toList =
        '#' :: '/' :: (Pointer.escapeTokenChars key.toList ++ rest) := by
    refine ⟨keys.flatMap fun key => '/' :: Pointer.escapeTokenChars key.toList, ?_⟩
    rw [Pointer.toList_descendant]
    rfl
  have hstart : Text.dropStart? (Pointer.descendant Pointer.root (key :: keys))
      Pointer.localStart = some (String.ofList (Pointer.escapeTokenChars key.toList ++ rest)) := by
    rw [Text.dropStart?, Text.startsWith, hrest]
    rfl
  have hpath : (String.ofList (Pointer.escapeTokenChars key.toList ++ rest)).isEmpty = false := by
    have hchars : key.toList ≠ [] := fun hnil => hkey (String.toList_eq_nil_iff.mp hnil)
    rw [String.isEmpty_eq_false_iff, Ne, ← String.toList_eq_nil_iff, String.toList_ofList,
      List.append_eq_nil_iff, not_and_or]
    exact .inl (Pointer.escapeTokenChars_ne_nil hchars)
  -- a text that is split has at least one piece, and the last one names the type
  have hsegments : ∀ {text : String} {segment : String → String},
      (Text.split '/' text).map segment ≠ [] := by
    intro text segment hnil
    have hlength := congrArg List.length hnil
    rw [List.length_map, Text.split, List.length_map, Definition.length_pieces] at hlength
    cases hlength
  rw [definitionPath?, hstart]
  simp only [hpath, Bool.false_eq_true, if_false]
  exact ⟨_, Option.map_eq_some_iff.mpr ⟨_, List.getLast?_eq_some_getLast hsegments, rfl⟩⟩

end Name

namespace Definition

open Declaration (Step Path)

theorem collectUnder_eq {members : Members} (hdistinct : (Members.keys members).Nodup)
    (pointer keyword : String) :
    collectUnder pointer keyword members =
      collectEntries (pointer ++ "/" ++ keyword) ((Json.object members).entries keyword) := by
  induction members with
  | nil => rfl
  | cons member rest ih =>
      obtain ⟨key, child⟩ := member
      rw [Members.keys_cons, List.nodup_cons] at hdistinct
      -- a later member with this key could only be reached past one that is no object
      by_cases hkey : key = keyword
      · subst hkey
        have hlater : (Json.object rest).entries key = [] := by
          have hnone : Members.get? rest key = none :=
            Members.get?_eq_none fun entry hentry hsame =>
              hdistinct.1 (hsame ▸ @Members.mem_keys rest entry hentry)
          have hget : (Json.object rest).get? key = none := hnone
          rw [Json.entries, hget]
          rfl
        have hfirst : (Json.object ((key, child) :: rest)).entries key =
            (child.members?).getD [] := by
          have hget : (Json.object ((key, child) :: rest)).get? key = some child :=
            Members.get?_cons_self key child rest
          rw [Json.entries, hget]
          rfl
        rw [hfirst]
        cases child with
        | object entries =>
            rw [collectUnder, if_pos (beq_self_eq_true key)]
            rfl
        | null | bool | number | string | array =>
            rw [collectUnder, ih hdistinct.2, hlater]
            · rfl
            · simp
      · have hskip : (Json.object ((key, child) :: rest)).entries keyword =
            (Json.object rest).entries keyword := by
          have hget : (Json.object ((key, child) :: rest)).get? keyword =
              (Json.object rest).get? keyword :=
            (Members.get?_cons (key, child) rest keyword).trans (if_neg (Ne.symm hkey))
          rw [Json.entries, hget, Json.entries]
        rw [hskip, ← ih hdistinct.2]
        cases child with
        | object entries => rw [collectUnder, if_neg (beq_eq_false_iff_ne.mpr hkey ▸ nofun)]
        | null | bool | number | string | array =>
            rw [collectUnder]
            simp

theorem collectEntries_eq (pointer : String) (entries : Members) :
    collectEntries pointer entries = entries.flatMap fun entry =>
      (at? (Pointer.child pointer entry.1) entry.2).toList ++
        collectAt (Pointer.child pointer entry.1) entry.2 := by
  induction entries with
  | nil => rfl
  | cons entry rest ih =>
      obtain ⟨key, schema⟩ := entry
      rw [collectEntries, ih, List.flatMap_cons]

/-- What is collected at a node, keyword by keyword and entry by entry. -/
theorem collectAt_eq {node : Json} (hdistinct : node.KeysDistinct) (keys : List String) :
    collectAt (Pointer.descendant Pointer.root keys) node = keywords.flatMap fun keyword =>
      (node.entries keyword).flatMap fun entry =>
        (at? (Pointer.descendant Pointer.root (keys ++ [keyword, entry.1])) entry.2).toList ++
          collectAt (Pointer.descendant Pointer.root (keys ++ [keyword, entry.1])) entry.2 := by
  -- keywords of definitions need no escapes
  have hpointer : ∀ keyword ∈ keywords, ∀ key,
      Pointer.child (Pointer.descendant Pointer.root keys ++ "/" ++ keyword) key =
        Pointer.descendant Pointer.root (keys ++ [keyword, key]) := by
    intro keyword hkeyword key
    have hplain : Pointer.escapeToken keyword = keyword := by
      rcases List.mem_pair.mp hkeyword with rfl | rfl <;> decide
    rw [Pointer.descendant_append, ← Pointer.descendant_plain hplain]
    rfl
  cases node with
  | object members =>
      have hkeys := (Json.KeysDistinct.object.mp hdistinct).1
      have hunder : ∀ keyword ∈ keywords,
          collectUnder (Pointer.descendant Pointer.root keys) keyword members =
            ((Json.object members).entries keyword).flatMap fun entry =>
              (at? (Pointer.descendant Pointer.root (keys ++ [keyword, entry.1])) entry.2).toList ++
                collectAt (Pointer.descendant Pointer.root (keys ++ [keyword, entry.1])) entry.2 := by
        intro keyword hkeyword
        rw [collectUnder_eq hkeys, collectEntries_eq]
        simp only [hpointer keyword hkeyword]
      rw [collectAt, hunder _ (by decide), hunder _ (by decide), keywords, List.flatMap_cons,
        List.flatMap_singleton]
  | null | bool | number | string | array => rfl

/-- The definition at the end of a path that starts at the node with the given keys. -/
def ofPath? (node : Json) (keys : List String) (path : Path) : Option Definition :=
  (Declaration.schema? node path).bind
    (at? (Pointer.descendant Pointer.root (keys ++ Declaration.keys path)))

/-- Every entry has a name, since its pointer starts with a keyword. -/
theorem exists_at? {keys : List String} (hkeys : keys.head? ≠ some "") {keyword : String}
    (hkeyword : keyword ∈ keywords) (key : String) (schema : Json) :
    ∃ definition,
      at? (Pointer.descendant Pointer.root (keys ++ [keyword, key])) schema = some definition := by
  obtain ⟨first, rest, hall, hfirst⟩ : ∃ first rest, keys ++ [keyword, key] = first :: rest ∧
      first ≠ "" := by
    cases keys with
    | nil =>
        refine ⟨keyword, [key], rfl, ?_⟩
        rcases List.mem_pair.mp hkeyword with rfl | rfl <;> decide
    | cons first rest =>
        exact ⟨first, rest ++ [keyword, key], rfl, fun hsame => hkeys (hsame ▸ rfl)⟩
  obtain ⟨path, hpath⟩ := Name.exists_definitionPath? hfirst rest
  exact ⟨_, Option.map_eq_some_iff.mpr ⟨path, hall ▸ hpath, rfl⟩⟩

/-- **Collection follows the paths.**  One definition is collected for each path, in order. -/
theorem map_some_collectAt {node : Json} (hdistinct : node.KeysDistinct) {keys : List String}
    (hkeys : keys.head? ≠ some "") :
    (collectAt (Pointer.descendant Pointer.root keys) node).map some =
      (Declaration.paths node).map (ofPath? node keys) := by
  induction node using Declaration.paths.induct generalizing keys with
  | case1 node ih =>
      rw [collectAt_eq hdistinct, Declaration.paths_eq, List.map_flatMap, List.map_flatMap]
      refine List.flatMap_congr fun keyword hkeyword => ?_
      rw [List.map_flatMap, List.map_flatMap]
      refine List.flatMap_congr fun entry hentry => ?_
      have hchild : (node.entries keyword).get? entry.1 = some entry.2 :=
        (Members.get?_eq_some_iff (Json.nodup_keys_entries hdistinct keyword)).mpr hentry
      have hpath : ∀ rest, ofPath? node keys (⟨keyword, entry.1⟩ :: rest) =
          ofPath? entry.2 (keys ++ [keyword, entry.1]) rest := by
        intro rest
        rw [ofPath?, ofPath?, Declaration.schema?, hchild, Option.bind_some, Declaration.keys_cons,
          List.append_assoc]
        rfl
      -- no keyword is empty, so that the keys below do not begin with the empty one either
      have hnext : (keys ++ [keyword, entry.1]).head? ≠ some "" := by
        cases keys with
        | nil =>
            intro hempty
            obtain rfl := Option.some.inj hempty
            exact absurd hkeyword (by decide)
        | cons first rest => exact hkeys
      obtain ⟨own, hown⟩ := exists_at? hkeys hkeyword entry.1 entry.2
      have hfirst : ofPath? node keys [⟨keyword, entry.1⟩] = some own := by
        rw [hpath, ofPath?, Declaration.schema?, Option.bind_some, Declaration.keys,
          List.flatMap_nil, List.append_nil]
        exact hown
      have hinside := ih keyword ⟨entry, hentry⟩
        (hdistinct.within (Json.within_of_mem_entries hentry)) hnext
      rw [Declaration.pathsThrough, List.map_cons, List.map_map, hown, Option.toList_some,
        List.singleton_append, List.map_cons, hinside, hfirst]
      exact congrArg _ (List.map_congr_left fun rest _ => (hpath rest).symm)

/-- The definition is the one at the end of a path: it has its schema, its pointer, and the name
that belongs to the pointer. -/
structure IsAt (document : Json) (path : Path) (definition : Definition) : Prop where
  pointer : definition.pointer = Declaration.pointer path
  schema : Declaration.schema? document path = some definition.schema
  named : Name.definitionPath? definition.pointer =
    some (definition.namespace, definition.typeName)

/-- A list of all definitions of a document, with the paths to them. -/
structure Enumerates (document : Json) (paths : List Path) (collected : List Definition) :
    Prop where
  /-- The paths are those that lead to a definition. -/
  mem_iff : ∀ path, path ∈ paths ↔ Declaration.IsDeclared document path
  nodup : paths.Nodup
  ordered : paths.Pairwise (Declaration.Precedes document)
  /-- There is one definition for each path, and no other. -/
  isAt : List.Forall₂ (IsAt document) paths collected
  pointers : (collected.map (·.pointer)).Nodup
  /-- A definition is found by its pointer. -/
  lookup : ∀ definition ∈ collected, ∀ lookup : Lookup, lookup.root = document →
    lookup.external = [] → lookup.schema? definition.pointer = some definition.schema

theorem isAt_of_ofPath? {document : Json} {path : Path} {definition : Definition}
    (hdefinition : ofPath? document [] path = some definition) : IsAt document path definition := by
  obtain ⟨schema, hschema, hat⟩ := Option.bind_eq_some_iff.mp hdefinition
  obtain ⟨hpointer, rfl, hnamed⟩ := at?_eq_some hat
  exact ⟨hpointer, hschema, hpointer ▸ hnamed⟩

theorem IsAt.schema?_eq {document : Json} {path : Path} {definition : Definition}
    (hat : IsAt document path definition) {lookup : Lookup} (hroot : lookup.root = document)
    (hexternal : lookup.external = []) :
    lookup.schema? definition.pointer = some definition.schema := by
  have hnamed : lookup.schema? definition.pointer = document.named? definition.pointer := by
    rw [Lookup.schema?, hexternal, hroot]
    rfl
  rw [hnamed, hat.pointer, Declaration.pointer, Json.named?_descendant]
  exact Declaration.at?_keys hat.schema

theorem map_some_collect {document : Json} (hdistinct : document.KeysDistinct) :
    (collect document).map some = (Declaration.paths document).map (ofPath? document []) :=
  @map_some_collectAt _ document hdistinct [] nofun

/-- Collected definitions are at the ends of paths. -/
theorem exists_isAt_of_mem_collect {document : Json} (hdistinct : document.KeysDistinct)
    {definition : Definition} (hdefinition : definition ∈ collect document) :
    ∃ path, Declaration.IsDeclared document path ∧ IsAt document path definition := by
  have hmem : some definition ∈ (collect document).map some := List.mem_map_of_mem hdefinition
  rw [map_some_collect hdistinct] at hmem
  obtain ⟨path, hdeclared, hpath⟩ := List.mem_map.mp hmem
  exact ⟨path, (Declaration.mem_paths_iff hdistinct).mp hdeclared, isAt_of_ofPath? hpath⟩

omit [Spelling] in
theorem forall₂_eq_iff {α β γ : Type} {left : α → γ} {right : β → γ} {items : List α}
    {others : List β} :
    List.Forall₂ (fun item other => left item = right other) items others ↔
      items.map left = others.map right := by
  rw [← List.forall₂_eq_eq_eq, List.forall₂_map_left_iff, List.forall₂_map_right_iff]

/-- **Collected definitions.**  For every document, one definition is collected for each path that
leads to one, and no other; they come in pre-order, with distinct pointers, and each pointer leads
back to the schema. -/
theorem enumerates_collect {document : Json} (hdistinct : document.KeysDistinct) :
    ∃ paths, Enumerates document paths (collect document) := by
  have hcollected : List.Forall₂ (IsAt document) (Declaration.paths document)
      (collect document) :=
    (forall₂_eq_iff.mpr (map_some_collect hdistinct).symm).imp
      fun path definition => isAt_of_ofPath?
  have hpointers : (Declaration.paths document).map Declaration.pointer =
      (collect document).map (·.pointer) :=
    forall₂_eq_iff.mp (hcollected.imp fun path definition hat => hat.pointer.symm)
  have hinjective : Function.Injective Declaration.pointer :=
    Pointer.descendant_root_injective.comp Declaration.keys_injective
  have hnodup := Declaration.nodup_paths hdistinct
  exact ⟨Declaration.paths document, {
    mem_iff := fun path => Declaration.mem_paths_iff hdistinct
    nodup := hnodup
    ordered := Declaration.pairwise_precedes_paths hdistinct
    isAt := hcollected
    pointers := hpointers ▸ hnodup.map hinjective
    lookup := by
      intro definition hdefinition lookup hroot hexternal
      obtain ⟨path, -, hat⟩ := exists_isAt_of_mem_collect hdistinct hdefinition
      exact hat.schema?_eq hroot hexternal }⟩

end Definition

end

namespace Definition

attribute [local instance] Spelling.plain

/-- A document with `$defs` before `definitions`, a definition inside another, and keys that have to
be escaped or are empty. -/
def nestedDefinitions : Json := .object [
  ("$defs", .object [("", .bool true)]),
  ("definitions", .object [
    ("a/b", .object [("$defs", .object [("~1", .object [])])]),
    ("c", .array [])])]

theorem enumerates_nestedDefinitions :
    nestedDefinitions.KeysDistinct ∧
      (∃ paths, Enumerates nestedDefinitions paths (collect nestedDefinitions)) ∧
      (collect nestedDefinitions).map (·.pointer) = [
        "#/definitions/a~1b", "#/definitions/a~1b/$defs/~01", "#/definitions/c", "#/$defs/"] := by
  have hdistinct : nestedDefinitions.KeysDistinct := by
    simp [nestedDefinitions]
  exact ⟨hdistinct, enumerates_collect hdistinct, by decide +kernel⟩

end Definition

end SchemaTypes
