import SchemaTypes.Proofs.Name.Suffix
import SchemaTypes.Proofs.Property.Origin
import SchemaTypes.Proofs.Property.Resolution

/-!
# Types of one property have names of their own

Resolving a node gives names to the types it needs: the suffix at hand and what resolution has added
on its way down.  Items, alternatives, patterns and the remaining keys each add a word of their own,
alternatives and patterns with a number.  Two types share a name only if the same words have been
added, and these lead to the same place.

* `NamedBy`: types whose names are told apart by what comes after a suffix.
* `NamedBy.deeper`, `NamedBy.append`: one step down, and types next to each other.
* `nodup_paths_resolveNode`: the types that one property needs are distinct.
-/

namespace SchemaTypes

open Outcome Resolve Name

section

variable [Spelling]

/-- The types are named by `words` after a suffix, one after the other. -/
structure NamedBy (request : ClassRequest) (key suffix : String) (types : List MintedType)
    (words : List String) : Prop where
  paths : types.map MintedType.path = words.map fun word => request.pathFor key (suffix ++ word)
  suffixes : ∀ word ∈ words, IsSuffix word
  distinct : words.Nodup

namespace NamedBy

variable {request : ClassRequest} {key suffix : String} {types others : List MintedType}
  {words words' : List String}

theorem nil : NamedBy request key suffix [] [] := ⟨rfl, List.forall_mem_nil _, List.nodup_nil⟩

/-- A single type with a word after the suffix. -/
theorem single {minted : MintedType} {word : String} (hword : IsSuffix word)
    (hpath : minted.path = request.pathFor key (suffix ++ word)) :
    NamedBy request key suffix [minted] [word] where
  paths := by rw [List.map_singleton, List.map_singleton, hpath]
  suffixes := List.forall_mem_singleton.mpr hword
  distinct := List.nodup_singleton word

theorem own {minted : MintedType} (hpath : minted.path = request.pathFor key suffix) :
    NamedBy request key suffix [minted] [""] :=
  single ⟨by simp, by simp⟩ (by rw [hpath, String.append_empty])

/-- Types that stand further down are named by longer words. -/
theorem deeper {step : String} (hstep : IsSuffix step)
    (htypes : NamedBy request key (suffix ++ step) types words) :
    NamedBy request key suffix types (words.map (step ++ ·)) where
  paths := by
    rw [htypes.paths, List.map_map]
    exact List.map_congr_left fun word _ => by rw [Function.comp, String.append_assoc]
  suffixes := by
    rw [List.forall_mem_map]
    exact fun word hword => hstep.append (htypes.suffixes word hword)
  distinct := htypes.distinct.map fun word word' hsame =>
    (String.append_right_inj step).mp hsame

/-- Types next to each other. -/
theorem append (htypes : NamedBy request key suffix types words)
    (hothers : NamedBy request key suffix others words')
    (hdisjoint : ∀ word ∈ words, ∀ word' ∈ words', word ≠ word') :
    NamedBy request key suffix (types ++ others) (words ++ words') where
  paths := by rw [List.map_append, List.map_append, htypes.paths, hothers.paths]
  suffixes := List.forall_mem_append.mpr ⟨htypes.suffixes, hothers.suffixes⟩
  distinct := List.nodup_append.mpr ⟨htypes.distinct, hothers.distinct, hdisjoint⟩

/-- **Different words give different types.** -/
theorem nodup_paths (htypes : NamedBy request key suffix types words) :
    (types.map MintedType.path).Nodup := by
  rw [htypes.paths]
  refine htypes.distinct.map_on fun word hword word' hword' hsame => ?_
  have hname : request.nameFor key (suffix ++ word) = request.nameFor key (suffix ++ word') :=
    congrArg TypePath.name hsame
  exact suffix_eq_of_typeNameFor_eq (htypes.suffixes word hword)
    (htypes.suffixes word' hword') hname

end NamedBy

/-- A property whose types are named after a suffix. -/
def Property.IsNamed (request : ClassRequest) (key suffix : String) (property : Property) : Prop :=
  ∃ words, NamedBy request key suffix property.needed words

section

variable {context : Context} {request : ClassRequest} {key suffix pointer : String}
  {property : Property}

theorem Property.IsNamed.withNull (hproperty : property.IsNamed request key suffix) (node : Json) :
    (withNull context node property).IsNamed request key suffix := by
  unfold IsNamed
  rwa [needed_withNull]

theorem Property.isNamed_of_needed (hproperty : property.needed = []) :
    property.IsNamed request key suffix :=
  ⟨[], hproperty ▸ .nil⟩

/-- Numbered types, each further down, are told apart by their numbers. -/
theorem NamedBy.cons_numbered {keyword : String}
    (hkeyword : ∀ c ∈ keyword.toList.head?, c.isDigit = false) (hsome : keyword.toList ≠ [])
    {number : Nat} {others : List MintedType} {words' : List String}
    (hproperty : property.IsNamed request key (suffix ++ (keyword ++ toString number)))
    (hothers : NamedBy request key suffix others words')
    (hlater : ∀ word ∈ words', IsNumbered keyword (number + 1) word) :
    ∃ words, NamedBy request key suffix (property.needed ++ others) words ∧
      ∀ word ∈ words, IsNumbered keyword number word := by
  obtain ⟨words, hwords⟩ := hproperty
  refine ⟨_, (hwords.deeper (isSuffix_number hkeyword hsome number)).append hothers ?_,
    List.forall_mem_append.mpr ⟨?_, ?_⟩⟩
  · rw [List.forall_mem_map]
    exact fun word hword word' hword' =>
      (hlater word' hword').ne_of_lt (hwords.suffixes word hword) (Nat.lt_succ_self number)
  · rw [List.forall_mem_map]
    exact fun word hword => ⟨number, word, le_rfl, hwords.suffixes word hword, rfl⟩
  · exact fun word hword => (hlater word hword).mono (Nat.le_succ number)

theorem namedBy_resolveAlternatives {index : Nat} {nodes : List Json}
    (hnodes : ∀ node ∈ nodes, ∀ suffix pointer property,
      resolveNode context request key suffix node pointer = .ok property →
        property.IsNamed request key suffix)
    {alternatives : List (Alternative Property)}
    (hresult : resolveAlternatives context request key suffix pointer index nodes =
      .ok alternatives) :
    ∃ words, NamedBy request key suffix (neededByAlternatives alternatives) words ∧
      ∀ word ∈ words, IsNumbered "Alternative" (index + 1) word := by
  induction nodes generalizing index alternatives with
  | nil =>
      rw [resolveAlternatives] at hresult
      obtain rfl := pure_eq_ok.mp hresult
      exact ⟨[], .nil, List.forall_mem_nil _⟩
  | cons node rest ih =>
      rw [List.forall_mem_cons] at hnodes
      rw [resolveAlternatives] at hresult
      by_cases hnull : node.isNullSchema
      · rw [if_pos hnull] at hresult
        obtain ⟨words, hwords, hnumbered⟩ := ih hnodes.2 hresult
        exact ⟨words, hwords, fun word hword => (hnumbered word hword).mono (Nat.le_succ _)⟩
      · rw [if_neg hnull] at hresult
        obtain ⟨property, hproperty, hresult⟩ := bind_eq_ok.mp hresult
        obtain ⟨others, hothers, hresult⟩ := bind_eq_ok.mp hresult
        obtain rfl := pure_eq_ok.mp hresult
        obtain ⟨words, hwords, hnumbered⟩ := ih hnodes.2 hothers
        exact NamedBy.cons_numbered (by simp) (by simp) (hnodes.1 _ _ _ hproperty) hwords hnumbered

theorem namedBy_resolveBranches {number : Nat} {entries : List (String × Json)}
    (hentries : ∀ entry ∈ entries, ∀ suffix pointer property,
      resolveNode context request key suffix entry.2 pointer = .ok property →
        property.IsNamed request key suffix)
    {branches : List (Branch Property)}
    (hresult : resolveBranches context request key suffix pointer number entries = .ok branches) :
    ∃ words, NamedBy request key suffix (neededByBranches branches) words ∧
      ∀ word ∈ words, IsNumbered "Pattern" number word := by
  induction entries generalizing number branches with
  | nil =>
      rw [resolveBranches] at hresult
      obtain rfl := pure_eq_ok.mp hresult
      exact ⟨[], .nil, List.forall_mem_nil _⟩
  | cons entry rest ih =>
      obtain ⟨pattern, node⟩ := entry
      rw [List.forall_mem_cons] at hentries
      rw [resolveBranches] at hresult
      obtain ⟨property, hproperty, hresult⟩ := bind_eq_ok.mp hresult
      obtain ⟨others, hothers, hresult⟩ := bind_eq_ok.mp hresult
      obtain rfl := pure_eq_ok.mp hresult
      obtain ⟨words, hwords, hnumbered⟩ := ih hentries.2 hothers
      exact NamedBy.cons_numbered (by simp) (by simp) (hentries.1 _ _ _ hproperty) hwords
        hnumbered

/-- A union comes before what its alternatives need. -/
theorem isNamed_unionProperty {docs : Documentation} {alternatives : List (Alternative Property)}
    {words : List String}
    (halternatives : NamedBy request key suffix (neededByAlternatives alternatives) words)
    (hnumbered : ∀ word ∈ words, IsNumbered "Alternative" 1 word) :
    (unionProperty (request.pathFor key suffix) docs alternatives).IsNamed request key suffix := by
  unfold unionProperty
  split
  · exact Property.isNamed_of_needed rfl
  · split
    · exact Property.isNamed_of_needed rfl
    · refine ⟨_, (NamedBy.own rfl).append halternatives ?_⟩
      rw [List.forall_mem_singleton]
      rintro word hword rfl
      exact absurd ((hnumbered _ hword).head? (by simp)) (by simp)

/-- An entry comes before what its branches need. -/
theorem isNamed_dynamic {patterned others : List (Branch Property)} {words words' : List String}
    (hpatterned : NamedBy request key suffix (neededByBranches patterned) words)
    (hnumbered : ∀ word ∈ words, IsNumbered "Pattern" 1 word)
    (hothers : NamedBy request key suffix (neededByBranches others) words')
    (hadditional : ∀ word ∈ words', word.toList.head? = some 'A') :
    (Property.dynamic (request.pathFor key (suffix ++ "Entry")) (patterned ++ others)).IsNamed
      request key suffix := by
  -- the words of patterns, of the branch for other keys and of the entry begin with different
  -- letters
  have hpattern : ∀ word ∈ words, word.toList.head? = some 'P' := fun word hword =>
    ((hnumbered word hword).head? (by simp)).trans (by simp)
  have happend : neededByBranches (patterned ++ others) =
      neededByBranches patterned ++ neededByBranches others := by
    simp only [neededByBranches_eq, List.flatMap_append]
  have hentry : NamedBy request key suffix
      [.dynamic (request.pathFor key (suffix ++ "Entry")) (patterned ++ others)] ["Entry"] :=
    .single ⟨by simp, by simp⟩ rfl
  unfold Property.IsNamed
  rw [Property.needed, happend]
  refine ⟨_, hentry.append
    (hpatterned.append hothers fun word hword word' hword' hsame => ?_) ?_⟩
  · have hhead := hpattern word hword
    rw [hsame, hadditional word' hword'] at hhead
    cases hhead
  · rw [List.forall_mem_singleton]
    rintro word hword rfl
    rcases List.mem_append.mp hword with hword | hword
    · exact absurd (hpattern _ hword) (by simp)
    · exact absurd (hadditional _ hword) (by simp)

/-- The types that a property needs are named after the suffix that the node is resolved with. -/
theorem isNamed_resolveNode {node : Json}
    (hresult : resolveNode context request key suffix node pointer = .ok property) :
    property.IsNamed request key suffix := by
  induction hsize : sizeOf node using Nat.strong_induction_on
    generalizing suffix pointer node property with
  | _ size ih =>
  subst hsize
  obtain ⟨own, hstep, rfl⟩ := resolutionStep_of_resolveNode hresult
  apply Property.IsNamed.withNull
  cases hstep with
  | reference hkind => exact Property.isNamed_of_needed (needed_referenceProperty context node)
  | intersection hkind hmerged => exact ⟨_, .own rfl⟩
  | union hkind halternatives =>
      obtain ⟨words, hwords, hnumbered⟩ :=
        namedBy_resolveAlternatives (fun part hpart _ _ _ hproperty =>
          ih _ (Json.sizeOf_lt_of_mem_alternatives hpart) hproperty rfl) halternatives
      exact isNamed_unionProperty hwords hnumbered
  | enumeration hkind hdefinition => exact ⟨_, .own rfl⟩
  | collection hkind hcollection hitem =>
      obtain ⟨words, hwords⟩ := ih _ (Json.sizeOf_lt_of_collection? hcollection) hitem rfl
      exact ⟨_, hwords.deeper ⟨by simp, by simp⟩⟩
  | nestedObject hkind => exact ⟨_, .own rfl⟩
  | dynamic hkind hpatterned hothers =>
      obtain ⟨words, hwords, hnumbered⟩ :=
        namedBy_resolveBranches (fun entry hentry _ _ _ hproperty =>
          ih _ (Json.sizeOf_lt_of_mem_patternProperties hentry) hproperty rfl) hpatterned
      -- the branch for other keys has a word of its own, which no number of a pattern begins with
      rcases hothers with rfl | ⟨additional, own, hfound, hown, rfl⟩
      · exact isNamed_dynamic hwords hnumbered .nil (List.forall_mem_nil _)
      · obtain ⟨words', hwords'⟩ :=
          ih _ (Json.sizeOf_lt_of_additionalProperties? hfound) hown rfl
        have hadditional : NamedBy request key suffix
            (neededByBranches [⟨"Additional", none, own⟩]) (words'.map ("Additional" ++ ·)) := by
          rw [neededByBranches, neededByBranches, List.append_nil]
          exact hwords'.deeper ⟨by simp, by simp⟩
        have hhead : ∀ word ∈ words'.map ("Additional" ++ ·), word.toList.head? = some 'A' := by
          rw [List.forall_mem_map]
          exact fun word _ => by simp [String.toList_append]
        exact isNamed_dynamic hwords hnumbered hadditional hhead
  | dateTime | string | primitive | mixed => exact Property.isNamed_of_needed rfl

/-- **Types that one property needs never share a name**, whatever the names of the struct and the
key and the suffix are. -/
theorem nodup_paths_resolveNode {node : Json}
    (hresult : resolveNode context request key suffix node pointer = .ok property) :
    (property.needed.map MintedType.path).Nodup := by
  obtain ⟨words, hwords⟩ := isNamed_resolveNode hresult
  exact hwords.nodup_paths

end

end

attribute [local instance] Spelling.plain

/-- Two patterns, one of them with alternatives, and the remaining keys. -/
def severalTypes : Json :=
  let enumeration := Json.object [("enum", .array [.string "x", .string "y"])]
  let struct := Json.object [("properties", .object [("b", .object [])])]
  .object [
    ("patternProperties", .object [
      ("^a", .object [("oneOf", .array [enumeration, struct])]),
      ("^b", enumeration)]),
    ("additionalProperties", struct)]

/-- Nothing to refer to. -/
def severalTypesContext : Context where
  options := {}
  lookup := ⟨.object [], ⟨[], "Root"⟩, [], [], []⟩

/-- The struct that has a property with several types. -/
def severalTypesOwner : ClassRequest where
  schema := .object [("properties", .object [("p", severalTypes)])]
  typeName := "Root"
  moduleRoot := ["crate"]
  «namespace» := []
  pointer := "#"
  depth := 0

set_option maxRecDepth 10000 in
theorem nodup_paths_severalTypes :
    ∃ property,
      resolveNode severalTypesContext severalTypesOwner "p" "" severalTypes "#/properties/p" =
          .ok property ∧
        property.needed.map (·.path.name) =
          ["RootPEntry", "RootPPattern1", "RootPPattern1Alternative1", "RootPPattern1Alternative2",
            "RootPPattern2", "RootPAdditional"] ∧
        (property.needed.map MintedType.path).Nodup := by
  have hcheck : (resolveNode severalTypesContext severalTypesOwner "p" "" severalTypes
      "#/properties/p").toOption.any (fun property => property.needed.map (·.path.name) ==
        ["RootPEntry", "RootPPattern1", "RootPPattern1Alternative1", "RootPPattern1Alternative2",
          "RootPPattern2", "RootPAdditional"]) = true := by
    decide +kernel
  obtain ⟨property, hresult, hnames⟩ := exists_ok_of_any hcheck
  exact ⟨property, hresult, eq_of_beq hnames, nodup_paths_resolveNode hresult⟩

end SchemaTypes
