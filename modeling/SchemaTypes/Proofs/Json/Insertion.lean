import SchemaTypes.Proofs.Json.Members

/-!
# Setting many members

Members that are set one after another.  A key stays where it appeared first and has the value that
it was given last, so it does not matter whether a part of the members has been gathered before.
Removing a key moves the last member, but leaves what all other keys stand for.

* `Members.get?_insertAll`: the values that are left.
* `Members.insertAll_insertAll`: members may be gathered first and set afterwards.
* `Members.erase_perm`: what is left when a key is removed.
-/

namespace SchemaTypes

namespace Members

/-- The keys in order. -/
def keys (members : Members) : List String := members.map (·.1)

@[simp]
theorem keys_nil : keys [] = [] := rfl

@[simp]
theorem keys_cons (entry : String × Json) (rest : Members) :
    keys (entry :: rest) = entry.1 :: keys rest := rfl

@[simp]
theorem keys_append (members others : Members) :
    keys (members ++ others) = keys members ++ keys others :=
  List.map_append

theorem mem_keys {members : Members} {entry : String × Json} (hentry : entry ∈ members) :
    entry.1 ∈ keys members :=
  List.mem_map_of_mem hentry

/-- In members with distinct keys, every member is found under its key. -/
theorem get?_eq_some_iff {members : Members} (hdistinct : (keys members).Nodup) {key : String}
    {value : Json} : get? members key = some value ↔ (key, value) ∈ members := by
  refine ⟨mem_of_get?, fun hmember => ?_⟩
  induction members with
  | nil => cases hmember
  | cons entry rest ih =>
      rw [keys_cons, List.nodup_cons] at hdistinct
      rw [get?_cons]
      rcases List.mem_cons.mp hmember with rfl | hlater
      · exact if_pos rfl
      · have hother : key ≠ entry.1 := by
          rintro rfl
          exact hdistinct.1 (List.mem_map.mpr ⟨_, hlater, rfl⟩)
        rw [if_neg hother]
        exact ih hdistinct.2 hlater

/-- The order of members with distinct keys does not matter. -/
theorem get?_eq_of_perm {members others : Members} (hperm : members.Perm others)
    (hdistinct : (keys others).Nodup) (key : String) : get? members key = get? others key := by
  have hmembers : (keys members).Nodup := (hperm.map _).nodup_iff.mpr hdistinct
  apply Option.ext
  intro value
  rw [get?_eq_some_iff hmembers, get?_eq_some_iff hdistinct]
  exact hperm.mem_iff

/-- The value of a key in members that are put together is the last one that a part has. -/
theorem get?_reverse_flatMap {α : Type} {parts : α → Members} {items : List α}
    (hparts : ∀ item ∈ items, (keys (parts item)).Nodup) (key : String) :
    get? (items.flatMap parts).reverse key =
      items.reverse.findSome? fun item => get? (parts item) key := by
  induction items with
  | nil => rfl
  | cons item rest ih =>
      rw [List.forall_mem_cons] at hparts
      have hfirst : get? (parts item).reverse key = get? (parts item) key :=
        get?_eq_of_perm (List.reverse_perm _) hparts.1 key
      rw [List.flatMap_cons, List.reverse_append, get?_append, ih hparts.2, hfirst,
        List.reverse_cons, List.findSome?_append]
      simp

/-! ## One key -/

theorem keys_insert (members : Members) (key : String) (value : Json) :
    keys (insert members key value) =
      if key ∈ keys members then keys members else keys members ++ [key] := by
  induction members with
  | nil => rfl
  | cons entry rest ih =>
      obtain ⟨own, old⟩ := entry
      rw [insert]
      by_cases hown : own = key
      · subst hown
        simp
      · rw [if_neg (by simpa using hown), keys_cons, ih, keys_cons]
        by_cases hlater : key ∈ keys rest
        · rw [if_pos hlater, if_pos (List.mem_cons_of_mem _ hlater)]
        · rw [if_neg hlater, if_neg (by simp [Ne.symm hown, hlater])]
          rfl

theorem insert_of_not_mem {members : Members} {key : String} (hkey : key ∉ keys members)
    (value : Json) : insert members key value = members ++ [(key, value)] := by
  induction members with
  | nil => rfl
  | cons entry rest ih =>
      rw [keys_cons, List.mem_cons, not_or] at hkey
      rw [insert, if_neg (by simpa using Ne.symm hkey.1), ih hkey.2]
      rfl

theorem nodup_keys_insert {members : Members} (hdistinct : (keys members).Nodup) (key : String)
    (value : Json) : (keys (insert members key value)).Nodup := by
  rw [keys_insert]
  split
  · exact hdistinct
  · rename_i hfresh
    rw [List.nodup_append]
    refine ⟨hdistinct, List.nodup_singleton key, ?_⟩
    rintro own hown other hother rfl
    exact hfresh (List.mem_singleton.mp hother ▸ hown)

theorem insert_insert (members : Members) (key : String) (old value : Json) :
    insert (insert members key old) key value = insert members key value := by
  induction members with
  | nil => simp [insert]
  | cons entry rest ih =>
      obtain ⟨own, own'⟩ := entry
      by_cases hown : own = key
      · simp [insert, hown]
      · simp [insert, hown, ih]

/-- Setting a key to the value that it has changes nothing, and not the order either. -/
theorem insert_eq_self {members : Members} {key : String} {value : Json}
    (hvalue : get? members key = some value) : insert members key value = members := by
  induction members with
  | nil => cases hvalue
  | cons entry rest ih =>
      obtain ⟨own, old⟩ := entry
      rw [get?_cons] at hvalue
      by_cases hown : key = own
      · subst hown
        rw [if_pos rfl] at hvalue
        obtain rfl := Option.some.inj hvalue
        rw [insert, if_pos (beq_self_eq_true key)]
      · rw [if_neg hown] at hvalue
        rw [insert, if_neg (by simpa using Ne.symm hown), ih hvalue]

/-- A key that is there is set before or after another one. -/
theorem insert_comm {members : Members} {key other : String} (hkey : key ∈ keys members)
    (hother : other ≠ key) (value own : Json) :
    insert (insert members other own) key value = insert (insert members key value) other own := by
  induction members with
  | nil => cases hkey
  | cons entry rest ih =>
      obtain ⟨first, old⟩ := entry
      by_cases hfirst : first = key
      · subst hfirst
        simp [insert, hother.symm]
      · have hlater : key ∈ keys rest := by
          rw [keys_cons, List.mem_cons] at hkey
          exact hkey.resolve_left (Ne.symm hfirst)
        by_cases hsame : first = other
        · subst hsame
          simp [insert, hfirst]
        · simp [insert, hfirst, hsame, ih hlater]

/-! ## Many keys -/

/-- Sets the values of keys one after another. -/
def insertAll (members entries : Members) : Members :=
  entries.foldl (fun members entry => insert members entry.1 entry.2) members

@[simp]
theorem insertAll_nil (members : Members) : insertAll members [] = members := rfl

@[simp]
theorem insertAll_cons (members : Members) (entry : String × Json) (rest : Members) :
    insertAll members (entry :: rest) = insertAll (insert members entry.1 entry.2) rest := rfl

theorem insertAll_append (members entries others : Members) :
    insertAll members (entries ++ others) = insertAll (insertAll members entries) others :=
  List.foldl_append

theorem nodup_keys_insertAll {members : Members} (hdistinct : (keys members).Nodup)
    (entries : Members) : (keys (insertAll members entries)).Nodup := by
  induction entries generalizing members with
  | nil => exact hdistinct
  | cons entry rest ih => exact ih (nodup_keys_insert hdistinct entry.1 entry.2)

/-- Members that are read have distinct keys. -/
theorem nodup_keys_ofList (entries : Members) : (keys (ofList entries)).Nodup := by
  have hnil : (keys []).Nodup := List.nodup_nil
  exact nodup_keys_insertAll hnil entries

/-- Keys that are new are set one after another. -/
theorem insertAll_of_nodup {members entries : Members}
    (hdistinct : (keys (members ++ entries)).Nodup) :
    insertAll members entries = members ++ entries := by
  induction entries generalizing members with
  | nil => exact (List.append_nil members).symm
  | cons entry rest ih =>
      have hkey : entry.1 ∉ keys members := by
        rw [keys_append, keys_cons, List.nodup_append] at hdistinct
        exact fun hmember => hdistinct.2.2 _ hmember _ List.mem_cons_self rfl
      have hsplit : members ++ entry :: rest = members ++ [entry] ++ rest := by simp
      rw [insertAll_cons, insert_of_not_mem hkey, ih (hsplit ▸ hdistinct), hsplit]

theorem ofList_eq_self {members : Members} (hdistinct : (keys members).Nodup) :
    ofList members = members :=
  insertAll_of_nodup hdistinct

/-- A key that is there already may be set before all other keys. -/
theorem insert_insertAll {members entries : Members} {key : String} (hkey : key ∈ keys members)
    (hentries : key ∉ keys entries) (value : Json) :
    insert (insertAll members entries) key value =
      insertAll (insert members key value) entries := by
  induction entries generalizing members with
  | nil => rfl
  | cons entry rest ih =>
      rw [keys_cons, List.mem_cons, not_or] at hentries
      have hstays : key ∈ keys (insert members entry.1 entry.2) := by
        rw [keys_insert]
        split
        · exact hkey
        · exact List.mem_append_left _ hkey
      rw [insertAll_cons, insertAll_cons, ih hstays hentries.2,
        insert_comm hkey (Ne.symm hentries.1)]

/-- A key that is set among the entries may be set after them. -/
theorem insertAll_insert {members entries : Members} (hdistinct : (keys entries).Nodup)
    (key : String) (value : Json) :
    insertAll members (insert entries key value) =
      insert (insertAll members entries) key value := by
  induction entries generalizing members with
  | nil => rfl
  | cons entry rest ih =>
      obtain ⟨own, old⟩ := entry
      rw [keys_cons, List.nodup_cons] at hdistinct
      by_cases hown : own = key
      · subst hown
        have hthere : own ∈ keys (insert members own old) := by
          rw [keys_insert]
          split
          · assumption
          · exact List.mem_append_right _ (List.mem_singleton_self own)
        rw [insertAll_cons, insert_insertAll hthere hdistinct.1, insert_insert]
        simp [insert]
      · simp only [insert, beq_eq_false_iff_ne.mpr hown, Bool.false_eq_true, if_false,
          insertAll_cons]
        exact ih hdistinct.2

/-- **Gathering first.**  Entries may be gathered before they are set. -/
theorem insertAll_insertAll (members entries : Members) :
    insertAll members (insertAll [] entries) = insertAll members entries := by
  induction entries using List.reverseRecOn with
  | nil => rfl
  | append_singleton earlier entry ih =>
      have hdistinct : (keys (insertAll [] earlier)).Nodup := nodup_keys_ofList earlier
      calc insertAll members (insertAll [] (earlier ++ [entry]))
          = insertAll members (insert (insertAll [] earlier) entry.1 entry.2) := by
            rw [insertAll_append]
            rfl
        _ = insert (insertAll members (insertAll [] earlier)) entry.1 entry.2 :=
            insertAll_insert hdistinct entry.1 entry.2
        _ = insertAll members (earlier ++ [entry]) := by
            rw [ih, insertAll_append]
            rfl

/-- The last entry with a key counts. -/
theorem get?_insertAll (members entries : Members) (key : String) :
    get? (insertAll members entries) key = (get? entries.reverse key).or (get? members key) := by
  induction entries using List.reverseRecOn with
  | nil => rfl
  | append_singleton earlier entry ih =>
      have hlast : insertAll members (earlier ++ [entry]) =
          insert (insertAll members earlier) entry.1 entry.2 := insertAll_append _ _ _
      rw [hlast, get?_insert, ih, List.reverse_append, List.reverse_singleton,
        List.singleton_append, get?_cons]
      split <;> rfl

/-- Keys stay distinct as well when only new ones are set. -/
theorem nodup_keys_foldl_insertNew {members : Members} (hdistinct : (keys members).Nodup)
    (entries : Members) :
    (keys (entries.foldl (fun members entry =>
      if contains members entry.1 then members else insert members entry.1 entry.2)
        members)).Nodup := by
  induction entries generalizing members with
  | nil => exact hdistinct
  | cons entry rest ih =>
      apply ih
      dsimp only
      split
      · exact hdistinct
      · exact nodup_keys_insert hdistinct entry.1 entry.2

/-! ## Removing a key -/

theorem filter_ne_eq_self {members : Members} {key : String} (hkey : key ∉ keys members) :
    members.filter (fun entry => entry.1 ≠ key) = members := by
  refine List.filter_eq_self.mpr fun entry hentry => ?_
  have hother : entry.1 ≠ key := fun hsame => hkey (hsame ▸ mem_keys hentry)
  exact decide_eq_true hother

/-- A key that occurs once is substituted in its place. -/
theorem substitute_eq {before after : Members} {key : String} {value : Json}
    {final : String × Json} (hbefore : key ∉ keys before) (hafter : key ∉ keys after) :
    substitute (before ++ (key, value) :: after) key final = before ++ final :: after := by
  have hunchanged : ∀ {part : Members}, key ∉ keys part →
      part.map (fun entry => if entry.1 == key then final else entry) = part := by
    intro part hpart
    refine (List.map_congr_left fun entry hentry => ?_).trans (List.map_id part)
    have hother : entry.1 ≠ key := fun hsame => hpart (hsame ▸ mem_keys hentry)
    rw [if_neg (by simpa using hother), id]
  unfold substitute
  rw [List.map_append, List.map_cons, hunchanged hbefore, hunchanged hafter]
  simp

/-- When a key is removed, the other members are left, in another order. -/
theorem erase_perm {members : Members} (hdistinct : (keys members).Nodup) (key : String) :
    (erase members key).Perm (members.filter fun entry => entry.1 ≠ key) := by
  unfold erase
  split
  · rename_i hempty
    rw [List.getLast?_eq_none_iff.mp hempty]
    rfl
  · rename_i final hfinal
    obtain ⟨init, rfl⟩ := List.getLast?_eq_some_iff.mp hfinal
    have hinit : (keys init).Nodup ∧ final.1 ∉ keys init := by
      rw [keys_append, List.nodup_append] at hdistinct
      refine ⟨hdistinct.1, fun hmember => ?_⟩
      exact hdistinct.2.2 _ hmember final.1 (by simp) rfl
    rw [List.dropLast_concat]
    cases hfound : get? (init ++ [final]) key with
    | none =>
        have habsent : key ∉ keys (init ++ [final]) := by
          intro hmember
          obtain ⟨entry, hentry, rfl⟩ := List.mem_map.mp hmember
          rw [(get?_eq_some_iff hdistinct).mpr hentry] at hfound
          cases hfound
        rw [if_pos (by simp [contains, hfound]), filter_ne_eq_self habsent]
    | some value =>
        rw [if_neg (by simp [contains, hfound])]
        have hmember := mem_of_get? hfound
        by_cases hlast : final.1 = key
        · -- the key comes last
          subst hlast
          rw [if_pos (by simp), List.filter_append, filter_ne_eq_self hinit.2]
          simp
        · -- the last member takes the place of the key
          rw [if_neg (by simpa using hlast)]
          have hinside : (key, value) ∈ init := by
            refine (List.mem_append.mp hmember).resolve_right fun hfinal => hlast ?_
            rw [← List.mem_singleton.mp hfinal]
          obtain ⟨before, after, rfl⟩ := List.append_of_mem hinside
          have hnodup := hinit.1
          rw [keys_append, keys_cons, List.nodup_append, List.nodup_cons] at hnodup
          have hbefore : key ∉ keys before :=
            fun hkey => hnodup.2.2 key hkey key List.mem_cons_self rfl
          have hafter : key ∉ keys after := hnodup.2.1.1
          rw [substitute_eq hbefore hafter, List.filter_append, List.filter_append,
            filter_ne_eq_self hbefore, List.filter_cons_of_neg (by simp), filter_ne_eq_self hafter,
            List.filter_cons_of_pos (by simpa using hlast), List.filter_nil, List.append_assoc]
          exact List.Perm.append_left before (List.perm_append_singleton final after).symm

/-- Removing a key that is not there changes nothing. -/
theorem erase_eq_self {members : Members} {key : String} (hkey : get? members key = none) :
    erase members key = members := by
  unfold erase
  split
  · rename_i hempty
    exact (List.getLast?_eq_none_iff.mp hempty).symm
  · exact if_pos (by simp [contains, hkey])

theorem nodup_keys_filter {members : Members} (hdistinct : (keys members).Nodup)
    (keep : String × Json → Bool) : (keys (members.filter keep)).Nodup :=
  hdistinct.sublist (List.filter_sublist.map _)

theorem nodup_keys_erase {members : Members} (hdistinct : (keys members).Nodup) (key : String) :
    (keys (erase members key)).Nodup :=
  ((erase_perm hdistinct key).map _).nodup_iff.mpr (nodup_keys_filter hdistinct _)

/-- All other keys keep their values. -/
theorem get?_erase {members : Members} (hdistinct : (keys members).Nodup) (key other : String) :
    get? (erase members key) other = if other = key then none else get? members other := by
  have hfiltered := nodup_keys_filter hdistinct fun entry => entry.1 ≠ key
  rw [get?_eq_of_perm (erase_perm hdistinct key) hfiltered]
  apply Option.ext
  intro value
  rw [get?_eq_some_iff hfiltered, List.mem_filter]
  by_cases hother : other = key
  · simp [hother]
  · simp [hother, get?_eq_some_iff hdistinct]

end Members

end SchemaTypes
