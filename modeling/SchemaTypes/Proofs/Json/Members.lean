import SchemaTypes.Json.Value
import Mathlib.Tactic

/-!
# Members of an object

How looking up a key goes with the ways of building members.

* `Members.get?_cons`, `Members.get?_append`: the first member with a key counts.
* `Members.mem_of_mem_insert`, `Members.mem_of_mem_erase`: no other members come in.
-/

namespace SchemaTypes

namespace Members

@[simp]
theorem get?_nil (key : String) : get? [] key = none := rfl

theorem get?_cons (entry : String × Json) (rest : Members) (key : String) :
    get? (entry :: rest) key = if key = entry.1 then some entry.2 else get? rest key := by
  obtain ⟨own, value⟩ := entry
  rw [get?, List.lookup_cons]
  by_cases hkey : key = own
  · rw [if_pos hkey, beq_iff_eq.mpr hkey]
  · rw [if_neg hkey, beq_eq_false_iff_ne.mpr hkey, get?]

@[simp]
theorem get?_cons_self (key : String) (value : Json) (rest : Members) :
    get? ((key, value) :: rest) key = some value := by
  simp [get?_cons]

theorem get?_append (members others : Members) (key : String) :
    get? (members ++ others) key = (get? members key).or (get? others key) :=
  List.lookup_append

theorem get?_eq_none {members : Members} {key : String} (hkey : ∀ entry ∈ members, entry.1 ≠ key) :
    get? members key = none := by
  induction members with
  | nil => rfl
  | cons entry rest ih =>
      rw [get?_cons, if_neg (hkey entry (List.mem_cons_self ..)).symm]
      exact ih fun other hother => hkey other (List.mem_cons_of_mem _ hother)

/-! ## Changing members -/

theorem get?_insert (members : Members) (key other : String) (value : Json) :
    get? (insert members key value) other =
      if other = key then some value else get? members other := by
  induction members with
  | nil => rw [insert, get?_cons, get?_nil]
  | cons entry rest ih =>
      obtain ⟨own, old⟩ := entry
      rw [insert]
      split
      · rename_i hsame
        rw [beq_iff_eq.mp hsame, get?_cons, get?_cons]
        split <;> rfl
      · rename_i hother
        have hne : own ≠ key := by simpa using hother
        rw [get?_cons, get?_cons, ih]
        grind

/-- Setting a key adds no other member. -/
theorem mem_of_mem_insert {members : Members} {key : String} {value : Json}
    {entry : String × Json} (hentry : entry ∈ insert members key value) :
    entry ∈ members ∨ entry = (key, value) := by
  induction members with
  | nil => exact .inr (List.mem_singleton.mp hentry)
  | cons first rest ih =>
      obtain ⟨own, old⟩ := first
      rw [insert] at hentry
      split at hentry
      · rename_i hsame
        rcases List.mem_cons.mp hentry with rfl | hentry
        · rw [beq_iff_eq.mp hsame]
          exact .inr rfl
        · exact .inl (List.mem_cons_of_mem _ hentry)
      · rcases List.mem_cons.mp hentry with rfl | hentry
        · exact .inl List.mem_cons_self
        · exact (ih hentry).imp_left (List.mem_cons_of_mem _)

/-- Removing a key leaves only members that were there. -/
theorem mem_of_mem_erase {members : Members} {key : String} {entry : String × Json}
    (hentry : entry ∈ erase members key) : entry ∈ members := by
  unfold erase at hentry
  split at hentry
  · cases hentry
  · rename_i final hfinal
    split at hentry
    · exact hentry
    · split at hentry
      · exact List.mem_of_mem_dropLast hentry
      · obtain ⟨own, hown, rfl⟩ := List.mem_map.mp hentry
        split
        · exact List.mem_of_getLast? hfinal
        · exact List.mem_of_mem_dropLast hown

/-- Setting several keys adds nothing but what they are set to. -/
theorem mem_of_mem_foldl_insert {entries members : Members} {entry : String × Json}
    (hentry : entry ∈ entries.foldl (fun members own => insert members own.1 own.2) members) :
    entry ∈ members ∨ entry ∈ entries := by
  induction entries generalizing members with
  | nil => exact .inl hentry
  | cons first rest ih =>
      rcases ih hentry with hearlier | hlater
      · rcases mem_of_mem_insert hearlier with hmember | rfl
        · exact .inl hmember
        · exact .inr List.mem_cons_self
      · exact .inr (List.mem_cons_of_mem _ hlater)

/-- The same when keys that are set already are passed over. -/
theorem mem_of_mem_foldl_insertNew {entries members : Members} {entry : String × Json}
    (hentry : entry ∈ entries.foldl
      (fun members own =>
        if contains members own.1 then members else insert members own.1 own.2) members) :
    entry ∈ members ∨ entry ∈ entries := by
  induction entries generalizing members with
  | nil => exact .inl hentry
  | cons first rest ih =>
      rcases ih hentry with hearlier | hlater
      · dsimp only at hearlier
        split at hearlier
        · exact .inl hearlier
        · rcases mem_of_mem_insert hearlier with hmember | rfl
          · exact .inl hmember
          · exact .inr List.mem_cons_self
      · exact .inr (List.mem_cons_of_mem _ hlater)

end Members

end SchemaTypes
