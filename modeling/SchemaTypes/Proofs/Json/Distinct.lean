import SchemaTypes.Proofs.Json.Insertion
import SchemaTypes.Proofs.Schema.Definition

/-!
# Distinct keys

An object is a list of members, and nothing in the type keeps a key from occurring twice.  What is
built by writing one member after the other has no such objects.

* `Json.KeysDistinct`: no object inside a value has a key twice.
* `Json.KeysDistinct.object_ofList`: of repeated keys, one is kept.
-/

namespace SchemaTypes

namespace Json

/-- No object inside a value has a key twice. -/
def KeysDistinct (value : Json) : Prop :=
  ∀ members, (Json.object members).Within value → (Members.keys members).Nodup

namespace KeysDistinct

theorem within {inner outer : Json} (houter : outer.KeysDistinct) (hinner : inner.Within outer) :
    inner.KeysDistinct :=
  fun members hmembers => houter members (hmembers.trans hinner)

@[simp]
theorem object {members : Members} :
    KeysDistinct (.object members) ↔
      (Members.keys members).Nodup ∧ ∀ member ∈ members, member.2.KeysDistinct := by
  constructor
  · intro hdistinct
    exact ⟨hdistinct members .refl,
      fun member hmember => hdistinct.within (.member hmember .refl)⟩
  · rintro ⟨hkeys, hmembers⟩ inner hinner
    rcases within_object.mp hinner with hsame | ⟨member, hmember, hwithin⟩
    · exact Json.object.inj hsame ▸ hkeys
    · exact hmembers member hmember inner hwithin

@[simp]
theorem array {items : List Json} :
    KeysDistinct (.array items) ↔ ∀ item ∈ items, item.KeysDistinct := by
  constructor
  · exact fun hdistinct item hitem => hdistinct.within (.item hitem .refl)
  · rintro hitems members (_ | _ | ⟨hitem, hwithin⟩)
    exact hitems _ hitem members hwithin

@[simp]
theorem null : KeysDistinct .null := nofun

@[simp]
theorem bool (value : Bool) : KeysDistinct (.bool value) := nofun

@[simp]
theorem number (value : JsonNumber) : KeysDistinct (.number value) := nofun

@[simp]
theorem string (text : String) : KeysDistinct (.string text) := nofun

/-- Of repeated keys, one is kept. -/
theorem object_ofList {pairs : Members} (hpairs : ∀ pair ∈ pairs, pair.2.KeysDistinct) :
    KeysDistinct (.object (Members.ofList pairs)) := by
  refine object.mpr ⟨Members.nodup_keys_ofList pairs, ?_⟩
  intro member hmember
  exact hpairs member ((Members.mem_of_mem_foldl_insert hmember).resolve_left List.not_mem_nil)

end KeysDistinct

end Json

end SchemaTypes
