import SchemaTypes.Proofs.Query.Decodability

/-!
# Alternatives are decoded by first match

A value that may have several types is decoded by the first alternative whose condition accepts it.
The condition and the decoder that it guards are two readings of one schema, and decoding would fail
where the first accepts what the second refuses.  This does not happen: an integer is recognised by
reading it, and the schemas of objects ask for the members that are read.

* `FirstMatch`: what the first of some alternatives makes of input.
* `decodeFirst`: how alternatives are tried, and `DecodesFirst.of_sound` what follows when no
  condition promises too much.
* `decodesFirst_alternatives`: both unions of search queries.
-/

namespace SchemaTypes

open Outcome

/-- One type that a value may have: the input it accepts, and what such input is decoded to. -/
structure DecodedAlternative (α : Type) where
  accepts : Json → Bool
  decode : Json → Decoded α

/-- What the first of some alternatives that accepts the input makes of it.  Input that none accepts
is kept. -/
inductive FirstMatch {α : Type} (unmatched : Json → α) (input : Json) :
    List (DecodedAlternative α) → α → Prop
  | none : FirstMatch unmatched input [] (unmatched input)
  | here {alternative rest value} (haccepts : alternative.accepts input)
      (hvalue : alternative.decode input = .ok value) :
      FirstMatch unmatched input (alternative :: rest) value
  | there {alternative rest value} (hrejects : alternative.accepts input = false)
      (hrest : FirstMatch unmatched input rest value) :
      FirstMatch unmatched input (alternative :: rest) value

/-- A decoder that tries alternatives in order agrees with the test whether one of them accepts. -/
structure DecodesFirst {α : Type} (unmatched : Json → α)
    (alternatives : List (DecodedAlternative α)) (accepts : Json → Bool)
    (decode : Json → Decoded α) (encode : α → Json) : Prop where
  total : ∀ input, ∃ value, decode input = .ok value
  first : ∀ input value, decode input = .ok value → FirstMatch unmatched input alternatives value
  unmatched_iff : ∀ input, decode input = .ok (unmatched input) ↔ accepts input = false
  kept : ∀ input rest, decode input = .ok (unmatched rest) → encode (unmatched rest) = input

/-! ## Trying alternatives in order -/

section

variable {α : Type} {unmatched : Json → α} {alternatives : List (DecodedAlternative α)}

/-- Tries alternatives in order. -/
def decodeFirst (unmatched : Json → α) : List (DecodedAlternative α) → Json → Decoded α
  | [], input => .ok (unmatched input)
  | alternative :: rest, input =>
    if alternative.accepts input then alternative.decode input
    else decodeFirst unmatched rest input

/-- What an alternative accepts it decodes, and not to a value that is merely kept. -/
def DecodedAlternative.Sound (unmatched : Json → α) (alternative : DecodedAlternative α) : Prop :=
  ∀ input, alternative.accepts input →
    ∃ value, alternative.decode input = .ok value ∧ ∀ rest, value ≠ unmatched rest

theorem firstMatch_of_decodeFirst {input : Json} {value : α}
    (hvalue : decodeFirst unmatched alternatives input = .ok value) :
    FirstMatch unmatched input alternatives value := by
  induction alternatives with
  | nil =>
      obtain rfl := pure_eq_ok.mp hvalue
      exact .none
  | cons alternative rest ih =>
      rw [decodeFirst] at hvalue
      by_cases haccepts : alternative.accepts input
      · rw [if_pos haccepts] at hvalue
        exact .here haccepts hvalue
      · rw [if_neg haccepts] at hvalue
        exact .there (by simpa using haccepts) (ih hvalue)

/-- Input that some alternative accepts is decoded to a value of its own, other input is kept. -/
theorem decodeFirst_cases (hsound : ∀ alternative ∈ alternatives, alternative.Sound unmatched)
    (input : Json) :
    (alternatives.any (·.accepts input) = true ∧ ∃ value,
        decodeFirst unmatched alternatives input = .ok value ∧ ∀ rest, value ≠ unmatched rest) ∨
      (alternatives.any (·.accepts input) = false ∧
        decodeFirst unmatched alternatives input = .ok (unmatched input)) := by
  induction alternatives with
  | nil => exact .inr ⟨rfl, rfl⟩
  | cons alternative rest ih =>
      rw [List.forall_mem_cons] at hsound
      rw [decodeFirst, List.any_cons]
      cases haccepts : alternative.accepts input with
      | true => exact .inl ⟨rfl, hsound.1 input haccepts⟩
      | false => simpa using ih hsound.2

/-- **First match.**  When no condition promises too much, trying the alternatives in order never
fails, and keeps exactly the input that none of them accepts. -/
theorem DecodesFirst.of_sound {decode : Json → Decoded α} {encode : α → Json}
    (hdecode : ∀ input, decode input = decodeFirst unmatched alternatives input)
    (hsound : ∀ alternative ∈ alternatives, alternative.Sound unmatched)
    (hinjective : Function.Injective unmatched) (hencode : ∀ rest, encode (unmatched rest) = rest) :
    DecodesFirst unmatched alternatives (fun input => alternatives.any (·.accepts input)) decode
      encode where
  total input := by
    rw [hdecode]
    rcases decodeFirst_cases hsound input with ⟨-, value, hvalue, -⟩ | ⟨-, hvalue⟩
    · exact ⟨value, hvalue⟩
    · exact ⟨unmatched input, hvalue⟩
  first input value hvalue := firstMatch_of_decodeFirst (hdecode input ▸ hvalue)
  unmatched_iff input := by
    rw [hdecode]
    rcases decodeFirst_cases hsound input with ⟨hany, value, hvalue, hown⟩ | ⟨hany, hvalue⟩
    · rw [hvalue, hany]
      simpa using hown input
    · simp [hvalue, hany]
  kept input rest hvalue := by
    rw [hdecode] at hvalue
    rcases decodeFirst_cases hsound input with ⟨-, value, hother, hown⟩ | ⟨-, hother⟩
    · rw [hother] at hvalue
      exact absurd (Except.ok.inj hvalue) (hown rest)
    · rw [hother] at hvalue
      rw [hencode, ← hinjective (Except.ok.inj hvalue)]

end

/-! ## An integer or a text -/

namespace QueryValue

/-- Integers come before texts. -/
def alternatives : List (DecodedAlternative QueryValue) :=
  [⟨Decode.isInteger, fun input => integer <$> Decode.integer input⟩,
    ⟨Json.isString, fun input => text <$> Decode.string input⟩]

theorem ofJson_eq_decodeFirst (input : Json) :
    ofJson input = decodeFirst unmatched alternatives input := by
  simp only [ofJson, alternatives, decodeFirst, map_eq_pure_bind]
  rfl

theorem sound_alternatives : ∀ alternative ∈ alternatives, alternative.Sound unmatched := by
  simp only [alternatives, List.forall_mem_cons]
  refine ⟨fun input haccepts => ?_, fun input haccepts => ?_, nofun⟩
  · obtain ⟨number, hnumber⟩ := Option.isSome_iff_exists.mp haccepts
    exact ⟨integer number, map_eq_ok.mpr ⟨number, Decode.integer_eq_ok.mpr hnumber, rfl⟩, nofun⟩
  · obtain ⟨content, hcontent⟩ := Option.isSome_iff_exists.mp haccepts
    cases input <;> cases hcontent
    exact ⟨text content, rfl, nofun⟩

theorem decodesFirst : DecodesFirst unmatched alternatives accepts ofJson toJson := by
  have haccepts : accepts = fun input => alternatives.any (·.accepts input) := by
    funext input
    simp [accepts, alternatives]
  rw [haccepts]
  exact .of_sound ofJson_eq_decodeFirst sound_alternatives (fun _ _ => QueryValue.unmatched.inj)
    fun _ => rfl

end QueryValue

/-! ## Objects with one or two texts -/

namespace QueryPick

/-- Objects with one text come before objects with two. -/
def alternatives (validating : Bool) : List (DecodedAlternative QueryPick) :=
  [⟨acceptsFoo, fun input => foo <$> FooPick.ofJson input validating⟩,
    ⟨acceptsFooBar, fun input => fooBar <$> FooBarPick.ofJson input validating⟩]

theorem ofJson_eq_decodeFirst (validating : Bool) (input : Json) :
    ofJson input validating = decodeFirst unmatched (alternatives validating) input := by
  simp only [ofJson, alternatives, decodeFirst, map_eq_pure_bind]
  rfl

/-- The schema of objects with two texts asks for the members that are read. -/
theorem exists_ofJson_of_acceptsFooBar {input : Json} (haccepts : acceptsFooBar input)
    (validating : Bool) : ∃ value, FooBarPick.ofJson input validating = .ok value := by
  have hvalid := haccepts
  rw [acceptsFooBar, toBool_validate FooBarPick.of?_schema, ← validate_eq_ok FooBarPick.of?_schema]
    at hvalid
  obtain ⟨members, rfl, ⟨first, hfirst⟩, second, hsecond⟩ := acceptsFooBar_iff.mp haccepts
  refine ⟨⟨first, second⟩, ?_⟩
  have hdecoded : (do
      let members ← Decode.object (.object members)
      return { foo := ← requiredText members "foo", bar := ← requiredText members "bar" } :
        Decoded FooBarPick) = .ok ⟨first, second⟩ :=
    bind_eq_ok.mpr ⟨_, rfl, bind_eq_ok.mpr ⟨_, requiredText_eq_ok.mpr hfirst,
      bind_eq_ok.mpr ⟨_, requiredText_eq_ok.mpr hsecond, rfl⟩⟩⟩
  cases validating with
  | false => exact hdecoded
  | true => exact bind_eq_ok.mpr ⟨(), hvalid, hdecoded⟩

theorem sound_alternatives (validating : Bool) :
    ∀ alternative ∈ alternatives validating, alternative.Sound unmatched := by
  simp only [alternatives, List.forall_mem_cons]
  refine ⟨fun input haccepts => ?_, fun input haccepts => ?_, nofun⟩
  · obtain ⟨members, rfl, content, hcontent⟩ := acceptsFoo_iff.mp haccepts
    exact ⟨foo ⟨content⟩, map_eq_ok.mpr ⟨_, FooPick.ofJson_object hcontent validating, rfl⟩, nofun⟩
  · obtain ⟨value, hvalue⟩ := exists_ofJson_of_acceptsFooBar haccepts validating
    exact ⟨fooBar value, map_eq_ok.mpr ⟨value, hvalue, rfl⟩, nofun⟩

theorem decodesFirst (validating : Bool) :
    DecodesFirst unmatched (alternatives validating) accepts (ofJson · validating) toJson := by
  have haccepts : accepts = fun input => (alternatives validating).any (·.accepts input) := by
    funext input
    simp [accepts, alternatives]
  rw [haccepts]
  exact .of_sound (ofJson_eq_decodeFirst validating) (sound_alternatives validating)
    (fun _ _ => QueryPick.unmatched.inj) fun _ => rfl

/-- An object with two texts is decoded as an object with the first of them. -/
theorem ofJson_ne_fooBar (input : Json) (validating : Bool) (value : FooBarPick) :
    ofJson input validating ≠ .ok (.fooBar value) := by
  intro hvalue
  rcases ofJson_cases hvalue with ⟨own, hown⟩ | ⟨hkept, -, -⟩
  · cases hown
  · cases hkept

end QueryPick

/-- **Alternatives are decoded by first match.**  With and without validation, both unions decode
every value by the first alternative that accepts it, and keep exactly the values that fail the test
for a match.  No value is decoded as an object with two texts, since the alternative before it
accepts all such objects. -/
theorem decodesFirst_alternatives (validating : Bool) :
    DecodesFirst QueryValue.unmatched QueryValue.alternatives QueryValue.accepts QueryValue.ofJson
        QueryValue.toJson ∧
      DecodesFirst QueryPick.unmatched (QueryPick.alternatives validating) QueryPick.accepts
        (QueryPick.ofJson · validating) QueryPick.toJson ∧
      (∀ input, QueryPick.acceptsFooBar input → QueryPick.acceptsFoo input) ∧
      ∀ input value, QueryPick.ofJson input validating ≠ .ok (.fooBar value) :=
  ⟨QueryValue.decodesFirst, QueryPick.decodesFirst validating,
    fun _ => QueryPick.acceptsFoo_of_acceptsFooBar,
    fun input value => QueryPick.ofJson_ne_fooBar input validating value⟩

end SchemaTypes
