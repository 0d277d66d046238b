import SchemaTypes.Proofs.Schema.Embedding
import SchemaTypes.Validation.Validate

/-!
# References in the schema of a property

The schema of a property is checked on its own, as a document of its own that has taken the
definitions of the document along.  A reference into the definitions should lead to the same node in
both documents.  It does so unless the property declares definitions itself: those stay, and the
definitions of the document under the same keyword are left behind.

* `Json.resolveReference_eq_ok_iff`: a reference with a pointer leads to the node at its keys.
* `get?_propertySchema`: what the schema of a property has taken along.
* `keepsReferences_iff`: when the references of a property lead to the same nodes as before.
-/

namespace SchemaTypes

/-! ## References with a pointer -/

/-- The keys of a reference to a node of the same document, percent signs resolved. -/
def Pointer.fragmentKeys? (reference : String) : Option (List String) :=
  match reference.toList with
  | '#' :: '/' :: rest =>
    (percentDecoded? (String.ofList ('/' :: rest))).bind keys?
  | _ => none

theorem Json.resolveReference_eq_ok_iff {reference : String} {keys : List String}
    (hkeys : Pointer.fragmentKeys? reference = some keys) {root node : Json} :
    root.resolveReference reference = .ok node ↔ root.at? keys = some node := by
  unfold Pointer.fragmentKeys? at hkeys
  split at hkeys
  · rename_i rest hreference
    obtain ⟨text, htext, hkeys⟩ := Option.bind_eq_some_iff.mp hkeys
    have hnode : (Pointer.percentDecoded? (String.ofList ('/' :: rest))).bind root.atPointer? =
        root.at? keys := by
      rw [htext, Option.bind_some, atPointer?, hkeys, Option.bind_some]
    rw [resolveReference, hreference]
    simp only [hnode]
    cases root.at? keys with
    | none => simp
    | some found => simp
  · cases hkeys

/-! ## What is taken along -/

/-- Own members stay, and missing definitions come from the document. -/
theorem get?_carried (document : Json) (members : Members) (key : String) :
    Members.get? (definitionKeywords.foldl
      (fun (members : Members) keyword =>
        match document.get? keyword with
        | some definitions =>
          if members.contains keyword then members else members.insert keyword definitions
        | none => members) members) key =
      (Members.get? members key).or
        (if key ∈ definitionKeywords then document.get? key else none) := by
  -- the members grow along the loop over the keywords
  induction definitionKeywords generalizing members with
  | nil => simp
  | cons keyword rest ih =>
      rw [List.foldl_cons, ih]
      cases hdefinitions : document.get? keyword with
      | none =>
          by_cases hkey : key = keyword
          · simp [hkey, hdefinitions]
          · simp [hkey]
      | some definitions =>
          by_cases hown : members.contains keyword
          · obtain ⟨own, hfound⟩ := Option.isSome_iff_exists.mp hown
            by_cases hkey : key = keyword
            · simp [hkey, hown, hfound]
            · simp [hkey, hown]
          · have hnone : Members.get? members keyword = none := by
              rwa [Members.contains, Option.not_isSome_iff_eq_none] at hown
            by_cases hkey : key = keyword
            · simp [hkey, hown, hnone, hdefinitions, Members.get?_insert]
            · simp [hkey, hown, Members.get?_insert]

/-- The schema of a declared property. -/
def declaredProperty? (document : Json) (key : String) : Option Json :=
  (document.get? "properties").bind (·.get? key)

/-- A property that leaves room for the definitions of its document under a keyword. -/
def TakesDefinitions (property : Json) (keyword : String) : Prop :=
  ∃ members : Members, property = .object members ∧ members.get? keyword = none

section

variable {document property : Json} {key keyword : String}

/-- **What the schema of a property has** under a keyword of definitions. -/
theorem get?_propertySchema (hproperty : declaredProperty? document key = some property)
    (hkeyword : keyword ∈ definitionKeywords) :
    (TakesDefinitions property keyword →
      (propertySchema document key).get? keyword = document.get? keyword) ∧
    (¬TakesDefinitions property keyword →
      (propertySchema document key).get? keyword = property.get? keyword) := by
  rw [declaredProperty?] at hproperty
  rw [propertySchema, hproperty]
  cases property with
  | object members =>
      have hcarried := get?_carried document members keyword
      rw [if_pos hkeyword] at hcarried
      constructor
      · rintro ⟨own, hown, hnone⟩
        obtain rfl := Json.object.inj hown
        rw [hnone, Option.none_or] at hcarried
        exact hcarried
      · intro hown
        -- only a property without the keyword takes it from the document
        cases hfound : Members.get? members keyword with
        | none => exact absurd ⟨members, rfl, hfound⟩ hown
        | some definitions =>
            rw [hfound, Option.some_or] at hcarried
            exact hcarried.trans hfound.symm
  | null | bool | number | string | array =>
      refine ⟨?_, fun _ => rfl⟩
      rintro ⟨own, hown, -⟩
      cases hown

variable {reference : String} {keys : List String} {target : Json}

/-- A reference into the definitions leads to the same node as in the document, if the definitions
have been taken along or the property has the same node itself. -/
theorem resolveReference_propertySchema_iff
    (hproperty : declaredProperty? document key = some property)
    (hkeyword : keyword ∈ definitionKeywords)
    (hreference : Pointer.fragmentKeys? reference = some (keyword :: keys))
    (htarget : document.resolveReference reference = .ok target) :
    (propertySchema document key).resolveReference reference = .ok target ↔
      TakesDefinitions property keyword ∨ property.resolveReference reference = .ok target := by
  obtain ⟨htaken, hown⟩ := get?_propertySchema hproperty hkeyword
  rw [Json.resolveReference_eq_ok_iff hreference, Json.at?, Embedding.child?_eq_get? hkeyword]
    at htarget
  rw [Json.resolveReference_eq_ok_iff hreference, Json.resolveReference_eq_ok_iff hreference,
    Json.at?, Json.at?, Embedding.child?_eq_get? hkeyword, Embedding.child?_eq_get? hkeyword]
  by_cases htakes : TakesDefinitions property keyword
  · rw [htaken htakes]
    exact iff_of_true htarget (.inl htakes)
  · rw [hown htakes]
    exact (or_iff_right htakes).symm

end

/-! ## References of a property -/

/-- A reference in the schema of a declared property that leads through a keyword of definitions to
a node of the document. -/
structure IsPropertyReference (document : Json) (key : String) (property : Json)
    (reference keyword : String) (target : Json) : Prop where
  declared : declaredProperty? document key = some property
  carried : ∃ node : Json, node.Within property ∧ node.reference? = some reference
  underKeyword : keyword ∈ definitionKeywords
  pointer : ∃ keys, Pointer.fragmentKeys? reference = some (keyword :: keys)
  resolved : document.resolveReference reference = .ok target

/-- The references of a property into the definitions lead to the same nodes in the schema of the
property as in the document. -/
def KeepsReferences (document : Json) (key : String) : Prop :=
  ∀ (property : Json) (reference keyword : String) (target : Json),
    IsPropertyReference document key property reference keyword target →
      (propertySchema document key).resolveReference reference = .ok target

/-- **References of a property.**  They lead to the same nodes as in the document exactly when the
property declares no definitions under the keywords that they lead through, or has the same nodes
there. -/
theorem keepsReferences_iff (document : Json) (key : String) :
    KeepsReferences document key ↔
      ∀ (property : Json) (reference keyword : String) (target : Json),
        IsPropertyReference document key property reference keyword target →
          TakesDefinitions property keyword ∨ property.resolveReference reference = .ok target := by
  refine forall_congr' fun property => forall_congr' fun reference => forall_congr' fun keyword =>
    forall_congr' fun target => forall_congr' fun hreference => ?_
  obtain ⟨keys, hkeys⟩ := hreference.pointer
  exact resolveReference_propertySchema_iff hreference.declared
    hreference.underKeyword hkeys hreference.resolved

/-- A document with a property that refers to a definition and declares another one itself. -/
def ownDefinitions : Json := .object [
  ("type", .string "object"),
  ("properties", .object [
    ("p", .object [
      ("type", .string "string"),
      ("not", .object [("$ref", .string "#/definitions/A")]),
      ("definitions", .object [("B", .object [("type", .string "string")])])])]),
  ("definitions", .object [("A", .object [("type", .string "integer")])])]

/-- The document is one that a type carries, and the reference leads to a definition of it, but to
nothing in the schema of the property. -/
theorem not_keepsReferences_ownDefinitions :
    Embedding.embed ownDefinitions ownDefinitions true = ownDefinitions ∧
      ¬KeepsReferences ownDefinitions "p" := by
  have hkeys : Pointer.fragmentKeys? "#/definitions/A" = some ["definitions", "A"] := by
    decide +kernel
  have hreference : IsPropertyReference ownDefinitions "p"
      (.object [
        ("type", .string "string"),
        ("not", .object [("$ref", .string "#/definitions/A")]),
        ("definitions", .object [("B", .object [("type", .string "string")])])])
      "#/definitions/A" "definitions" (.object [("type", .string "integer")]) := {
    declared := rfl
    carried := ⟨.object [("$ref", .string "#/definitions/A")],
      .member (List.mem_cons_of_mem ("type", _) List.mem_cons_self) .refl, rfl⟩
    underKeyword := by decide
    pointer := ⟨["A"], hkeys⟩
    resolved := (Json.resolveReference_eq_ok_iff hkeys).mpr rfl }
  refine ⟨rfl, fun hkeeps => ?_⟩
  have hlost := hkeeps _ _ _ _ hreference
  rw [Json.resolveReference_eq_ok_iff hkeys] at hlost
  cases hlost

end SchemaTypes
