import SchemaTypes.Json.Pointer
import SchemaTypes.Schema.Keyword
import SchemaTypes.Validation.Value
import SchemaTypes.Proofs.Json.Members

/-!
# What a schema accepts

The meaning of the keywords that JSON Schema has for objects, alternatives and references, apart
from any order in which they are checked.  Keywords other than those of `Json.Restriction` let
every value pass.  Keywords beside a reference count, and a reference names the node at its
pointer.

Values are accepted and rejected by finite derivations.  A schema that refers to itself without
end does neither; `oneOf` is why rejection needs derivations of its own.

* `Json.Accepts` and `Json.Rejects`: the values that a schema accepts and rejects.
* `Json.Accepts.not_rejects`: no value is both accepted and rejected.
* `Json.LeadsTo`: the node at the end of a chain of references.
-/

namespace SchemaTypes

namespace Json

/-! ## Keywords of a schema -/

/-- A schema holds something under a keyword. -/
def Carries (schema : Json) (keyword : String) (part : Json) : Prop :=
  (keyword, part) ∈ schema.members?.getD []

theorem carries_of_get? {schema part : Json} {keyword : String}
    (hpart : schema.get? keyword = some part) : schema.Carries keyword part := by
  obtain ⟨members, hmembers, hpart⟩ := Option.bind_eq_some_iff.mp hpart
  rw [Carries, hmembers]
  exact Members.mem_of_get? hpart

theorem carries_of_items? {schema : Json} {keyword : String} {items : List Json}
    (hitems : (schema.get? keyword).bind items? = some items) :
    schema.Carries keyword (.array items) := by
  obtain ⟨part, hpart, hitems⟩ := Option.bind_eq_some_iff.mp hitems
  cases part <;> cases hitems
  exact carries_of_get? hpart

theorem carries_of_members? {schema : Json} {keyword : String} {members : Members}
    (hmembers : (schema.get? keyword).bind members? = some members) :
    schema.Carries keyword (.object members) := by
  obtain ⟨part, hpart, hmembers⟩ := Option.bind_eq_some_iff.mp hmembers
  cases part <;> cases hmembers
  exact carries_of_get? hpart

/-- The node that a local reference names. -/
def referenced? (document : Json) (reference : String) : Option Json :=
  (Text.dropStart? reference Pointer.root).bind document.atPointer?

/-- The keywords that tell values apart.  A schema with further keywords (`patternProperties`,
`additionalProperties` or `minimum`, say) accepts fewer values than `Accepts` tells, so statements
about acceptance are about schemas in terms of these ones. -/
inductive Restriction
  | type
  | enum
  | properties
  | required
  | allOf
  | anyOf
  | oneOf
  | reference
deriving DecidableEq

/-- The keyword as it is written. -/
def Restriction.keyword : Restriction → String
  | .type => "type"
  | .enum => "enum"
  | .properties => "properties"
  | .required => "required"
  | .allOf => "allOf"
  | .anyOf => "anyOf"
  | .oneOf => "oneOf"
  | .reference => "$ref"

/-! ## Acceptance and rejection -/

mutual

/-- A value is valid against a schema of a document. -/
inductive Accepts (document : Json) : (schema value : Json) → Prop
  | anything (value) : Accepts document (.bool true) value
  | restrictions {members value}
      (hpasses : ∀ restriction part, (Restriction.keyword restriction, part) ∈ members →
        Passes document restriction part value) :
      Accepts document (.object members) value

/-- A value fulfils one keyword of a schema. -/
inductive Passes (document : Json) : Restriction → (part value : Json) → Prop
  | type {name value} (htype : hasType value name) : Passes document .type (.string name) value
  | types {names name value} (hname : .string name ∈ names) (htype : hasType value name) :
      Passes document .type (.array names) value
  | enum {options option value} (hoption : option ∈ options) (hsame : sameValue value option) :
      Passes document .enum (.array options) value
  | properties {entries value}
      (hentries : ∀ key schema child, (key, schema) ∈ entries → get? value key = some child →
        Accepts document schema child) :
      Passes document .properties (.object entries) value
  | required {keys value}
      (hkeys : ∀ key members, .string key ∈ keys → value = .object members →
        Members.contains members key) :
      Passes document .required (.array keys) value
  | allOf {schemas value} (hall : ∀ schema ∈ schemas, Accepts document schema value) :
      Passes document .allOf (.array schemas) value
  | anyOf {schemas schema value} (hschema : schema ∈ schemas)
      (haccepts : Accepts document schema value) :
      Passes document .anyOf (.array schemas) value
  | oneOf {before schema after value} (haccepts : Accepts document schema value)
      (hothers : ∀ other, other ∈ before ∨ other ∈ after → Rejects document other value) :
      Passes document .oneOf (.array (before ++ schema :: after)) value
  | reference {reference target value} (htarget : referenced? document reference = some target)
      (haccepts : Accepts document target value) :
      Passes document .reference (.string reference) value

/-- A value is invalid against a schema of a document. -/
inductive Rejects (document : Json) : (schema value : Json) → Prop
  | nothing (value) : Rejects document (.bool false) value
  | restriction {members restriction part value}
      (hmember : (Restriction.keyword restriction, part) ∈ members)
      (hfails : Fails document restriction part value) :
      Rejects document (.object members) value

/-- A value violates one keyword of a schema. -/
inductive Fails (document : Json) : Restriction → (part value : Json) → Prop
  | type {name value} (htype : hasType value name = false) :
      Fails document .type (.string name) value
  | types {names value} (htypes : ∀ name, .string name ∈ names → hasType value name = false) :
      Fails document .type (.array names) value
  | enum {options value} (hoptions : ∀ option ∈ options, sameValue value option = false) :
      Fails document .enum (.array options) value
  | properties {entries key schema value child} (hentry : (key, schema) ∈ entries)
      (hchild : get? value key = some child) (hrejects : Rejects document schema child) :
      Fails document .properties (.object entries) value
  | required {keys members} {key : String} (hkey : .string key ∈ keys)
      (hmissing : Members.contains members key = false) :
      Fails document .required (.array keys) (.object members)
  | allOf {schemas schema value} (hschema : schema ∈ schemas)
      (hrejects : Rejects document schema value) :
      Fails document .allOf (.array schemas) value
  | anyOf {schemas value} (hall : ∀ schema ∈ schemas, Rejects document schema value) :
      Fails document .anyOf (.array schemas) value
  | noneOf {schemas value} (hall : ∀ schema ∈ schemas, Rejects document schema value) :
      Fails document .oneOf (.array schemas) value
  | severalOf {before first middle second after value}
      (hfirst : Accepts document first value) (hsecond : Accepts document second value) :
      Fails document .oneOf (.array (before ++ first :: (middle ++ second :: after))) value
  | reference {reference target value} (htarget : referenced? document reference = some target)
      (hrejects : Rejects document target value) :
      Fails document .reference (.string reference) value

end

variable {document schema value : Json}

/-- An accepted value fulfils each keyword. -/
theorem Accepts.passes (haccepts : Accepts document schema value) {restriction : Restriction}
    {part : Json} (hcarries : schema.Carries restriction.keyword part) :
    Passes document restriction part value := by
  induction haccepts using Accepts.casesOn with
  | anything => simp [Carries, members?] at hcarries
  | restrictions hpasses => exact hpasses restriction part hcarries

/-- Of two places in a list, at most one is a given place. -/
theorem mem_others {before after before' middle after' : List Json} {own first second : Json}
    (hsplit : before ++ own :: after = before' ++ first :: (middle ++ second :: after')) :
    (first ∈ before ∨ first ∈ after) ∨ second ∈ before ∨ second ∈ after := by
  rcases List.append_eq_append_iff.mp hsplit with ⟨between, rfl, hrest⟩ | ⟨between, rfl, hrest⟩
  · cases between with
    | nil =>
        obtain ⟨rfl, rfl⟩ := List.cons.inj hrest
        simp
    | cons next others =>
        obtain ⟨rfl, rfl⟩ := List.cons.inj hrest
        simp
  · cases between with
    | nil =>
        obtain ⟨rfl, rfl⟩ := List.cons.inj hrest
        simp
    | cons next others =>
        obtain ⟨rfl, -⟩ := List.cons.inj hrest
        simp

/-- **Acceptance excludes rejection.**  The induction goes over derivations of either kind, since
`oneOf` accepts on account of rejections. -/
theorem Accepts.not_rejects {schema value : Json} (haccepts : Accepts document schema value) :
    ¬Rejects document schema value := by
  refine @Accepts.rec document (fun schema value _ => ¬Rejects document schema value)
    (fun restriction part value _ => ¬Fails document restriction part value)
    (fun schema value _ => ¬Accepts document schema value)
    (fun restriction part value _ => ¬Passes document restriction part value)
    ?anything ?restrictions ?type ?types ?enum ?properties ?required ?allOf ?anyOf ?oneOf
    ?reference ?nothing ?restriction ?notType ?notTypes ?notEnum ?notProperties ?notRequired
    ?notAllOf ?notAnyOf ?noneOf ?severalOf ?notReference schema value haccepts
  case anything => rintro value ⟨⟩
  case restrictions =>
    rintro members value - hpasses (_ | ⟨hmember, hfails⟩)
    exact hpasses _ _ hmember hfails
  case type =>
    rintro name value htype (hother | _)
    simp [hother] at htype
  case types =>
    rintro names name value hname htype (_ | hothers)
    simp [hothers _ hname] at htype
  case enum =>
    rintro options option value hoption hsame (_ | _ | hothers)
    simp [hothers _ hoption] at hsame
  case properties =>
    rintro entries value - hentries hfails
    cases hfails with
    | properties hentry hchild hrejects => exact hentries _ _ _ hentry hchild hrejects
  case required =>
    rintro keys value hkeys hfails
    cases hfails with
    | required hkey hmissing => simp [hkeys _ _ hkey rfl] at hmissing
  case allOf =>
    rintro schemas value - hall hfails
    cases hfails with
    | allOf hschema hrejects => exact hall _ hschema hrejects
  case anyOf =>
    rintro schemas schema value hschema - haccepts hfails
    cases hfails with
    | anyOf hall => exact haccepts (hall _ hschema)
  case oneOf =>
    intro before schema after value _ _ haccepts hothers hfails
    -- the same list is split differently by acceptance and by rejection
    generalize hschemas : Json.array (before ++ schema :: after) = part at hfails
    cases hfails with
    | noneOf hall =>
        obtain rfl := Json.array.inj hschemas
        exact haccepts (hall _ (by simp))
    | severalOf hfirst hsecond =>
        -- one of the two accepted alternatives is among the rejected ones
        rcases mem_others (Json.array.inj hschemas) with hother | hother
        · exact hothers _ hother hfirst
        · exact hothers _ hother hsecond
  case reference =>
    rintro reference target value htarget - haccepts hfails
    cases hfails with
    | reference hother hrejects =>
        obtain rfl := Option.some.inj (htarget.symm.trans hother)
        exact haccepts hrejects
  case nothing => rintro value ⟨⟩
  case restriction =>
    rintro members restriction part value hmember - hfails (_ | hpasses)
    exact hfails (hpasses _ _ hmember)
  case notType =>
    rintro name value htype (hother | _)
    simp [htype] at hother
  case notTypes =>
    rintro names value htypes hpasses
    cases hpasses with
    | types hname htype => simp [htypes _ hname] at htype
  case notEnum =>
    rintro options value hoptions hpasses
    cases hpasses with
    | enum hoption hsame => simp [hoptions _ hoption] at hsame
  case notProperties =>
    rintro entries key schema value child hentry hchild - hrejects hpasses
    cases hpasses with
    | properties hentries => exact hrejects (hentries _ _ _ hentry hchild)
  case notRequired =>
    rintro keys members key hkey hmissing hpasses
    cases hpasses with
    | required hkeys => simp [hkeys _ _ hkey rfl] at hmissing
  case notAllOf =>
    rintro schemas schema value hschema - hrejects hpasses
    cases hpasses with
    | allOf hall => exact hrejects (hall _ hschema)
  case notAnyOf =>
    rintro schemas value - hall hpasses
    cases hpasses with
    | anyOf hschema haccepts => exact hall _ hschema haccepts
  case noneOf =>
    intro schemas value _ hall hpasses
    generalize hschemas : Json.array schemas = part at hpasses
    cases hpasses with
    | oneOf haccepts hothers =>
        obtain rfl := Json.array.inj hschemas
        exact hall _ (by simp) haccepts
  case severalOf =>
    intro before first middle second after value _ _ hfirst hsecond hpasses
    generalize hschemas : Json.array (before ++ first :: (middle ++ second :: after)) = part
      at hpasses
    cases hpasses with
    | oneOf haccepts hothers =>
        rcases mem_others (Json.array.inj hschemas).symm with hother | hother
        · exact hfirst (hothers _ hother)
        · exact hsecond (hothers _ hother)
  case notReference =>
    rintro reference target value htarget - hrejects hpasses
    cases hpasses with
    | reference hother haccepts =>
        obtain rfl := Option.some.inj (htarget.symm.trans hother)
        exact hrejects haccepts

/-! ## Chains of references -/

/-- Following references from a node ends at a node. -/
inductive LeadsTo (document : Json) : (node target : Json) → Prop
  | here {node} (hnode : reference? node = none) : LeadsTo document node node
  | step {node next target reference} (hreference : reference? node = some reference)
      (hnext : referenced? document reference = some next)
      (htarget : LeadsTo document next target) : LeadsTo document node target

/-- What a reference accepts is accepted where it leads to. -/
theorem LeadsTo.accepts {node target : Json} (htarget : LeadsTo document node target)
    (haccepts : Accepts document node value) : Accepts document target value := by
  induction htarget with
  | here => exact haccepts
  | @step node next target reference hreference hnext _ ih =>
      obtain ⟨part, hpart, hstring⟩ := Option.bind_eq_some_iff.mp hreference
      cases part <;> cases hstring
      have hpasses : Passes document .reference (.string reference) value :=
        haccepts.passes (carries_of_get? hpart)
      cases hpasses with
      | reference htarget hnode =>
          obtain rfl := Option.some.inj (htarget.symm.trans hnext)
          exact ih hnode

end Json

end SchemaTypes
