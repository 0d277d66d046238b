import SchemaTypes.Proofs.Code.JsonMacro
import SchemaTypes.Proofs.Codec.Number
import SchemaTypes.Proofs.Outcome

/-!
# Constants in generated code

The default of a property is written as a constant: a literal, a case of an enumeration, a list, a
map, an option, or a JSON value that a macro rebuilds.  Reading its tokens gives the constant back,
as long as numbers are held in memory and keys are distinct.

* `Token.constant?`: the value of a constant.
* `DefaultValue.IsHeld`: the constants that generated code may hold.
* `DefaultValue.constant?_code`: what is read from the code of a constant.
-/

namespace SchemaTypes

namespace Token

/-! ## Reading a constant -/

/-- The outermost part of a constant. -/
inductive ConstantShape
  /-- A constant without parts. -/
  | value (value : DefaultValue)
  | present (inner : List Token)
  | list (items : List (List Token))
  | map (entries : List (String × List Token))

namespace ConstantShape

/-- The constants inside a constant. -/
def parts : ConstantShape → List (List Token)
  | .value _ => []
  | .present inner => [inner]
  | .list items => items
  | .map entries => entries.map (·.2)

end ConstantShape

/-- A word, or a case of an enumeration. -/
def pathConstant? (segments : List String) : Option DefaultValue :=
  match segments.reverse with
  | ["true"] => some (.bool true)
  | ["false"] => some (.bool false)
  | ["None"] => some .absent
  | case :: name :: modules => some (.enumCase ⟨modules.reverse, name⟩ case)
  | _ => none

/-- A string literal that is made an owned one, or an integer of 64 bits with sign. -/
def literalConstant? : List Token → Option DefaultValue
  | [text, .punct '.' .alone, .ident "to_owned", .group .parenthesis []] =>
    text.stringValue?.map .text
  | tokens => (integerValue? tokens).bind fun value =>
    if JsonNumber.leastSigned ≤ value ∧ value ≤ JsonNumber.greatestSigned then some (.integer value)
    else none

/-- The key of an entry and the tokens of its value. -/
def splitEntry? : List Token → Option (String × List Token)
  | [.group .parenthesis (key :: .punct '.' .alone :: .ident "to_owned" :: .group .parenthesis [] ::
      .punct ',' .alone :: value)] => key.stringValue?.map (·, value)
  | _ => none

/-- A number as the value that a macro builds from its literal. -/
def exactNumber? (tokens : List Token) : Option JsonNumber :=
  ((floatValue? tokens).map .float).or ((integerValue? tokens).map .integer)

/-- What a constant is made of, one level deep: a path, a literal, an option, a collection or a call
of `json!`. -/
def constantShape? (tokens : List Token) : Option ConstantShape :=
  match leadingPath tokens with
  | ([], _) => (literalConstant? tokens).map .value
  | (segments, []) => (pathConstant? segments).map .value
  | (["Some"], [.group .parenthesis inner]) => some (.present inner)
  | (["vec"], [.punct '!' .alone, .group .bracket body]) => some (.list (items body))
  | (["", "schema2rs_support", "Map", "from_iter"],
      [.group .parenthesis [.group .bracket body]]) =>
    ((items body).mapM splitEntry?).map .map
  | (["", "schema2rs_support", "Number", _], _) =>
    (numberValue? tokens).map fun number => .value number.constant
  | _ => (jsonMacro? exactNumber? tokens).map fun value => .value (.json value)

theorem sizeOf_lt_of_splitEntry? {tokens value : List Token} {key : String}
    (hsplit : splitEntry? tokens = some (key, value)) : sizeOf value < sizeOf tokens := by
  unfold splitEntry? at hsplit
  split at hsplit
  · obtain ⟨text, -, hsame⟩ := Option.map_eq_some_iff.mp hsplit
    cases hsame
    simp only [List.cons.sizeOf_spec, group.sizeOf_spec]
    omega
  · cases hsplit

/-- The constants inside a constant are smaller than the constant. -/
theorem sizeOf_lt_of_mem_parts {tokens part : List Token} {shape : ConstantShape}
    (hshape : constantShape? tokens = some shape) (hpart : part ∈ shape.parts) :
    sizeOf part < sizeOf tokens := by
  have hrest := sizeOf_leadingPath_le tokens
  unfold constantShape? at hshape
  -- only options, lists and maps have parts, each inside of brackets behind the path
  split at hshape
  · obtain ⟨value, -, rfl⟩ := Option.map_eq_some_iff.mp hshape
    cases hpart
  · obtain ⟨value, -, rfl⟩ := Option.map_eq_some_iff.mp hshape
    cases hpart
  · rename_i hpath
    obtain rfl := Option.some.inj hshape
    obtain rfl := List.mem_singleton.mp hpart
    rw [hpath] at hrest
    simp only [List.cons.sizeOf_spec, group.sizeOf_spec] at hrest
    omega
  · rename_i hpath
    obtain rfl := Option.some.inj hshape
    have hitem := sizeOf_le_of_mem_items hpart
    rw [hpath] at hrest
    simp only [List.cons.sizeOf_spec, group.sizeOf_spec] at hrest
    omega
  · rename_i hpath
    obtain ⟨entries, hentries, rfl⟩ := Option.map_eq_some_iff.mp hshape
    obtain ⟨entry, hentry, rfl⟩ := List.mem_map.mp hpart
    obtain ⟨piece, hpiece, hsplit⟩ := Outcome.exists_of_mem_mapM_option hentries hentry
    have hpiece := sizeOf_le_of_mem_items hpiece
    have hvalue := sizeOf_lt_of_splitEntry? hsplit
    rw [hpath] at hrest
    simp only [List.cons.sizeOf_spec, group.sizeOf_spec] at hrest
    omega
  · obtain ⟨number, -, rfl⟩ := Option.map_eq_some_iff.mp hshape
    cases hpart
  · obtain ⟨value, -, rfl⟩ := Option.map_eq_some_iff.mp hshape
    cases hpart

/-- The value of a constant.  The keys of a map have to be distinct. -/
def constant? (tokens : List Token) : Option DefaultValue :=
  match hshape : constantShape? tokens with
  | some (.value value) => some value
  | some (.present inner) =>
    have := sizeOf_lt_of_mem_parts hshape List.mem_cons_self
    (constant? inner).map .present
  | some (.list items) =>
    (items.attach.mapM fun item =>
      have := sizeOf_lt_of_mem_parts hshape item.2
      constant? item.1).map .list
  | some (.map entries) =>
    if (entries.map (·.1)).Nodup then
      (entries.attach.mapM fun entry =>
        have := sizeOf_lt_of_mem_parts hshape (List.mem_map_of_mem (f := (·.2)) entry.2)
        (constant? entry.1.2).map (entry.1.1, ·)).map .map
    else none
  | none => none
termination_by sizeOf tokens

section

variable {tokens : List Token}

theorem constant?_of_value {value : DefaultValue}
    (hshape : constantShape? tokens = some (.value value)) : constant? tokens = some value := by
  rw [constant?]
  split <;> simp_all

theorem constant?_of_present {inner : List Token}
    (hshape : constantShape? tokens = some (.present inner)) :
    constant? tokens = (constant? inner).map .present := by
  rw [constant?]
  split <;> simp_all

theorem constant?_of_list {items : List (List Token)}
    (hshape : constantShape? tokens = some (.list items)) :
    constant? tokens = (items.mapM constant?).map .list := by
  rw [constant?]
  split
  case h_3 others hothers =>
    obtain rfl : items = others := by simpa [hshape] using hothers
    rw [List.mapM_subtype (g := constant?) fun _ _ => rfl, List.unattach_attach]
  all_goals simp_all

theorem constant?_of_map {entries : List (String × List Token)}
    (hshape : constantShape? tokens = some (.map entries)) (hkeys : (entries.map (·.1)).Nodup) :
    constant? tokens =
      (entries.mapM fun entry => (constant? entry.2).map (entry.1, ·)).map .map := by
  rw [constant?]
  split
  case h_4 others hothers =>
    obtain rfl : entries = others := by simpa [hshape] using hothers
    rw [if_pos hkeys, List.mapM_subtype
      (g := fun entry => (constant? entry.2).map (entry.1, ·)) fun _ _ => rfl, List.unattach_attach]
  all_goals simp_all

end

end Token

/-! ## Writing a constant -/

namespace DefaultValue

open Token (Free isComma)

/-- A constant as generated code may hold it: numbers are held in memory, and keys are distinct. -/
inductive IsHeld : DefaultValue → Prop
  | bool (value) : IsHeld (.bool value)
  | integer {value} (hvalue : Decode.IsSigned value) : IsHeld (.integer value)
  | number {value : NumberValue} (hvalue : value.IsHeld) : IsHeld value.constant
  | text (value) : IsHeld (.text value)
  | list {items} (hitems : ∀ item ∈ items, IsHeld item) : IsHeld (.list items)
  | map {entries} (hkeys : (entries.map Prod.fst).Nodup)
      (hentries : ∀ entry ∈ entries, IsHeld (Prod.snd entry)) : IsHeld (.map entries)
  | enumCase (path ident) : IsHeld (.enumCase path ident)
  | absent : IsHeld .absent
  | present {value} (hvalue : IsHeld value) : IsHeld (.present value)
  | json {value} (hkeys : value.KeysDistinct) (hnumbers : value.EachNumber JsonNumber.IsExact) :
      IsHeld (.json value)

theorem itemCodes_eq (items : List DefaultValue) : itemCodes items = items.map code := by
  induction items with
  | nil => rfl
  | cons item rest ih => rw [itemCodes, ih, List.map_cons]

/-- An entry of a map. -/
def entryCode (entry : String × DefaultValue) : Code :=
  .parens (.separated [.ownedText entry.1, entry.2.code])

theorem entryCodes_eq (entries : List (String × DefaultValue)) :
    entryCodes entries = entries.map entryCode := by
  induction entries with
  | nil => rfl
  | cons entry rest ih => rw [entryCodes, ih, List.map_cons, entryCode]

/-- A constant is no empty piece of code, and it has no comma outside of brackets. -/
theorem tokens_code (value : DefaultValue) :
    Free isComma value.code.tokens ∧ value.code.tokens ≠ [] := by
  have hfree : ∀ tokens : List Token, tokens.all (!isComma ·) = true → Free isComma tokens := by
    intro tokens htokens token htoken
    simpa using List.all_eq_true.mp htokens token htoken
  cases value with
  | integer value => exact Code.tokens_ofJson (.number (.integer value))
  | enumCase path ident =>
      rw [code]
      exact ⟨Code.tokens_member path ident ▸ Code.free_isComma_path _,
        List.append_ne_nil_of_right_ne_nil _ (List.cons_ne_nil _ _)⟩
  | bool | integerNumber | floatNumber | text | list | map | absent | present | json =>
      exact ⟨hfree _ rfl, List.cons_ne_nil _ _⟩

/-! ## Reading what is written -/

theorem constantShape?_list (items : List DefaultValue) :
    Token.constantShape? (list items).code.tokens =
      some (.list (items.map fun item => item.code.tokens)) := by
  have hshape : Token.constantShape? (list items).code.tokens =
      some (.list (Token.items (Code.separated (itemCodes items)).tokens)) := rfl
  rw [hshape, itemCodes_eq, Code.items_separated, List.map_map]
  · rfl
  · exact List.forall_mem_map.mpr fun item _ => item.tokens_code.1
  · exact List.forall_mem_map.mpr fun item _ => item.tokens_code.2

theorem splitEntry?_entryCode (entry : String × DefaultValue) :
    Token.splitEntry? (entryCode entry).tokens = some (entry.1, entry.2.code.tokens) := by
  have hsplit : Token.splitEntry? (entryCode entry).tokens =
      (Token.string entry.1).stringValue?.map (·, entry.2.code.tokens) := rfl
  rw [hsplit, Token.stringValue?_string, Option.map_some]

theorem constantShape?_map (entries : List (String × DefaultValue)) :
    Token.constantShape? (map entries).code.tokens =
      some (.map (entries.map fun entry => (entry.1, entry.2.code.tokens))) := by
  have hshape : Token.constantShape? (map entries).code.tokens =
      ((Token.items (Code.separated (entryCodes entries)).tokens).mapM Token.splitEntry?).map
        .map := rfl
  rw [hshape, entryCodes_eq, Code.items_separated, List.map_map]
  · exact congrArg (Option.map Token.ConstantShape.map)
      (mapM_map_eq_some fun entry _ => splitEntry?_entryCode entry)
  · exact List.forall_mem_map.mpr fun entry _ => List.forall_mem_singleton.mpr rfl
  · exact List.forall_mem_map.mpr fun entry _ => nofun

theorem constantShape?_enumCase (path : TypePath) (ident : String) :
    Token.constantShape? (enumCase path ident).code.tokens =
      some (.value (.enumCase path ident)) := by
  have hpath : Token.leadingPath (enumCase path ident).code.tokens =
      (path.modules ++ [path.name] ++ [ident], []) := by
    have hmember : Token.leadingPath (((Code.ofTypePath path).member ident).tokens ++ []) = _ :=
      Code.leadingPath_member path ident trivial
    rwa [List.append_nil] at hmember
  have hconstant : Token.pathConstant? (path.modules ++ [path.name] ++ [ident]) =
      some (.enumCase path ident) := by
    rw [Token.pathConstant?, List.reverse_append, List.reverse_append]
    simp
  rw [Token.constantShape?, hpath]
  split <;> simp_all

theorem exactNumber?_ofJsonNumber {number : JsonNumber} (hnumber : number.IsExact) :
    Token.exactNumber? (Code.ofJsonNumber number).tokens = some number := by
  cases number with
  | integer value =>
      rw [Code.ofJsonNumber, Token.exactNumber?, Token.floatValue?_integer,
        Token.integerValue?_integer]
      rfl
  | float value =>
      rw [Code.ofJsonNumber, Token.exactNumber?, Token.floatValue?_float hnumber]
      rfl

theorem constantShape?_json {value : Json} (hkeys : value.KeysDistinct)
    (hnumbers : value.EachNumber JsonNumber.IsExact) :
    Token.constantShape? (json value).code.tokens = some (.value (.json value)) := by
  have hshape : Token.constantShape? (json value).code.tokens =
      (Token.rebuilt? Token.exactNumber? (Code.ofJson value).tokens).map
        fun value => .value (.json value) := rfl
  rw [hshape, (Token.rebuilt?_ofJson_iff hkeys).mpr]
  · rfl
  · exact fun number hnumber => exactNumber?_ofJsonNumber (hnumbers number hnumber)

theorem constantShape?_number {value : NumberValue} (hvalue : value.IsHeld) :
    Token.constantShape? value.constant.code.tokens = some (.value value.constant) := by
  have hread := NumberValue.numberValue?_code hvalue
  obtain ⟨variant, argument, hpath⟩ : ∃ variant argument,
      Token.leadingPath value.constant.code.tokens =
        (["", "schema2rs_support", "Number", variant], [argument]) := by
    cases value <;> exact ⟨_, _, rfl⟩
  rw [Token.constantShape?, hpath]
  split <;> simp_all

theorem constantShape?_integer {value : Int} (hvalue : Decode.IsSigned value) :
    Token.constantShape? (integer value).code.tokens = some (.value (.integer value)) := by
  have hread : Token.literalConstant? (Code.integer value).tokens =
      (Token.integerValue? (Code.integer value).tokens).bind fun value =>
        if JsonNumber.leastSigned ≤ value ∧ value ≤ JsonNumber.greatestSigned then
          some (.integer value)
        else none := by
    rw [Code.integer]
    split <;> rfl
  have hshape : Token.constantShape? (integer value).code.tokens =
      (Token.literalConstant? (Code.integer value).tokens).map .value := by
    rw [code, Code.integer]
    split <;> rfl
  rw [hshape, hread, Token.integerValue?_integer, Option.bind_some]
  exact congrArg (Option.map _) (if_pos hvalue)

theorem constantShape?_text (value : String) :
    Token.constantShape? (text value).code.tokens = some (.value (.text value)) := by
  have hshape : Token.constantShape? (text value).code.tokens =
      ((Token.string value).stringValue?.map DefaultValue.text).map .value := rfl
  rw [hshape, Token.stringValue?_string, Option.map_some, Option.map_some]

/-- **Constants** are read as what they were written for. -/
theorem constant?_code {value : DefaultValue} (hvalue : value.IsHeld) :
    Token.constant? value.code.tokens = some value := by
  induction hvalue with
  | bool value => cases value <;> exact Token.constant?_of_value rfl
  | integer hvalue => exact Token.constant?_of_value (constantShape?_integer hvalue)
  | number hvalue => exact Token.constant?_of_value (constantShape?_number hvalue)
  | text value => exact Token.constant?_of_value (constantShape?_text value)
  | @list items hitems ih =>
      have hread : (items.map fun item => item.code.tokens).mapM Token.constant? =
          some (items.map id) := mapM_map_eq_some ih
      rw [Token.constant?_of_list (constantShape?_list items), hread, List.map_id, Option.map_some]
  | @map entries hkeys hentries ih =>
      have hsame : (entries.map fun entry => (entry.1, entry.2.code.tokens)).map (·.1) =
          entries.map (·.1) := by
        rw [List.map_map]
        rfl
      have hread : (entries.map fun entry => (entry.1, entry.2.code.tokens)).mapM
          (fun entry => (Token.constant? entry.2).map (entry.1, ·)) = some (entries.map id) := by
        refine mapM_map_eq_some fun entry hentry => ?_
        dsimp only
        rw [ih entry hentry]
        rfl
      rw [Token.constant?_of_map (constantShape?_map entries) (hsame ▸ hkeys), hread, List.map_id,
        Option.map_some]
  | enumCase path ident => exact Token.constant?_of_value (constantShape?_enumCase path ident)
  | absent => exact Token.constant?_of_value rfl
  | @present value hvalue ih =>
      have hshape : Token.constantShape? (present value).code.tokens =
          some (.present value.code.tokens) := rfl
      rw [Token.constant?_of_present hshape, ih, Option.map_some]
  | json hkeys hnumbers => exact Token.constant?_of_value (constantShape?_json hkeys hnumbers)

end DefaultValue

end SchemaTypes
