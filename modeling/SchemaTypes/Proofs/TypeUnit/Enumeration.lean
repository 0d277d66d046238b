import SchemaTypes.Proofs.Code.Arm
import SchemaTypes.Proofs.Code.Literal
import SchemaTypes.Proofs.Json.Insertion
import SchemaTypes.Proofs.Schema.Enumeration
import SchemaTypes.TypeUnit.Source

/-!
# Enumerations as codecs

The code of an enumeration is read back from its tokens: the constant `ALL`, the arms by which a
JSON value is looked up, and the arms by which a case is encoded.  What is read can be run.

The look-up by a scan names `ALL`.  Where a case has this name too, the name stands for the case,
and a case is nothing that can be scanned.

* `EnumCodec`: the code of an enumeration as it is run.
* `EnumUnit.read?_implementationCode`: what is read from the code of an enumeration.
* `EnumDefinition.decode?_codec`: decoding finds the case of a value.
* `EnumUnit.isCodec_iff`: when the code of an enumeration is an exact codec.
-/

namespace SchemaTypes

/-! ## Running the code of an enumeration -/

/-- How a case is looked up. -/
inductive CaseSearch
  /-- By the first arm that has the text of a string. -/
  | texts (arms : List (String × String))
  /-- By the first arm that has the integer. -/
  | integers (arms : List (Int × String))
  /-- By the first case in `ALL` that is encoded as the value. -/
  | scan

/-- The code of an enumeration. -/
structure EnumCodec where
  cases : List String
  all : List String
  search : CaseSearch
  encoder : List (String × Json)

namespace EnumCodec

/-- The literal that a case is encoded as. -/
def encode? (codec : EnumCodec) (case : String) : Option Json := codec.encoder.lookup case

/-- The cases that `ALL` stands for where the code names it.  A case of this name comes before the
constant, and code that scans a case is refused. -/
def scanned (codec : EnumCodec) : List String :=
  if codec.cases.contains "ALL" then [] else codec.all

/-- The case that a value is decoded to: by an arm for its text or number, or by the first case of
the scan with its literal. -/
def decode? (codec : EnumCodec) (value : Json) : Option String :=
  match codec.search with
  | .texts arms => value.string?.bind fun text => arms.lookup text
  | .integers arms => value.signed?.bind fun number => arms.lookup number
  | .scan => codec.scanned.find? fun case => (codec.encode? case).any (· == value)

/-- Encoding and decoding are inverse to each other, and decoding finds the same cases as the
definition does. -/
structure IsCodec (codec : EnumCodec) (definition : EnumDefinition) : Prop where
  decode_encode : ∀ case ∈ definition.cases, ∃ encoded,
    codec.encode? case.ident = some encoded ∧ codec.decode? encoded = some case.ident
  decode_iff : ∀ case ∈ definition.cases, ∀ value,
    codec.decode? value = some case.ident ↔ (value == case.literal) = true
  encode_decode : ∀ value case, codec.decode? value = some case → codec.encode? case = some value
  agrees : ∀ value, codec.decode? value = (definition.caseFor? value).map (·.ident)

end EnumCodec

/-! ## Reading the code of an enumeration -/

namespace Token

/-- `Self::name`. -/
def selfMember? : List Token → Option String
  | [.ident "Self", .punct ':' .joint, .punct ':' .alone, .ident name] => some name
  | _ => none

/-- `Some(Self::name)`. -/
def found? : List Token → Option String
  | [.ident "Some", .group .parenthesis case] => selfMember? case
  | _ => none

/-- A string literal. -/
def text? : List Token → Option String
  | [token] => token.stringValue?
  | _ => none

/-- The arms of a look-up, of which the last is `_ => None`, each with a comma after it. -/
def lookupArms? {α : Type} (pattern? : List Token → Option α) (tokens : List Token) :
    Option (List (α × String)) :=
  match (splitCommas tokens).reverse with
  | [] :: [.ident "_", .punct '=' .joint, .punct '>' .alone, .ident "None"] :: arms =>
    arms.reverse.mapM (arm? pattern? found?)
  | _ => none

/-- `Value::String("text".to_owned())` or `Value::from(integer)`. -/
def json? : List Token → Option Json
  | [.punct ':' .joint, .punct ':' .alone, .ident "schema2rs_support",
      .punct ':' .joint, .punct ':' .alone, .ident "serde_json",
      .punct ':' .joint, .punct ':' .alone, .ident "Value",
      .punct ':' .joint, .punct ':' .alone, .ident function, .group .parenthesis argument] =>
    match function, argument with
    | "String", [text, .punct '.' .alone, .ident "to_owned", .group .parenthesis []] =>
      text.stringValue?.map Json.string
    | "from", argument => (typedIntegerValue? argument).map fun value => .number (.integer value)
    | _, _ => none
  | _ => none

/-- The body of `try_from_json`. -/
def search? : List Token → Option CaseSearch
  | [.ident "match", .ident "value", .punct '.' .alone, .ident "as_str", .group .parenthesis [],
      .punct '?' .alone, .group .brace arms] => (lookupArms? text? arms).map .texts
  | [.ident "match", .ident "value", .punct '.' .alone, .ident "as_i64", .group .parenthesis [],
      .punct '?' .alone, .group .brace arms] => (lookupArms? integerValue? arms).map .integers
  | [.ident "Self", .punct ':' .joint, .punct ':' .alone, .ident "ALL", .punct '.' .alone,
      .ident "into_iter", .group .parenthesis [], .punct '.' .alone, .ident "find",
      .group .parenthesis [.punct '|' .alone, .ident "case", .punct '|' .alone, .punct '&' .alone,
        .ident "case", .punct '.' .alone, .ident "to_json", .group .parenthesis [],
        .punct '=' .joint, .punct '=' .alone, .ident "value"]] => some .scan
  | _ => none

/-- The body of `to_json`. -/
def encoder? : List Token → Option (List (String × Json))
  | [.ident "match", .ident "self", .group .brace arms] =>
    (items arms).mapM (arm? selfMember? json?)
  | _ => none

/-- The items of the constant `ALL`. -/
def all? : List Token → Option (List String)
  | .ident "const" :: .ident "ALL" :: .punct ':' .alone :: .group .bracket _ ::
      .punct '=' .alone :: .group .bracket cases :: _ => (items cases).mapM selfMember?
  | _ :: rest => all? rest
  | [] => none

/-- The first body in braces. -/
def braces? : List Token → Option (List Token)
  | .group .brace body :: _ => some body
  | _ :: rest => braces? rest
  | [] => none

/-- The body of the first function of some name. -/
def function? (name : String) : List Token → Option (List Token)
  | .ident "fn" :: .ident found :: rest =>
    if found = name then braces? rest else function? name rest
  | _ :: rest => function? name rest
  | [] => none

end Token

open Token in
/-- Reads the implementation of an enumeration with the given cases. -/
def EnumCodec.read? (cases : List String) : List Token → Option EnumCodec
  | [.ident "impl", .ident _, .group .brace body] => do
    let all ← all? body
    let search ← (function? "try_from_json" body).bind search?
    let encoder ← (function? "to_json" body).bind encoder?
    return { cases, all, search, encoder }
  | _ => none

/-! ## What is read -/

namespace EnumDefinition

/-- The look-up that the backing of an enumeration asks for. -/
def search (definition : EnumDefinition) : CaseSearch :=
  match definition.backing with
  | .string => .texts <| definition.cases.filterMap fun case =>
      case.literal.string?.map (·, case.ident)
  | .integer => .integers <| definition.cases.filterMap fun case =>
      case.literal.signed?.map (·, case.ident)
  | .mixed => .scan

/-- The code of an enumeration, as it is run. -/
def codec (definition : EnumDefinition) : EnumCodec where
  cases := definition.cases.map (·.ident)
  all := definition.cases.map (·.ident)
  search := definition.search
  encoder := definition.cases.map fun case => (case.ident, case.literal)

end EnumDefinition

namespace EnumUnit

open Token (Free isComma isArrow)

theorem selfMember?_selfMember (name : String) :
    Token.selfMember? (Code.selfMember name).tokens = some name := rfl

theorem free_selfMember (name : String) : Free isComma (Code.selfMember name).tokens ∧
    Free isArrow (Code.selfMember name).tokens := by
  have htokens : (Code.selfMember name).tokens =
      [.ident "Self", .punct ':' .joint, .punct ':' .alone, .ident name] := rfl
  rw [htokens]
  simp [Free, isComma, isArrow]

/-- The names of cases are read from the constant `ALL`. -/
theorem mapM_selfMember? (cases : List EnumCase) :
    (Token.items (Code.separated (cases.map fun case => .selfMember case.ident)).tokens).mapM
      Token.selfMember? = some (cases.map (·.ident)) := by
  rw [Code.items_separated, List.map_map]
  · exact mapM_map_eq_some fun case _ => selfMember?_selfMember case.ident
  · exact List.forall_mem_map.mpr fun case _ => (free_selfMember case.ident).1
  · exact List.forall_mem_map.mpr fun case _ => nofun

/-- The arms of a look-up, before the last one. -/
theorem lookupArms?_terminated {α : Type} {pattern? : List Token → Option α} {pattern : α → Code}
    (hcomma : ∀ key, Free isComma (pattern key).tokens)
    (harrow : ∀ key, Free isArrow (pattern key).tokens)
    (hread : ∀ key, pattern? (pattern key).tokens = some key) (arms : List (α × String)) :
    Token.lookupArms? pattern? (Code.terminated
      (arms.map (fun arm => Code.arm (pattern arm.1) (.some (.selfMember arm.2))) ++
        [.arm (.word "_") .none])).tokens = some arms := by
  have hfound : ∀ name, Free isComma (Code.some (.selfMember name)).tokens := by
    intro name
    have htokens : (Code.some (.selfMember name)).tokens =
        [.ident "Some", .group .parenthesis (Code.selfMember name).tokens] := rfl
    rw [htokens]
    simp [Free, isComma]
  have hlast : Free isComma (Code.arm (.word "_") .none).tokens := by
    refine Code.free_isComma_arm ?_ ?_ <;> simp [Free, Code.word, Code.none, isComma]
  have hpieces : ∀ piece ∈ arms.map (fun arm =>
      Code.arm (pattern arm.1) (.some (.selfMember arm.2))) ++ [.arm (.word "_") .none],
      Free isComma piece.tokens := by
    rw [List.forall_mem_append, List.forall_mem_map, List.forall_mem_singleton]
    exact ⟨fun arm _ => Code.free_isComma_arm (hcomma arm.1) (hfound arm.2), hlast⟩
  have hread' : ∀ arm ∈ arms, Token.arm? pattern? Token.found?
      (Code.arm (pattern arm.1) (.some (.selfMember arm.2))).tokens = some arm :=
    fun arm _ => Code.arm?_arm (harrow arm.1) (hread arm.1) (selfMember?_selfMember arm.2)
  rw [Token.lookupArms?, Code.splitCommas_terminated hpieces, List.map_append, List.map_map,
    List.append_assoc, List.reverse_append]
  change ((arms.map _).reverse.reverse.mapM (Token.arm? pattern? Token.found?)) = _
  rw [List.reverse_reverse]
  exact (mapM_map_eq_some hread').trans (congrArg some (List.map_id' arms))

/-- Cases without a literal of the right kind have no arm. -/
theorem filterMap_arm {α : Type} (key? : Json → Option α) (pattern : α → Code)
    (cases : List EnumCase) :
    (cases.filterMap fun case =>
        (key? case.literal).map fun key => Code.arm (pattern key) (found case)) =
      (cases.filterMap fun case => (key? case.literal).map (·, case.ident)).map
        fun arm => Code.arm (pattern arm.1) (.some (.selfMember arm.2)) := by
  rw [List.map_filterMap]
  refine List.filterMap_congr fun case _ => ?_
  rw [Option.map_map]
  rfl

theorem free_string (text : String) :
    Free isComma (Code.string text).tokens ∧ Free isArrow (Code.string text).tokens := by
  have htokens : (Code.string text).tokens = [Token.string text] := rfl
  rw [htokens]
  simp [Free, Token.string, isComma, isArrow]

theorem free_integer (value : Int) :
    Free isComma (Code.integer value).tokens ∧ Free isArrow (Code.integer value).tokens := by
  have hliteral : ∀ spelling, (Code.literal spelling).tokens = [.literal spelling] := fun _ => rfl
  have hminus : ∀ spelling, (Code.operator "-" ++ Code.literal spelling).tokens =
      [.punct '-' .alone, .literal spelling] := fun _ => rfl
  rw [Code.integer]
  split
  · rw [hminus]
    simp [Free, isComma, isArrow]
  · rw [hliteral]
    simp [Free, isComma, isArrow]

theorem search?_lookupCode (definition : EnumDefinition) :
    Token.search? (lookupCode definition).tokens = some definition.search := by
  rw [lookupCode, EnumDefinition.search]
  cases definition.backing with
  | string =>
      dsimp only
      rw [filterMap_arm Json.string? Code.string]
      exact congrArg (Option.map CaseSearch.texts) <| lookupArms?_terminated
        (fun text => (free_string text).1) (fun text => (free_string text).2)
        Token.stringValue?_string _
  | integer =>
      dsimp only
      rw [filterMap_arm Json.signed? Code.integer]
      exact congrArg (Option.map CaseSearch.integers) <| lookupArms?_terminated
        (fun value => (free_integer value).1) (fun value => (free_integer value).2)
        Token.integerValue?_integer _
  | mixed => rfl

/-- A literal is encoded by a call of one function. -/
theorem exists_literalCode_eq {literal : Json}
    (hliteral : EnumDefinition.isSupportedLiteral literal) :
    ∃ function argument, literalCode literal = (Code.jsonVariant function).call [argument] ∧
      Token.json? ((Code.jsonVariant function).call [argument]).tokens = some literal := by
  rcases EnumDefinition.exists_of_isSupportedLiteral hliteral with
    ⟨text, rfl⟩ | ⟨number, rfl, hsigned⟩
  · refine ⟨"String", .ownedText text, rfl, ?_⟩
    have hread : Token.json? ((Code.jsonVariant "String").call [.ownedText text]).tokens =
        (Token.string text).stringValue?.map Json.string := rfl
    rw [hread, Token.stringValue?_string, Option.map_some]
  · refine ⟨"from", .typedInteger number, ?_, ?_⟩
    · rw [literalCode]
      · simp only [hsigned]
      · simp
    · have hread : Token.json? ((Code.jsonVariant "from").call [.typedInteger number]).tokens =
          (Token.typedIntegerValue? (Code.typedInteger number).tokens).map
            fun value => .number (.integer value) := rfl
      rw [hread, Token.typedIntegerValue?_typedInteger, Option.map_some]

theorem free_jsonVariant_call (function : String) (argument : Code) :
    Free isComma ((Code.jsonVariant function).call [argument]).tokens := by
  have htokens : ((Code.jsonVariant function).call [argument]).tokens =
      [.punct ':' .joint, .punct ':' .alone, .ident "schema2rs_support",
        .punct ':' .joint, .punct ':' .alone, .ident "serde_json",
        .punct ':' .joint, .punct ':' .alone, .ident "Value",
        .punct ':' .joint, .punct ':' .alone, .ident function,
        .group .parenthesis argument.tokens] := rfl
  rw [htokens]
  simp [Free, isComma]

/-- The arms by which cases are encoded. -/
theorem encoder?_arms {cases : List EnumCase}
    (hcases : ∀ case ∈ cases, EnumDefinition.isSupportedLiteral case.literal) :
    Token.encoder? [.ident "match", .ident "self", .group .brace (Code.separated (cases.map
        fun case => .arm (.selfMember case.ident) (literalCode case.literal))).tokens] =
      some (cases.map fun case => (case.ident, case.literal)) := by
  rw [Token.encoder?, Code.items_separated, List.map_map]
  · refine mapM_map_eq_some fun case hcase => ?_
    obtain ⟨function, argument, hcode, hread⟩ := exists_literalCode_eq (hcases case hcase)
    exact Code.arm?_arm (free_selfMember case.ident).2 (selfMember?_selfMember case.ident)
      (hcode ▸ hread)
  · refine List.forall_mem_map.mpr fun case hcase => ?_
    obtain ⟨function, argument, hcode, -⟩ := exists_literalCode_eq (hcases case hcase)
    exact Code.free_isComma_arm (free_selfMember case.ident).1
      (hcode ▸ free_jsonVariant_call function argument)
  · exact List.forall_mem_map.mpr fun case _ => nofun

/-- **Reading an enumeration.**  The code of an enumeration is read as the codec of its
definition. -/
theorem read?_implementationCode {unit : EnumUnit}
    (hcases : ∀ case ∈ unit.definition.cases, EnumDefinition.isSupportedLiteral case.literal) :
    EnumCodec.read? (unit.definition.cases.map (·.ident)) unit.implementationCode.tokens =
      some unit.definition.codec := by
  have hread : EnumCodec.read? (unit.definition.cases.map (·.ident))
      unit.implementationCode.tokens = (do
        let all ← (Token.items (Code.separated (unit.definition.cases.map
          fun case => .selfMember case.ident)).tokens).mapM Token.selfMember?
        let search ← Token.search? (lookupCode unit.definition).tokens
        let encoder ← Token.encoder? [.ident "match", .ident "self", .group .brace
          (Code.separated (unit.definition.cases.map fun case =>
            .arm (.selfMember case.ident) (literalCode case.literal))).tokens]
        return { cases := unit.definition.cases.map (·.ident), all, search, encoder }) := rfl
  rw [hread, mapM_selfMember?, search?_lookupCode, encoder?_arms hcases]
  rfl

end EnumUnit

/-! ## Running what is read -/

namespace EnumDefinition

/-- The name `ALL` stands for the constant where a scan needs it. -/
def IsScannable (definition : EnumDefinition) : Prop :=
  definition.backing = .mixed → "ALL" ∉ definition.cases.map (·.ident)

/-- The first arm with a key belongs to the first case with the value that has the key. -/
theorem lookup_arms {α : Type} [BEq α] [LawfulBEq α] {key? : Json → Option α} {key : α}
    {value : Json} {cases : List EnumCase}
    (hcases : ∀ case ∈ cases, key? case.literal = some key ↔ (case.literal == value) = true) :
    (cases.filterMap fun case => (key? case.literal).map (·, case.ident)).lookup key =
      (cases.find? fun case => case.literal == value).map (·.ident) := by
  induction cases with
  | nil => rfl
  | cons case rest ih =>
      rw [List.forall_mem_cons] at hcases
      rw [List.find?_cons]
      -- the first case with the literal of the value decides; earlier arms have other keys
      cases hsame : case.literal == value with
      | true =>
          rw [List.filterMap_cons]
          simp only [hcases.1.mpr hsame, Option.map_some, List.lookup_cons_self]
      | false =>
          have hkey : key? case.literal ≠ some key := by
            rw [Ne, hcases.1, hsame]
            exact Bool.false_ne_true
          rw [← ih hcases.2, List.filterMap_cons]
          cases hother : key? case.literal with
          | none => rfl
          | some other =>
              have hne : (key == other) = false := by
                rw [beq_eq_false_iff_ne]
                rintro rfl
                exact hkey hother
              simp only [Option.map_some, List.lookup_cons, hne]

section

variable {values : List Json} {definition : EnumDefinition}
  (hdefinition : IsEnumeration values definition)

include hdefinition

theorem encode?_codec {case : EnumCase} (hcase : case ∈ definition.cases) :
    definition.codec.encode? case.ident = some case.literal := by
  have hkeys : Members.keys (definition.cases.map fun case => (case.ident, case.literal)) =
      definition.cases.map (·.ident) := by
    rw [Members.keys, List.map_map]
    rfl
  refine (Members.get?_eq_some_iff (hkeys ▸ hdefinition.idents)).mpr ?_
  exact List.mem_map.mpr ⟨case, hcase, rfl⟩

/-- Arms whose keys tell the literals apart find the case of a value. -/
theorem lookup_bind_key? {α : Type} [BEq α] [LawfulBEq α] {key? : Json → Option α}
    (hkey : ∀ {first second key}, key? first = some key → key? second = some key → first = second)
    (hcases : ∀ case ∈ definition.cases, (key? case.literal).isSome) (value : Json) :
    ((key? value).bind fun key => (definition.cases.filterMap fun case =>
      (key? case.literal).map (·, case.ident)).lookup key) =
        (definition.caseFor? value).map (·.ident) := by
  have hliteral : ∀ case ∈ definition.cases,
      (case.literal == value) = true ↔ value = case.literal :=
    fun case hcase => literal_beq_iff (hdefinition.supported case hcase)
  cases hvalue : key? value with
  | none =>
      have hnone : definition.caseFor? value = none := by
        refine List.find?_eq_none.mpr fun case hcase hsame => ?_
        have hsome := hcases case hcase
        rw [← (hliteral case hcase).mp hsame, hvalue] at hsome
        cases hsome
      rw [hnone]
      rfl
  | some key =>
      refine lookup_arms fun case hcase => ?_
      rw [hliteral case hcase]
      constructor
      · exact hkey hvalue
      · rintro rfl
        exact hvalue

/-- **Decoding** finds the case of a value, as the definition does. -/
theorem decode?_codec (hscannable : definition.IsScannable) (value : Json) :
    definition.codec.decode? value = (definition.caseFor? value).map (·.ident) := by
  cases hbacking : definition.backing with
  | string =>
      have hsearch : definition.codec.search = .texts (definition.cases.filterMap fun case =>
          case.literal.string?.map (·, case.ident)) := by
        change definition.search = _
        rw [search, hbacking]
      rw [EnumCodec.decode?, hsearch]
      refine lookup_bind_key? hdefinition (fun hfirst hsecond => ?_)
        (hdefinition.strings hbacking) value
      rw [Json.string?_eq_some.mp hfirst, Json.string?_eq_some.mp hsecond]
  | integer =>
      have hsearch : definition.codec.search = .integers (definition.cases.filterMap fun case =>
          case.literal.signed?.map (·, case.ident)) := by
        change definition.search = _
        rw [search, hbacking]
      rw [EnumCodec.decode?, hsearch]
      refine lookup_bind_key? hdefinition (fun hfirst hsecond => ?_)
        (hdefinition.integers hbacking) value
      rw [Json.eq_of_signed? hfirst, Json.eq_of_signed? hsecond]
  | mixed =>
      have hsearch : definition.codec.search = .scan := by
        change definition.search = _
        rw [search, hbacking]
      -- no case is called like the constant, so the scan goes through all cases in order
      have hscanned : definition.codec.scanned = definition.cases.map (·.ident) := by
        rw [EnumCodec.scanned, if_neg]
        · rfl
        · rw [List.contains_iff_mem]
          exact hscannable hbacking
      rw [EnumCodec.decode?, hsearch]
      simp only
      rw [hscanned, List.find?_map, caseFor?]
      refine congrArg _ (List.find?_congr fun case hcase => ?_)
      rw [Function.comp_apply, encode?_codec hdefinition hcase, Option.any_some]

/-- **Exact codecs.**  Without a clash of names, the code of an enumeration is an exact codec. -/
theorem isCodec_codec (hscannable : definition.IsScannable) :
    definition.codec.IsCodec definition where
  decode_encode case hcase := by
    refine ⟨case.literal, encode?_codec hdefinition hcase, ?_⟩
    rw [decode?_codec hdefinition hscannable,
      (caseFor?_eq_some hdefinition).mpr ⟨hcase, rfl⟩, Option.map_some]
  decode_iff case hcase value := by
    rw [decode?_codec hdefinition hscannable, Option.map_eq_some_iff,
      beq_literal_iff (hdefinition.supported case hcase)]
    constructor
    · rintro ⟨other, hother, hident⟩
      obtain ⟨hmem, hvalue⟩ := (caseFor?_eq_some hdefinition).mp hother
      rw [hvalue, List.inj_on_of_nodup_map hdefinition.idents hmem hcase hident]
    · intro hvalue
      exact ⟨case, (caseFor?_eq_some hdefinition).mpr ⟨hcase, hvalue⟩, rfl⟩
  encode_decode value ident hdecode := by
    rw [decode?_codec hdefinition hscannable, Option.map_eq_some_iff] at hdecode
    obtain ⟨case, hcase, rfl⟩ := hdecode
    obtain ⟨hmem, hvalue⟩ := (caseFor?_eq_some hdefinition).mp hcase
    rw [hvalue, encode?_codec hdefinition hmem]
  agrees := decode?_codec hdefinition hscannable

end

/-- Where a case is called `ALL`, a scan finds nothing. -/
theorem decode?_codec_eq_none {definition : EnumDefinition} (hscannable : ¬definition.IsScannable)
    (value : Json) : definition.codec.decode? value = none := by
  rw [IsScannable, Classical.not_imp, not_not] at hscannable
  obtain ⟨hbacking, hall⟩ := hscannable
  have hsearch : definition.codec.search = .scan := by
    change definition.search = _
    rw [search, hbacking]
  have hscanned : definition.codec.scanned = [] := by
    rw [EnumCodec.scanned, if_pos]
    rw [List.contains_iff_mem]
    exact hall
  rw [EnumCodec.decode?, hsearch]
  simp only [hscanned, List.find?_nil]

theorem not_isCodec_codec {definition : EnumDefinition} (hscannable : ¬definition.IsScannable) :
    ¬definition.codec.IsCodec definition := by
  obtain ⟨-, hall⟩ := Classical.not_imp.mp hscannable
  obtain ⟨case, hcase, -⟩ := List.mem_map.mp (not_not.mp hall)
  intro hcodec
  obtain ⟨encoded, -, hdecode⟩ := hcodec.decode_encode case hcase
  rw [decode?_codec_eq_none hscannable] at hdecode
  cases hdecode

end EnumDefinition

namespace EnumUnit

/-- **Enumerations as codecs.**  The cases of an enumeration are the literals of the schema other
than `null`, each once and in order of first occurrence, under distinct identifiers.  The code of
the enumeration encodes each case as its literal, and it is an exact codec unless it scans `ALL`
while a case has this name. -/
theorem isCodec_iff [Spelling] {schema : Json} {supported : Bool} {unit : EnumUnit}
    (hdefinition : EnumDefinition.ofSchema schema supported = .ok unit.definition) :
    EnumDefinition.FirstOccurrences (schema.enumValues?.getD [])
        (unit.definition.cases.map (·.literal)) ∧
      (unit.definition.cases.map (·.ident)).Nodup ∧
      ∃ codec, EnumCodec.read? (unit.definition.cases.map (·.ident))
          unit.implementationCode.tokens = some codec ∧
        (∀ case ∈ unit.definition.cases, codec.encode? case.ident = some case.literal) ∧
        (codec.IsCodec unit.definition ↔ unit.definition.IsScannable) := by
  have hcases := EnumDefinition.isEnumeration_of_ofSchema hdefinition
  refine ⟨hcases.literals, hcases.idents, unit.definition.codec,
    read?_implementationCode hcases.supported, fun case => EnumDefinition.encode?_codec hcases, ?_⟩
  constructor
  · intro hcodec
    by_contra hscannable
    exact EnumDefinition.not_isCodec_codec hscannable hcodec
  · exact EnumDefinition.isCodec_codec hcases

attribute [local instance] Spelling.plain

/-- A schema with literals of two kinds, of which one is repeated. -/
def codeSchema : Json := .object [
  ("enum", .array [.number (.integer 1), .string "2", .null, .string "two", .string "2"])]

/-- The enumeration of this schema. -/
def codeUnit : EnumUnit where
  path := ⟨["crate"], "Code"⟩
  docs := default
  definition := {
    backing := .mixed
    cases := [⟨"VALUE_1", .number (.integer 1)⟩, ⟨"VALUE_2", .string "2"⟩,
      ⟨"VALUE_TWO", .string "two"⟩] }

theorem isCodec_codeUnit :
    EnumDefinition.ofSchema codeSchema true = .ok codeUnit.definition ∧
      ∃ codec, EnumCodec.read? ["VALUE_1", "VALUE_2", "VALUE_TWO"]
          codeUnit.implementationCode.tokens = some codec ∧
        codec.IsCodec codeUnit.definition := by
  have hdefinition : EnumDefinition.ofSchema codeSchema true = .ok codeUnit.definition := rfl
  have hscannable : codeUnit.definition.IsScannable := fun _ => by decide
  obtain ⟨-, -, codec, hread, -, hcodec⟩ := isCodec_iff hdefinition
  exact ⟨hdefinition, codec, hread, hcodec.mpr hscannable⟩

/-- A schema of which the declared type does not agree with the literals. -/
def shadowingSchema : Json := .object [
  ("type", .array [.string "integer", .string "string"]),
  ("enum", .array [.string "all", .string "none"])]

/-- The enumeration of this schema has a case `ALL` and scans. -/
def shadowingUnit : EnumUnit where
  path := ⟨["crate"], "Shadowing"⟩
  docs := default
  definition := {
    backing := .mixed
    cases := [⟨"ALL", .string "all"⟩, ⟨"NONE", .string "none"⟩] }

/-- No case of this enumeration is decoded from its own encoding. -/
theorem not_isCodec_shadowingUnit :
    EnumDefinition.ofSchema shadowingSchema true = .ok shadowingUnit.definition ∧
      ∃ codec, EnumCodec.read? ["ALL", "NONE"] shadowingUnit.implementationCode.tokens =
          some codec ∧
        codec.encode? "ALL" = some (.string "all") ∧ codec.decode? (.string "all") = none := by
  have hsupported : ∀ case ∈ shadowingUnit.definition.cases,
      EnumDefinition.isSupportedLiteral case.literal := by decide
  exact ⟨rfl, _, read?_implementationCode hsupported, rfl, rfl⟩

end EnumUnit

end SchemaTypes
