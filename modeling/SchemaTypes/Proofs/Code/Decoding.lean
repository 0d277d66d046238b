import SchemaTypes.Codec.Decode
import SchemaTypes.Proofs.Code.Path
import SchemaTypes.Proofs.Codec.Number
import SchemaTypes.Proofs.TypeUnit.Enumeration
import SchemaTypes.Property.Expression

/-!
# Running the code that decodes a value

An expression that decodes a JSON value is read from its tokens and run.  It calls a function of the
support package or of an enumeration, collects the decoded items of a list or the decoded members of
an object, tells `null` from other values, or copies the value as it is.  Structs and unions, which
have no constants, are not run.

* `Token.step?`: the outermost step of an expression.
* `Token.decoded?`: the value that an expression decodes.
* `ScalarKind.step?_inputMapping` and the lemmas after it: the steps of the expressions that are
  written.
-/

namespace SchemaTypes

namespace Token

/-! ## Reading a step -/

/-- What an expression does with a JSON value. -/
inductive Step
  /-- A function of the support package that decodes a scalar. -/
  | scalar (function : String)
  /-- Each item is decoded by an expression. -/
  | items (item : List Token)
  /-- The value of each member is decoded by an expression. -/
  | members (item : List Token)
  /-- A value other than `null` is decoded by an expression. -/
  | optional (inner : List Token)
  /-- The case of an enumeration is looked up. -/
  | lookUp (type : TypePath)
  | copy

/-- The expressions inside an expression. -/
def Step.parts : Step → List (List Token)
  | .items item => [item]
  | .members item => [item]
  | .optional inner => [inner]
  | .scalar _ => []
  | .lookUp _ => []
  | .copy => []

/-- The result of a closure that may fail to decode. -/
def closureResult? : List Token → Option (List Token)
  | [.punct '-' .joint, .punct '>' .alone, .ident "Result", .punct '<' .alone, .ident "_",
      .punct ',' .alone, .punct ':' .joint, .punct ':' .alone, .ident "schema2rs_support",
      .punct ':' .joint, .punct ':' .alone, .ident "ValidationError", .punct '>' .alone,
      .group .brace [.ident "Ok", .group .parenthesis result]] => some result
  | _ => none

/-- The expression that decodes the item. -/
def itemClosure? : List Token → Option (List Token)
  | .punct '|' .alone :: .ident "item" :: .punct '|' .alone :: rest => closureResult? rest
  | _ => none

/-- The expression that decodes the item, in a pair with the key. -/
def memberClosure? : List Token → Option (List Token)
  | .punct '|' .alone :: .group .parenthesis [.ident "key", .punct ',' .alone, .ident "item"] ::
      .punct '|' .alone :: rest =>
    match closureResult? rest with
    | some [.group .parenthesis (.ident "key" :: .punct '.' .alone :: .ident "clone" ::
        .group .parenthesis [] :: .punct ',' .alone :: item)] => some item
    | _ => none
  | _ => none

/-- The container that decoded items are collected into, unless one of them is a failure. -/
def collected? : List Token → Option (List String)
  | .punct '.' .alone :: .ident "collect" :: .punct ':' .joint :: .punct ':' .alone ::
      .punct '<' .alone :: .ident "Result" :: .punct '<' .alone :: container =>
    match leadingPath container with
    | (segments, [.punct '<' .alone, .ident "_", .punct '>' .alone, .punct ',' .alone, .ident "_",
        .punct '>' .joint, .punct '>' .alone, .group .parenthesis [], .punct '?' .alone]) =>
      some segments
    | _ => none
  | _ => none

/-- What is done with the parts of a list or of an object. -/
def partsStep? (function : String) : List Token → Option Step
  | .punct '.' .alone :: .ident "iter" :: .group .parenthesis [] :: .punct '.' .alone ::
      .ident "map" :: .group .parenthesis closure :: rest =>
    match function, collected? rest with
    | "array", some ["Vec"] => (itemClosure? closure).map .items
    | "object", some ["", "schema2rs_support", "Map"] => (memberClosure? closure).map .members
    | _, _ => none
  | _ => none

/-- A function that may fail to decode, and what is done with its result. -/
def callStep? (segments : List String) (rest : List Token) : Option Step :=
  match segments.reverse, rest with
  | "from_json" :: name :: modules, [] => some (.lookUp ⟨modules.reverse, name⟩)
  | [function, "decode", "schema2rs_support", ""], [] => some (.scalar function)
  | [function, "decode", "schema2rs_support", ""], rest => partsStep? function rest
  | _, _ => none

/-- The arms that tell `null` from other values. -/
def optionalStep? : List Token → Option Step
  | [.ident "raw", .ident "if", .ident "raw", .punct '.' .alone, .ident "is_null",
      .group .parenthesis [], .punct '=' .joint, .punct '>' .alone, .ident "None",
      .punct ',' .alone, .ident "raw", .punct '=' .joint, .punct '>' .alone, .ident "Some",
      .group .parenthesis inner, .punct ',' .alone] => some (.optional inner)
  | _ => none

/-- The variable that an expression decodes, and what it does with the value of the variable. -/
def step? (tokens : List Token) : Option (String × Step) :=
  match leadingPath tokens with
  | ([], [.group .parenthesis [.ident subject], .punct '.' .alone, .ident "clone",
      .group .parenthesis []]) => some (subject, .copy)
  | (["match"], [.ident subject, .group .brace arms]) => (optionalStep? arms).map (subject, ·)
  | (segments, .group .parenthesis [.ident subject] :: .punct '?' .alone :: rest) =>
    (callStep? segments rest).map (subject, ·)
  | _ => none

/-! ## Sizes -/

section

variable {tokens part : List Token} {step : Step}

theorem sizeOf_lt_of_closureResult? (hresult : closureResult? tokens = some part) :
    sizeOf part < sizeOf tokens := by
  unfold closureResult? at hresult
  split at hresult
  · obtain rfl := Option.some.inj hresult
    simp only [List.cons.sizeOf_spec, group.sizeOf_spec]
    omega
  · cases hresult

theorem sizeOf_lt_of_itemClosure? (hclosure : itemClosure? tokens = some part) :
    sizeOf part < sizeOf tokens := by
  unfold itemClosure? at hclosure
  split at hclosure
  · have hless := sizeOf_lt_of_closureResult? hclosure
    simp only [List.cons.sizeOf_spec]
    omega
  · cases hclosure

theorem sizeOf_lt_of_memberClosure? (hclosure : memberClosure? tokens = some part) :
    sizeOf part < sizeOf tokens := by
  unfold memberClosure? at hclosure
  split at hclosure
  · split at hclosure
    · rename_i hresult
      obtain rfl := Option.some.inj hclosure
      have hless := sizeOf_lt_of_closureResult? hresult
      simp only [List.cons.sizeOf_spec, group.sizeOf_spec] at hless ⊢
      omega
    · cases hclosure
  · cases hclosure

theorem sizeOf_lt_of_partsStep? {function : String} (hstep : partsStep? function tokens = some step)
    (hpart : part ∈ step.parts) : sizeOf part < sizeOf tokens := by
  unfold partsStep? at hstep
  split at hstep
  · split at hstep
    · obtain ⟨item, hitem, rfl⟩ := Option.map_eq_some_iff.mp hstep
      obtain rfl := List.mem_singleton.mp hpart
      have hless := sizeOf_lt_of_itemClosure? hitem
      simp only [List.cons.sizeOf_spec, group.sizeOf_spec]
      omega
    · obtain ⟨item, hitem, rfl⟩ := Option.map_eq_some_iff.mp hstep
      obtain rfl := List.mem_singleton.mp hpart
      have hless := sizeOf_lt_of_memberClosure? hitem
      simp only [List.cons.sizeOf_spec, group.sizeOf_spec]
      omega
    · cases hstep
  · cases hstep

theorem sizeOf_lt_of_callStep? {segments : List String}
    (hstep : callStep? segments tokens = some step) (hpart : part ∈ step.parts) :
    sizeOf part < sizeOf tokens := by
  unfold callStep? at hstep
  split at hstep
  · obtain rfl := Option.some.inj hstep
    cases hpart
  · obtain rfl := Option.some.inj hstep
    cases hpart
  · exact sizeOf_lt_of_partsStep? hstep hpart
  · cases hstep

/-- The expressions inside an expression are smaller than the expression. -/
theorem sizeOf_lt_of_step? {subject : String} (hstep : step? tokens = some (subject, step))
    (hpart : part ∈ step.parts) : sizeOf part < sizeOf tokens := by
  have hrest := sizeOf_leadingPath_le tokens
  unfold step? at hstep
  -- a variable, a match on an option, a call behind a path, or no step
  split at hstep
  · cases hstep
    cases hpart
  · rename_i hpath
    obtain ⟨own, hown, hsame⟩ := Option.map_eq_some_iff.mp hstep
    cases hsame
    unfold optionalStep? at hown
    split at hown
    · obtain rfl := Option.some.inj hown
      obtain rfl := List.mem_singleton.mp hpart
      rw [hpath] at hrest
      simp only [List.cons.sizeOf_spec, group.sizeOf_spec] at hrest
      omega
    · cases hown
  · rename_i hpath
    obtain ⟨own, hown, hsame⟩ := Option.map_eq_some_iff.mp hstep
    cases hsame
    have hless := sizeOf_lt_of_callStep? hown hpart
    rw [hpath] at hrest
    simp only [List.cons.sizeOf_spec] at hrest
    omega
  · cases hstep

end

/-! ## Running an expression -/

/-- What a function of the support package decodes. -/
def scalar? (function : String) (value : Json) : Option DefaultValue :=
  match function with
  | "boolean" => (Decode.boolean value).toOption.map .bool
  | "integer" => (Decode.integer value).toOption.map .integer
  | "number" => (Decode.number value).toOption.map NumberValue.constant
  | "string" => (Decode.string value).toOption.map .text
  | _ => none

/-- What a step decodes, where `part?` runs an expression inside it for a variable with a value. -/
def Step.run? (types : TypePath → Option EnumCodec) (value : Json) :
    (step : Step) → (∀ part ∈ step.parts, String → Json → Option DefaultValue) →
      Option DefaultValue
  | .scalar function, _ => scalar? function value
  | .items item, part? => (Decode.array value).toOption.bind fun values =>
    (values.mapM (part? item List.mem_cons_self "item")).map .list
  | .members item, part? => (Decode.object value).toOption.bind fun members =>
    (members.mapM fun member =>
      (part? item List.mem_cons_self "item" member.2).map (member.1, ·)).map .map
  | .optional inner, part? =>
    if value.isNull then some .absent
    else (part? inner List.mem_cons_self "raw" value).map .present
  | .lookUp type, _ => (types type).bind fun codec =>
    (codec.decode? value).map (.enumCase type ·)
  | .copy, _ => some (.json value)

/-- What an expression decodes, where some types are enumerations and some variables hold JSON
values. -/
def decoded? (types : TypePath → Option EnumCodec) (scope : List (String × Json))
    (tokens : List Token) : Option DefaultValue :=
  match hstep : step? tokens with
  | some (subject, step) => (scope.lookup subject).bind fun value =>
    step.run? types value fun part hpart name value =>
      have := sizeOf_lt_of_step? hstep hpart
      decoded? types ((name, value) :: scope) part
  | none => none
termination_by sizeOf tokens

/-- An expression takes its step. -/
theorem decoded?_eq {types : TypePath → Option EnumCodec} {scope : List (String × Json)}
    {tokens : List Token} {subject : String} {step : Step} {value : Json}
    (hstep : step? tokens = some (subject, step)) (hvalue : scope.lookup subject = some value) :
    decoded? types scope tokens = step.run? types value fun part _ name value =>
      decoded? types ((name, value) :: scope) part := by
  rw [decoded?]
  split
  · rename_i hother
    cases hstep.symm.trans hother
    rw [hvalue, Option.bind_some]
  · rename_i hnone
    cases hstep.symm.trans hnone

end Token

/-! ## Tokens of the expressions that are written -/

namespace Code

@[simp] theorem tokens_append (code other : Code) :
    (code ++ other).tokens = code.tokens ++ other.tokens := rfl

@[simp] theorem tokens_word (spelling : String) : (word spelling).tokens = [.ident spelling] := rfl

@[simp] theorem tokens_call (function : Code) (arguments : List Code) :
    (function.call arguments).tokens =
      function.tokens ++ [.group .parenthesis (separated arguments).tokens] := rfl

@[simp] theorem tokens_method (receiver : Code) (name : String) (arguments : List Code) :
    (receiver.method name arguments).tokens =
      receiver.tokens ++
        [.punct '.' .alone, .ident name, .group .parenthesis (separated arguments).tokens] := by
  simp [method, field, operator, operatorTokens]

@[simp] theorem tokens_attempt (result : Code) :
    result.attempt.tokens = result.tokens ++ [.punct '?' .alone] := by
  simp [attempt, operator, operatorTokens]

@[simp] theorem tokens_separated_singleton (piece : Code) :
    (separated [piece]).tokens = piece.tokens := rfl

@[simp] theorem tokens_separated_nil : (separated []).tokens = [] := rfl

/-- A function of the support package that decodes. -/
@[simp] theorem tokens_decode (function : String) :
    (support ["decode", function]).tokens =
      [.punct ':' .joint, .punct ':' .alone, .ident "schema2rs_support",
        .punct ':' .joint, .punct ':' .alone, .ident "decode",
        .punct ':' .joint, .punct ':' .alone, .ident function] := by
  simp [support, externalPath, path, supportPackage, operator, operatorTokens]

theorem tokens_decodingClosure (parameter decoded : Code) :
    (decodingClosure parameter decoded).tokens =
      .punct '|' .alone :: parameter.tokens ++
        [.punct '|' .alone, .punct '-' .joint, .punct '>' .alone, .ident "Result",
          .punct '<' .alone, .ident "_", .punct ',' .alone, .punct ':' .joint, .punct ':' .alone,
          .ident "schema2rs_support", .punct ':' .joint, .punct ':' .alone,
          .ident "ValidationError", .punct '>' .alone,
          .group .brace [.ident "Ok", .group .parenthesis decoded.tokens]] := by
  simp [decodingClosure, decodingResult, validationError, applied, separated, support,
    externalPath, path, supportPackage, comma, braces, ok, operator, operatorTokens]

theorem tokens_collectInto (items container : Code) :
    (items.collectInto container).tokens =
      items.tokens ++ .punct '.' .alone :: .ident "collect" :: .punct ':' .joint ::
        .punct ':' .alone :: .punct '<' .alone :: .ident "Result" :: .punct '<' .alone ::
        container.tokens ++
          [.punct '<' .alone, .ident "_", .punct '>' .alone, .punct ',' .alone, .ident "_",
            .punct '>' .joint, .punct '>' .alone, .group .parenthesis [], .punct '?' .alone] := by
  simp [collectInto, applied, field, comma, parens, empty, operator, operatorTokens]

end Code

/-! ## Steps of the expressions that are written -/

theorem ScalarKind.step?_inputMapping (kind : ScalarKind) (name : String) :
    Token.step? (kind.inputMapping (.word name)).tokens = some (name, .scalar kind.decoder) := by
  rw [inputMapping, Code.tokens_attempt, Code.tokens_call, Code.tokens_decode]
  cases kind <;> rfl

namespace Container

theorem step?_inputMapping_list (mapping : Code) (name : String) :
    Token.step? (inputMapping .list mapping (.word name)).tokens =
      some (name, .items mapping.tokens) := by
  simp only [inputMapping, Code.tokens_collectInto, Code.tokens_decodingClosure, Code.tokens_method,
    Code.tokens_attempt, Code.tokens_call, Code.tokens_decode, Code.tokens_word,
    Code.tokens_separated_singleton, Code.tokens_separated_nil]
  rfl

theorem step?_inputMapping_map (mapping : Code) (name : String) :
    Token.step? (inputMapping .map mapping (.word name)).tokens =
      some (name, .members mapping.tokens) := by
  have hpair : (Code.parens (.separated [.clonedKey, mapping])).tokens =
      [.group .parenthesis (.ident "key" :: .punct '.' .alone :: .ident "clone" ::
        .group .parenthesis [] :: .punct ',' .alone :: mapping.tokens)] := rfl
  have hparameter : Code.keyAndItem.tokens =
      [.group .parenthesis [.ident "key", .punct ',' .alone, .ident "item"]] := rfl
  have hcontainer : (Code.support ["Map"]).tokens =
      [.punct ':' .joint, .punct ':' .alone, .ident "schema2rs_support",
        .punct ':' .joint, .punct ':' .alone, .ident "Map"] := rfl
  simp only [inputMapping, Code.tokens_collectInto, Code.tokens_decodingClosure, Code.tokens_method,
    Code.tokens_attempt, Code.tokens_call, Code.tokens_decode, Code.tokens_word,
    Code.tokens_separated_singleton, Code.tokens_separated_nil, hpair, hparameter, hcontainer]
  rfl

end Container

namespace Property

theorem step?_inputMapping_nullable [Spelling] (inner : Property) (name : String) :
    Token.step? ((nullable inner).inputMapping (.word name)).tokens =
      some (name, .optional (inner.inputMapping (.word "raw")).tokens) := rfl

theorem step?_inputMapping_mixed [Spelling] (name : String) :
    Token.step? (mixed.inputMapping (.word name)).tokens = some (name, .copy) := rfl

end Property

namespace ReferencedType

theorem step?_inputMapping_unknown (pointer name : String) :
    Token.step? ((unknown pointer).inputMapping (.word name)).tokens = some (name, .copy) := rfl

theorem step?_inputMapping_enumeration (path : TypePath) (definition : EnumDefinition)
    (name : String) :
    Token.step? ((enumeration path definition).inputMapping (.word name)).tokens =
      some (name, .lookUp path) := by
  have hpath : Token.leadingPath
      ((enumeration path definition).inputMapping (.word name)).tokens =
      (path.modules ++ [path.name] ++ ["from_json"],
        [.group .parenthesis [.ident name], .punct '?' .alone]) := by
    have hmember : Token.leadingPath (((Code.ofTypePath path).member "from_json").tokens ++
        [.group .parenthesis [.ident name], .punct '?' .alone]) = _ :=
      Code.leadingPath_member path "from_json" trivial
    rw [← hmember, inputMapping, Code.tokens_attempt, Code.tokens_call, List.append_assoc]
    rfl
  have hcall : Token.callStep? (path.modules ++ [path.name] ++ ["from_json"]) [] =
      some (.lookUp path) := by
    have hreverse : (path.modules ++ [path.name] ++ ["from_json"]).reverse =
        "from_json" :: path.name :: path.modules.reverse := by simp
    rw [Token.callStep?.eq_def, hreverse]
    change some (Token.Step.lookUp ⟨path.modules.reverse.reverse, path.name⟩) = _
    rw [List.reverse_reverse]
  rw [Token.step?, hpath]
  split
  · simp_all
  · simp_all
  · simp_all
  · rename_i hother
    exact absurd rfl (hother _ _ _)

end ReferencedType

end SchemaTypes
