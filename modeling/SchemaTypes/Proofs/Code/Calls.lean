import Mathlib.Tactic
import SchemaTypes.Code.Basic

/-!
# Calls in generated code

Generated types decode each other's values by calling associated functions of a few names.  This
file reads such calls off the tokens of a piece of code.  Reading goes from token to token and
remembers the path at which it stands.

* `Token.calls`: all calls of associated functions in a list of tokens.
* `Code.decodings`: the calls by which values of generated types are decoded and tested.
* `Code.Reads`: the decodings of a piece of code, whatever stands around it.
-/

namespace SchemaTypes

/-- A call of an associated function. -/
structure Call where
  type : TypePath
  function : String
deriving DecidableEq

/-- The call of a function after some segments of a path. -/
def Call.ofSegments (segments : List String) (function : String) : Call :=
  ⟨⟨segments.dropLast, segments.getLastD ""⟩, function⟩

@[simp] theorem Call.ofSegments_ofTypePath (path : TypePath) (function : String) :
    Call.ofSegments (path.modules ++ [path.name]) function = ⟨path, function⟩ := by
  simp [ofSegments]

/-! ## Reading tokens -/

/-- Where reading stands in a path. -/
inductive PathReading
  | apart
  /-- After a name; double colons separate the segments before it. -/
  | named (before : List String) (name : String)
  /-- After some segments and one colon. -/
  | halfway (segments : List String)
  /-- After some segments and double colons. -/
  | within (segments : List String)

namespace PathReading

/-- Where reading stands after one more token. -/
def next : PathReading → Token → PathReading
  | .within segments, .ident name => .named segments name
  | _, .ident name => .named [] name
  | .named before name, .punct ':' .joint => .halfway (before ++ [name])
  | .halfway segments, .punct ':' .alone => .within segments
  | _, _ => .apart

/-- A function is called where parentheses follow its name. -/
def called : PathReading → Token → List Call
  | .named (segment :: before) name, .group .parenthesis _ =>
    [.ofSegments (segment :: before) name]
  | _, _ => []

/-- No double colons stand right before. -/
def Idle : PathReading → Prop
  | .apart => True
  | .named [] _ => True
  | _ => False

theorem idle_apart : PathReading.apart.Idle := trivial

theorem idle_named (name : String) : (PathReading.named [] name).Idle := trivial

end PathReading

namespace Token

mutual

/-- The calls inside brackets. -/
def callsIn : Token → List Call
  | .group _ body => calls .apart body
  | _ => []

/-- The calls of associated functions, from left to right. -/
def calls (reading : PathReading) : List Token → List Call
  | [] => []
  | token :: rest => reading.called token ++ callsIn token ++ calls (reading.next token) rest

end

/-- A rest that does not go on with the path or the call before it. -/
def Apart : List Token → Prop
  | .punct ':' .joint :: _ => False
  | .group .parenthesis _ :: _ => False
  | _ => True

end Token

open Token

/-- Names of the functions by which values of generated types are decoded and tested. -/
def decoders : List String :=
  ["build_from_input", "validate_input", "from_json", "try_from_json", "matches_input",
    "build_from_entry"]

/-- The decodings in a list of tokens. -/
def decodings (reading : PathReading) (tokens : List Token) : List Call :=
  (calls reading tokens).filter fun call => decoders.contains call.function

/-- The calls of decoders in a piece of code. -/
def Code.decodings (code : Code) : List Call := SchemaTypes.decodings .apart code.tokens

/-- A piece of code is read as some decodings, whatever stands around it. -/
def Code.Reads (code : Code) (found : List Call) : Prop :=
  ∀ reading rest, reading.Idle → Apart rest →
    SchemaTypes.decodings reading (code.tokens ++ rest) =
      found ++ SchemaTypes.decodings .apart rest

namespace PathReading

@[simp] theorem called_ident (reading : PathReading) (name : String) :
    reading.called (.ident name) = [] := by
  cases reading with
  | named before => cases before <;> rfl
  | apart | halfway | within => rfl

@[simp] theorem called_punct (reading : PathReading) (char : Char) (spacing : Spacing) :
    reading.called (.punct char spacing) = [] := by
  cases reading with
  | named before => cases before <;> rfl
  | apart | halfway | within => rfl

@[simp] theorem called_literal (reading : PathReading) (spelling : String) :
    reading.called (.literal spelling) = [] := by
  cases reading with
  | named before => cases before <;> rfl
  | apart | halfway | within => rfl

theorem Idle.called {reading : PathReading} (hreading : reading.Idle) (token : Token) :
    reading.called token = [] := by
  cases reading with
  | named before =>
      cases before with
      | nil => rfl
      | cons => cases hreading
  | apart | halfway | within => rfl

end PathReading

@[simp] theorem decodings_nil (reading : PathReading) : decodings reading [] = [] := rfl

theorem decodings_cons (reading : PathReading) (token : Token) (rest : List Token) :
    decodings reading (token :: rest) =
      ((reading.called token ++ callsIn token).filter fun call =>
        decoders.contains call.function) ++ decodings (reading.next token) rest := by
  exact List.filter_append ..

@[simp] theorem decodings_ident_within (segments : List String) (name : String)
    (rest : List Token) :
    decodings (.within segments) (.ident name :: rest) = decodings (.named segments name) rest :=
  rfl

@[simp] theorem decodings_colons (before : List String) (name : String) (rest : List Token) :
    decodings (.named before name) (.punct ':' .joint :: .punct ':' .alone :: rest) =
      decodings (.within (before ++ [name])) rest := by
  rw [decodings_cons, PathReading.called_punct]
  rfl

@[simp] theorem decodings_literal (reading : PathReading) (spelling : String) (rest : List Token) :
    decodings reading (.literal spelling :: rest) = decodings .apart rest := by
  have hnext : reading.next (.literal spelling) = .apart := by cases reading <;> rfl
  rw [decodings_cons, PathReading.called_literal, hnext]
  rfl

theorem decodings_ident {reading : PathReading} (hreading : reading.Idle) (name : String)
    (rest : List Token) :
    decodings reading (.ident name :: rest) = decodings (.named [] name) rest := by
  have hnext : reading.next (.ident name) = .named [] name := by
    cases reading with
    | within segments => cases hreading
    | apart | named | halfway => rfl
  rw [decodings_cons, PathReading.called_ident, hnext]
  rfl

theorem decodings_group {reading : PathReading} (hreading : reading.Idle) (delimiter : Delimiter)
    (body rest : List Token) :
    decodings reading (.group delimiter body :: rest) =
      decodings .apart body ++ decodings .apart rest := by
  have hnext : reading.next (.group delimiter body) = .apart := by cases reading <;> rfl
  rw [decodings_cons, hreading.called, hnext]
  rfl

/-- A name that is not gone on with is forgotten. -/
theorem decodings_named (before : List String) (name : String) {rest : List Token}
    (hrest : Apart rest) : decodings (.named before name) rest = decodings .apart rest := by
  cases rest with
  | nil => rfl
  | cons token rest =>
      have hnext : (PathReading.named before name).next token = PathReading.apart.next token := by
        cases token with
        | ident | literal | group => rfl
        | punct char spacing =>
            rw [PathReading.next.eq_def, PathReading.next.eq_def]
            split
            case h_3 hcolon =>
                rw [hcolon] at hrest
                exact False.elim hrest
            case h_5 => rfl
            all_goals contradiction
      have hcalled : (PathReading.named before name).called token = [] := by
        cases token with
        | ident | literal | punct => simp
        | group delimiter body =>
            -- only parentheses make a call of a name
            cases delimiter with
            | parenthesis => exact False.elim hrest
            | bracket | brace => cases before <;> rfl
      rw [decodings_cons, decodings_cons, hnext, hcalled, PathReading.idle_apart.called]

/-- An idle reading forgets what it has read. -/
theorem decodings_idle {reading : PathReading} (hreading : reading.Idle) {tokens : List Token}
    (htokens : Apart tokens) : decodings reading tokens = decodings .apart tokens := by
  cases reading with
  | apart => rfl
  | named before name => exact decodings_named before name htokens
  | halfway | within => cases hreading

/-- A call of another function. -/
theorem decodings_other {function : String} (hfunction : function ∉ decoders)
    (before : List String) (body rest : List Token) :
    decodings (.named before function) (.group .parenthesis body :: rest) =
      decodings .apart body ++ decodings .apart rest := by
  cases before with
  | nil => exact decodings_group (PathReading.idle_named _) _ body rest
  | cons segment before =>
      have hcalled : (PathReading.named (segment :: before) function).called
          (.group .parenthesis body) = [.ofSegments (segment :: before) function] := rfl
      rw [decodings_cons, hcalled, List.singleton_append, List.filter_cons_of_neg]
      · rfl
      · exact fun hcontains => hfunction (List.contains_iff_mem.mp hcontains)

/-- A call of one of the functions. -/
theorem decodings_call {function : String} (hfunction : function ∈ decoders) (path : TypePath)
    (body rest : List Token) :
    decodings (.named (path.modules ++ [path.name]) function)
        (.group .parenthesis body :: rest) =
      ⟨path, function⟩ :: (decodings .apart body ++ decodings .apart rest) := by
  obtain ⟨segment, before, hbefore⟩ : ∃ segment before,
      path.modules ++ [path.name] = segment :: before :=
    List.exists_cons_of_ne_nil (by simp)
  have hcalled : (PathReading.named (path.modules ++ [path.name]) function).called
      (.group .parenthesis body) = [⟨path, function⟩] := by
    rw [← Call.ofSegments_ofTypePath path function, hbefore]
    rfl
  rw [decodings_cons, hcalled, List.singleton_append, List.filter_cons_of_pos]
  · rfl
  · exact List.contains_iff_mem.mpr hfunction

/-! ## Paths -/

theorem decodings_path_within (before segments : List String) (last : String)
    (rest : List Token) :
    decodings (.within before) ((Code.path (segments ++ [last])).tokens ++ rest) =
      decodings (.named (before ++ segments) last) rest := by
  induction segments generalizing before with
  | nil => simp [Code.path, Code.word]
  | cons segment segments ih =>
      have hpath : (Code.path (segment :: segments ++ [last])).tokens =
          .ident segment :: .punct ':' .joint :: .punct ':' .alone ::
            (Code.path (segments ++ [last])).tokens := by
        cases segments <;> rfl
      rw [hpath, List.cons_append, List.cons_append, List.cons_append, decodings_ident_within,
        decodings_colons, ih, List.append_assoc, List.singleton_append]

theorem decodings_path {reading : PathReading} (hreading : reading.Idle) (segments : List String)
    (last : String) (rest : List Token) :
    decodings reading ((Code.path (segments ++ [last])).tokens ++ rest) =
      decodings (.named segments last) rest := by
  -- an idle reading starts a path as one without segments does
  have hidle : ∀ name later, decodings reading (.ident name :: later) =
      decodings (.within []) (.ident name :: later) := by
    intro name later
    rw [decodings_ident hreading, decodings_ident_within]
  rw [← List.nil_append segments, ← decodings_path_within]
  cases segments with
  | nil => exact hidle _ _
  | cons segment segments => cases segments <;> exact hidle _ _

theorem decodings_externalPath {reading : PathReading} (hreading : reading.Idle)
    (segments : List String) (last : String) :
    ∃ before, ∀ rest, decodings reading ((Code.externalPath (segments ++ [last])).tokens ++ rest) =
      decodings (.named before last) rest := by
  have hcolons : ∀ rest,
      decodings reading ((Code.externalPath (segments ++ [last])).tokens ++ rest) =
        decodings reading (.punct ':' .joint :: .punct ':' .alone ::
        ((Code.path (segments ++ [last])).tokens ++ rest)) := fun _ => rfl
  cases reading with
  | apart =>
      refine ⟨segments, fun rest => (hcolons rest).trans ?_⟩
      rw [decodings_cons, decodings_cons]
      exact decodings_path PathReading.idle_apart segments last rest
  | named before name =>
      -- a keyword before the path is taken for its first segment
      refine ⟨before ++ [name] ++ segments, fun rest => (hcolons rest).trans ?_⟩
      rw [decodings_colons, decodings_path_within]
  | halfway | within => cases hreading

/-! ## Pieces of code -/

/-- An operator with which no path goes on. -/
def Separates (op : String) : Prop := ∀ rest, Apart ((Code.operator op).tokens ++ rest)

theorem decodings_operatorTokens (chars : List Char) (rest : List Token) :
    decodings .apart (Code.operatorTokens chars ++ rest) = decodings .apart rest := by
  fun_induction Code.operatorTokens chars with
  | case1 => rfl
  | case2 c => rfl
  | case3 c rest' hrest ih => exact ih

theorem decodings_operator {reading : PathReading} (hreading : reading.Idle) {op : String}
    (hop : Separates op) (rest : List Token) :
    decodings reading ((Code.operator op).tokens ++ rest) = decodings .apart rest := by
  -- only the start of an operator could go on with what stands before it
  rw [decodings_idle hreading (hop rest)]
  exact decodings_operatorTokens op.toList rest

namespace Code

variable {a b code : Code} {found more : List Call}

theorem Reads.decodings_eq (hcode : code.Reads found) : code.decodings = found := by
  simpa [Code.decodings] using hcode .apart [] PathReading.idle_apart trivial

theorem reads_empty : empty.Reads [] := fun _ _ hreading hrest => decodings_idle hreading hrest

theorem reads_word (spelling : String) : (word spelling).Reads [] := by
  intro reading rest hreading hrest
  exact (decodings_ident hreading spelling rest).trans (decodings_named [] spelling hrest)

/-- A word in front, such as a keyword, changes nothing. -/
theorem Reads.after_word (hcode : code.Reads found) (spelling : String) :
    (word spelling ++ code).Reads found := by
  intro reading rest hreading hrest
  exact (decodings_ident hreading spelling _).trans
    (hcode _ rest (PathReading.idle_named spelling) hrest)

theorem reads_literal (spelling : String) : (literal spelling).Reads [] :=
  fun reading rest _ _ => decodings_literal reading spelling rest

theorem reads_string (text : String) : (string text).Reads [] :=
  fun reading rest _ _ => decodings_literal reading _ rest

theorem reads_operator {op : String} (hop : Separates op) : (operator op).Reads [] :=
  fun _ rest hreading _ => decodings_operator hreading hop rest

theorem Reads.leading (hcode : code.Reads found) (op : String) (hop : Separates op) :
    (operator op ++ code).Reads found := by
  intro reading rest hreading hrest
  refine (congrArg _ (List.append_assoc _ _ _)).trans ?_
  rw [decodings_operator hreading hop]
  exact hcode .apart rest PathReading.idle_apart hrest

/-- A piece that starts apart ends the one before it. -/
theorem Reads.append (ha : a.Reads found) (hb : b.Reads more)
    (hstarts : ∀ rest, Apart (b.tokens ++ rest)) : (a ++ b).Reads (found ++ more) := by
  intro reading rest hreading hrest
  refine (congrArg _ (List.append_assoc _ _ _)).trans ?_
  rw [ha reading _ hreading (hstarts rest), hb .apart rest PathReading.idle_apart hrest,
    List.append_assoc]

theorem Reads.trailing (hcode : code.Reads found) (op : String) (hop : Separates op) :
    (code ++ operator op).Reads found := by
  simpa using hcode.append (reads_operator hop) hop

theorem Reads.joined (ha : a.Reads found) (op : String) (hb : b.Reads more)
    (hop : Separates op) : (a ++ operator op ++ b).Reads (found ++ more) := by
  have hassoc : a ++ operator op ++ b = a ++ (operator op ++ b) :=
    congrArg Code.mk (List.append_assoc _ _ _)
  rw [hassoc]
  refine ha.append (hb.leading op hop) fun rest => ?_
  have hstart := hop (b.tokens ++ rest)
  rwa [← List.append_assoc] at hstart

/-- Two pieces with a word between them, such as a pattern and its guard. -/
theorem Reads.spaced (ha : a.Reads found) (spelling : String) (hb : b.Reads more) :
    (a ++ word spelling ++ b).Reads (found ++ more) := by
  have hassoc : a ++ word spelling ++ b = a ++ (word spelling ++ b) :=
    congrArg Code.mk (List.append_assoc _ _ _)
  rw [hassoc]
  exact ha.append (hb.after_word spelling) fun _ => trivial

/-! ### Brackets -/

theorem Reads.group (hcode : code.Reads found) (delimiter : Delimiter) :
    Reads ⟨[.group delimiter code.tokens]⟩ found := by
  intro reading rest hreading _
  refine (decodings_group hreading delimiter _ rest).trans ?_
  rw [← hcode.decodings_eq]
  rfl

theorem Reads.parens (hcode : code.Reads found) : (parens code).Reads found := hcode.group _

theorem Reads.brackets (hcode : code.Reads found) : (brackets code).Reads found := hcode.group _

theorem Reads.braces (hcode : code.Reads found) : (braces code).Reads found := hcode.group _

theorem Reads.before_braces (ha : a.Reads found) (hb : b.Reads more) :
    (a ++ Code.braces b).Reads (found ++ more) :=
  ha.append hb.braces fun _ => trivial

/-! ### Calls -/

theorem Reads.wordCall {arguments : List Code} (hcode : (separated arguments).Reads found)
    (spelling : String) : ((word spelling).call arguments).Reads found := by
  intro reading rest hreading hrest
  exact (decodings_ident hreading spelling _).trans
    (hcode.parens _ rest (PathReading.idle_named spelling) hrest)

theorem decodings_member {reading : PathReading} (hreading : reading.Idle) (path : TypePath)
    (name : String) (rest : List Token) :
    SchemaTypes.decodings reading (((ofTypePath path).member name).tokens ++ rest) =
      SchemaTypes.decodings (.named (path.modules ++ [path.name]) name) rest := by
  have htokens : ((ofTypePath path).member name).tokens ++ rest =
      (Code.path (path.modules ++ [path.name])).tokens ++
        (.punct ':' .joint :: .punct ':' .alone :: .ident name :: rest) :=
    (List.append_assoc _ _ _).trans (List.append_assoc _ _ _)
  rw [htokens, decodings_path hreading, decodings_colons, decodings_ident_within]

/-- An item of a type that is not called. -/
theorem reads_member (path : TypePath) (name : String) :
    ((ofTypePath path).member name).Reads [] := by
  intro reading rest hreading hrest
  rw [decodings_member hreading, decodings_named _ _ hrest, List.nil_append]

/-- A function of a type, of one of the names. -/
theorem Reads.memberCall {function : String} {arguments : List Code}
    (hcode : (separated arguments).Reads found) (hfunction : function ∈ decoders)
    (path : TypePath) :
    (((ofTypePath path).member function).call arguments).Reads (⟨path, function⟩ :: found) := by
  intro reading rest hreading hrest
  refine (congrArg _ (List.append_assoc _ _ _)).trans ?_
  refine (decodings_member hreading path function _).trans ?_
  refine (decodings_call hfunction path _ rest).trans ?_
  rw [List.cons_append, ← hcode.decodings_eq]
  rfl

theorem reads_path (segments : List String) (last : String) :
    (Code.path (segments ++ [last])).Reads [] := by
  intro reading rest hreading hrest
  rw [decodings_path hreading, decodings_named _ _ hrest, List.nil_append]

/-- A function at a path, not of one of the names. -/
theorem Reads.pathCall {arguments : List Code} (hcode : (separated arguments).Reads found)
    (segments : List String) {last : String} (hlast : last ∉ decoders) :
    ((Code.path (segments ++ [last])).call arguments).Reads found := by
  intro reading rest hreading hrest
  refine (congrArg _ (List.append_assoc _ _ _)).trans ?_
  refine (decodings_path hreading segments last _).trans ((decodings_other hlast _ _ rest).trans ?_)
  rw [← hcode.decodings_eq]
  rfl

theorem reads_externalPath (segments : List String) (last : String) :
    (externalPath (segments ++ [last])).Reads [] := by
  intro reading rest hreading hrest
  obtain ⟨before, hbefore⟩ := decodings_externalPath hreading segments last
  rw [hbefore, decodings_named _ _ hrest, List.nil_append]

/-- A function of another package, not of one of the names. -/
theorem Reads.externalCall {arguments : List Code} (hcode : (separated arguments).Reads found)
    (segments : List String) {last : String} (hlast : last ∉ decoders) :
    ((externalPath (segments ++ [last])).call arguments).Reads found := by
  intro reading rest hreading hrest
  obtain ⟨before, hbefore⟩ := decodings_externalPath hreading segments last
  refine (congrArg _ (List.append_assoc _ _ _)).trans ?_
  refine (hbefore _).trans ((decodings_other hlast before _ rest).trans ?_)
  rw [← hcode.decodings_eq]
  rfl

theorem Reads.field (hcode : code.Reads found) (name : String) : (code.field name).Reads found := by
  have hfield : (code.field name).Reads (found ++ []) :=
    hcode.joined "." (reads_word name) fun _ => trivial
  rwa [List.append_nil] at hfield

theorem Reads.method {receiver : Code} {arguments : List Code} (hreceiver : receiver.Reads found)
    (hcode : (separated arguments).Reads more) (name : String) :
    (receiver.method name arguments).Reads (found ++ more) := by
  have hassoc : receiver.method name arguments =
      receiver ++ operator "." ++ (word name).call arguments :=
    congrArg Code.mk (List.append_assoc _ _ _)
  rw [hassoc]
  exact hreceiver.joined "." (hcode.wordCall name) fun _ => trivial

theorem Reads.method_nil (hcode : code.Reads found) (name : String) :
    (code.method name []).Reads found := by
  have hmethod := @Reads.method found [] code [] hcode reads_empty name
  rwa [List.append_nil] at hmethod

theorem Reads.method_singleton (ha : a.Reads found) (hb : b.Reads more) (name : String) :
    (a.method name [b]).Reads (found ++ more) :=
  @Reads.method _ _ a [b] ha hb name

theorem Reads.attempt (hcode : code.Reads found) : code.attempt.Reads found :=
  hcode.trailing "?" fun _ => trivial

theorem Reads.some (hcode : code.Reads found) : (Code.some code).Reads found :=
  @Reads.wordCall found [code] hcode "Some"

theorem Reads.ok (hcode : code.Reads found) : code.ok.Reads found :=
  @Reads.wordCall found [code] hcode "Ok"

theorem Reads.borrow (hcode : code.Reads found) : code.borrow.Reads found :=
  hcode.leading "&" fun _ => trivial

/-! ### Sequences -/

theorem Reads.comma (ha : a.Reads found) (hb : b.Reads more) :
    (separated [a, b]).Reads (found ++ more) :=
  ha.joined "," hb fun _ => trivial

theorem reads_separated {pieces : List Code} (hpieces : ∀ piece ∈ pieces, piece.Reads []) :
    (separated pieces).Reads [] := by
  fun_induction separated pieces with
  | case1 => exact reads_empty
  | case2 piece => exact hpieces piece List.mem_cons_self
  | case3 piece rest hrest ih =>
      have hlater := ih fun own hown => hpieces own (List.mem_cons_of_mem _ hown)
      exact (hpieces piece List.mem_cons_self).joined "," hlater fun _ => trivial

theorem reads_terminated_nil : (terminated []).Reads [] := reads_empty

theorem Reads.terminated_cons {pieces : List Code} (hcode : code.Reads found)
    (hpieces : (terminated pieces).Reads more) :
    (terminated (code :: pieces)).Reads (found ++ more) :=
  hcode.joined "," hpieces fun _ => trivial

/-- The body of a closure, after parameters without calls. -/
theorem Reads.closure {parameters : List Code} (hparameters : (separated parameters).Reads [])
    (hcode : code.Reads found) : (Code.closure parameters code).Reads found := by
  have hassoc : Code.closure parameters code =
      operator "|" ++ (separated parameters ++ operator "|" ++ code) := by
    refine congrArg Code.mk ?_
    refine (List.append_assoc _ _ _).trans ((List.append_assoc _ _ _).trans ?_)
    exact congrArg _ (List.append_assoc _ _ _).symm
  rw [hassoc]
  exact (hparameters.joined "|" hcode fun _ => trivial).leading "|" fun _ => trivial

theorem Reads.arm (ha : a.Reads found) (hb : b.Reads more) : (Code.arm a b).Reads (found ++ more) :=
  ha.joined "=>" hb fun _ => trivial

theorem Reads.matchOn {arms : List Code} (hcode : code.Reads found)
    (harms : (terminated arms).Reads more) : (Code.matchOn code arms).Reads (found ++ more) :=
  (hcode.after_word "match").before_braces harms

end Code

end SchemaTypes
