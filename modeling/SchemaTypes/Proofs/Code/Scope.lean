import SchemaTypes.Proofs.Name.Shadowing
import SchemaTypes.TypeUnit.Source

/-!
# Names that generated code looks up

A path is looked up by its first segment.  This file reads the first segments off the tokens of a
piece of code, and tells which of them code that is put together from others looks up: no more than
its pieces, whatever way they are put together.

* `Token.openNames`: the identifiers in a list of tokens that do not come right after double colons.
* `Code.Known`: names that may be looked up.
* `Code.Scoped`: pieces of code that look up nothing else.
* `Code.Scoped.append`: two pieces together look up what each of them does.
-/

namespace SchemaTypes

/-! ## Reading tokens -/

/-- The colons that stand right before a token. -/
inductive Colons
  | none
  | single
  | double

/-- The colons that stand right before the token after this one. -/
def Colons.next : Colons → Token → Colons
  | _, .punct ':' .joint => .single
  | .single, .punct ':' .alone => .double
  | _, _ => .none

namespace Token

mutual

/-- The identifiers of one token that are not qualified. -/
def openNamesIn : Colons → Token → List String
  | .double, .ident _ => []
  | _, .ident name => [name]
  | _, .group _ body => openNames .none body
  | _, _ => []

/-- The identifiers that are not qualified, from left to right. -/
def openNames (colons : Colons) : List Token → List String
  | [] => []
  | token :: rest => openNamesIn colons token ++ openNames (colons.next token) rest

end

variable {colons : Colons}

theorem openNamesIn_subset (token : Token) :
    openNamesIn colons token ⊆ openNamesIn .none token := by
  cases token with
  | ident name => cases colons <;> simp [openNamesIn]
  | punct | literal | group => cases colons <;> exact List.Subset.refl _

theorem next_eq (token : Token) : colons.next token = Colons.none.next token ∨
    Colons.none.next token = .none := by
  unfold Colons.next
  split <;> simp

/-- Without colons before them, tokens look up the most. -/
theorem openNames_subset (tokens : List Token) :
    openNames colons tokens ⊆ openNames .none tokens := by
  induction tokens generalizing colons with
  | nil => exact List.Subset.refl _
  | cons token rest ih =>
      refine List.append_subset.mpr ⟨?_, ?_⟩
      · exact List.Subset.trans (openNamesIn_subset token) (List.subset_append_left _ _)
      · refine List.Subset.trans ?_ (List.subset_append_right _ _)
        rcases next_eq token with hsame | hnone
        · rw [hsame]
          exact List.Subset.refl _
        · rw [hnone]
          exact ih

theorem openNames_append_subset (a b : List Token) :
    openNames colons (a ++ b) ⊆ openNames colons a ++ openNames .none b := by
  induction a generalizing colons with
  | nil => exact openNames_subset b
  | cons token rest ih =>
      rw [List.cons_append, openNames, openNames, List.append_assoc]
      exact List.append_subset.mpr ⟨List.subset_append_left _ _,
        List.Subset.trans ih (List.subset_append_right _ _)⟩

theorem openNamesIn_punct (char : Char) (spacing : Spacing) :
    openNamesIn colons (.punct char spacing) = [] := by
  cases colons <;> rfl

/-- An operator is no identifier. -/
theorem openNames_operatorTokens : (chars : List Char) → {colons : Colons} →
    openNames colons (Code.operatorTokens chars) = []
  | [], _ => rfl
  | [c], _ => by rw [Code.operatorTokens, openNames, openNamesIn_punct, openNames, List.append_nil]
  | c :: second :: rest, colons => by
      have htokens : Code.operatorTokens (c :: second :: rest) =
          .punct c .joint :: Code.operatorTokens (second :: rest) := rfl
      rw [htokens, openNames, openNamesIn_punct, List.nil_append,
        openNames_operatorTokens (second :: rest)]

/-- After double colons, a path is qualified. -/
theorem openNames_double_path (segments : List String) :
    openNames .double (Code.path segments).tokens = [] := by
  induction segments with
  | nil => rfl
  | cons first rest ih =>
      cases rest with
      | nil => rfl
      | cons second rest => exact ih

end Token

/-- The first segment of the path of a type. -/
def TypePath.head (path : TypePath) : String := path.modules.headD path.name

/-! ## Names that may be looked up -/

namespace Code

/-- Values and derived traits of the standard library.  They are looked up among values and macros,
where a type shadows nothing. -/
def otherNames : List String := ["Some", "None", "Ok", "Debug", "Copy", "PartialEq", "Eq", "Hash"]

/-- Names that mean the same in all generated code: those that start with no capital, such as
keywords, variables and methods, and some of the standard library. -/
def isCommon (name : String) : Bool :=
  !Name.nextIs Char.isUpper name.toList || Name.reliedNames.contains name ||
    otherNames.contains name

/-- A name that may be looked up where some names are the code's own. -/
inductive Known (own : String → Prop) (name : String) : Prop
  | small (hsmall : Name.nextIs Char.isUpper name.toList = false)
  | relied (hrelied : name ∈ Name.reliedNames)
  | other (hother : name ∈ otherNames)
  | own (hown : own name)

theorem known_common {own : String → Prop} (name : String)
    (hcommon : isCommon name = true) : Known own name := by
  rw [isCommon, Bool.or_eq_true_iff, Bool.or_eq_true_iff, Bool.not_eq_true',
    List.contains_iff_mem, List.contains_iff_mem] at hcommon
  rcases hcommon with (hsmall | hrelied) | hother
  · exact .small hsmall
  · exact .relied hrelied
  · exact .other hother

/-- The names that a piece of code looks up. -/
def openNames (code : Code) : List String := Token.openNames .none code.tokens

/-- A piece of code looks up known names only. -/
def Scoped (own : String → Prop) (code : Code) : Prop := ∀ name ∈ code.openNames, Known own name

variable {own : String → Prop} {a b code : Code} {name : String}

/-! ## Pieces of code -/

theorem scoped_of_openNames_eq_nil (hcode : code.openNames = []) : code.Scoped own := by
  intro name hname
  rw [hcode] at hname
  cases hname

theorem Scoped.append (ha : a.Scoped own) (hb : b.Scoped own) : (a ++ b).Scoped own := by
  intro name hname
  rcases List.mem_append.mp (Token.openNames_append_subset a.tokens b.tokens hname) with
    hfirst | hsecond
  · exact ha name hfirst
  · exact hb name hsecond

theorem scoped_empty : empty.Scoped own := scoped_of_openNames_eq_nil rfl

theorem scoped_name (hname : Known own name) : (word name).Scoped own :=
  List.forall_mem_singleton.mpr hname

theorem scoped_word (spelling : String) (hcommon : isCommon spelling = true) :
    (word spelling).Scoped own :=
  scoped_name (known_common spelling hcommon)

theorem scoped_operator (op : String) : (operator op).Scoped own :=
  scoped_of_openNames_eq_nil (Token.openNames_operatorTokens op.toList)

theorem scoped_literal (spelling : String) : (literal spelling).Scoped own :=
  scoped_of_openNames_eq_nil rfl

theorem scoped_string (text : String) : (string text).Scoped own := scoped_of_openNames_eq_nil rfl

/-! ### Brackets and sequences -/

theorem Scoped.group (hcode : code.Scoped own) (delimiter : Delimiter) :
    Scoped own ⟨[.group delimiter code.tokens]⟩ := by
  intro name hname
  have hbody : name ∈ Token.openNames .none code.tokens ++ [] := hname
  rw [List.append_nil] at hbody
  exact hcode name hbody

theorem Scoped.parens (hcode : code.Scoped own) : (parens code).Scoped own := hcode.group _

theorem Scoped.brackets (hcode : code.Scoped own) : (brackets code).Scoped own := hcode.group _

theorem Scoped.braces (hcode : code.Scoped own) : (braces code).Scoped own := hcode.group _

variable {pieces arguments : List Code}

theorem Scoped.pair (ha : a.Scoped own) (hb : b.Scoped own) : ∀ piece ∈ [a, b], piece.Scoped own :=
  List.forall_mem_cons.mpr ⟨ha, List.forall_mem_singleton.mpr hb⟩

theorem scoped_concat (hpieces : ∀ piece ∈ pieces, piece.Scoped own) :
    (concat pieces).Scoped own := by
  induction pieces with
  | nil => exact scoped_empty
  | cons first rest ih =>
      rw [List.forall_mem_cons] at hpieces
      exact hpieces.1.append (ih hpieces.2)

theorem scoped_separated (hpieces : ∀ piece ∈ pieces, piece.Scoped own) :
    (separated pieces).Scoped own := by
  induction pieces with
  | nil => exact scoped_empty
  | cons first rest ih =>
      rw [List.forall_mem_cons] at hpieces
      cases rest with
      | nil => exact hpieces.1
      | cons second rest => exact (hpieces.1.append (scoped_operator ",")).append (ih hpieces.2)

theorem scoped_terminated (hpieces : ∀ piece ∈ pieces, piece.Scoped own) :
    (terminated pieces).Scoped own :=
  scoped_concat (List.forall_mem_map.mpr fun piece hpiece =>
    (hpieces piece hpiece).append (scoped_operator ","))

theorem scoped_words {spellings : List String} (hspellings : ∀ name ∈ spellings, Known own name) :
    (words spellings).Scoped own := by
  induction spellings with
  | nil => exact scoped_empty
  | cons first rest ih =>
      rw [List.forall_mem_cons] at hspellings
      exact (scoped_name hspellings.1).append (ih hspellings.2)

/-! ### Paths and types -/

theorem scoped_path {first : String} (hfirst : Known own first) (rest : List String) :
    (path (first :: rest)).Scoped own := by
  intro name hname
  have hsame : (path (first :: rest)).openNames = [first] := by
    cases rest with
    | nil => rfl
    | cons second rest => exact congrArg (first :: ·) (Token.openNames_double_path (second :: rest))
  rw [hsame, List.mem_singleton] at hname
  exact hname ▸ hfirst

/-- A path into another package looks up nothing here. -/
theorem scoped_externalPath (segments : List String) : (externalPath segments).Scoped own :=
  scoped_of_openNames_eq_nil (Token.openNames_double_path segments)

theorem scoped_support (segments : List String) : (support segments).Scoped own :=
  scoped_externalPath _

theorem scoped_ofTypePath {type : TypePath} (htype : Known own type.head) :
    (ofTypePath type).Scoped own := by
  obtain ⟨modules, last⟩ := type
  cases modules with
  | nil => exact scoped_path htype []
  | cons first rest => exact scoped_path htype (rest ++ [last])

theorem Scoped.member (hcode : code.Scoped own) (name : String) :
    (code.member name).Scoped own := by
  have hassoc : code.member name = code ++ externalPath [name] :=
    congrArg Code.mk (List.append_assoc _ _ _)
  rw [hassoc]
  exact hcode.append (scoped_externalPath _)

theorem Scoped.applied (hcode : code.Scoped own)
    (harguments : ∀ argument ∈ arguments, argument.Scoped own) :
    (code.applied arguments).Scoped own :=
  ((hcode.append (scoped_operator "<")).append (scoped_separated harguments)).append
    (scoped_operator ">")

theorem Scoped.borrow (hcode : code.Scoped own) : code.borrow.Scoped own :=
  (scoped_operator "&").append hcode

/-! ### Expressions -/

theorem Scoped.call (hcode : code.Scoped own)
    (harguments : ∀ argument ∈ arguments, argument.Scoped own) :
    (code.call arguments).Scoped own :=
  hcode.append (scoped_separated harguments).parens

theorem Scoped.call_singleton (hcode : code.Scoped own) (ha : a.Scoped own) :
    (code.call [a]).Scoped own :=
  hcode.call (List.forall_mem_singleton.mpr ha)

theorem Scoped.field (hcode : code.Scoped own) (hname : Known own name) :
    (code.field name).Scoped own :=
  (hcode.append (scoped_operator ".")).append (scoped_name hname)

theorem Scoped.method (hcode : code.Scoped own)
    (harguments : ∀ argument ∈ arguments, argument.Scoped own) (name : String)
    (hcommon : isCommon name = true) : (code.method name arguments).Scoped own :=
  (hcode.field (known_common name hcommon)).call harguments

theorem Scoped.method_nil (hcode : code.Scoped own) (name : String)
    (hcommon : isCommon name = true) : (code.method name []).Scoped own :=
  hcode.method (List.forall_mem_nil _) name hcommon

theorem Scoped.method_singleton (hcode : code.Scoped own) (ha : a.Scoped own) (name : String)
    (hcommon : isCommon name = true) : (code.method name [a]).Scoped own :=
  hcode.method (List.forall_mem_singleton.mpr ha) name hcommon

theorem Scoped.attempt (hcode : code.Scoped own) : code.attempt.Scoped own :=
  hcode.append (scoped_operator "?")

theorem Scoped.some (hcode : code.Scoped own) : (Code.some code).Scoped own :=
  (scoped_word "Some" rfl).call_singleton hcode

theorem scoped_none : Code.none.Scoped own := scoped_word "None" rfl

theorem Scoped.ok (hcode : code.Scoped own) : code.ok.Scoped own :=
  (scoped_word "Ok" rfl).call_singleton hcode

/-- A closure of one parameter. -/
theorem Scoped.closure (hcode : code.Scoped own) (parameter : String)
    (hcommon : isCommon parameter = true) :
    (Code.closure [word parameter] code).Scoped own :=
  (((scoped_operator "|").append (scoped_word parameter hcommon)).append
    (scoped_operator "|")).append hcode

theorem Scoped.arm (ha : a.Scoped own) (hb : b.Scoped own) : (Code.arm a b).Scoped own :=
  (ha.append (scoped_operator "=>")).append hb

theorem Scoped.matchOn (hcode : code.Scoped own) (hpieces : ∀ piece ∈ pieces, piece.Scoped own) :
    (Code.matchOn code pieces).Scoped own :=
  ((scoped_word "match" rfl).append hcode).append (scoped_terminated hpieces).braces

theorem Scoped.ifTrue (ha : a.Scoped own) (hb : b.Scoped own) : (Code.ifTrue a b).Scoped own :=
  ((scoped_word "if" rfl).append ha).append hb.braces

theorem Scoped.labelled (ha : a.Scoped own) (hb : b.Scoped own) : (Code.labelled a b).Scoped own :=
  (ha.append (scoped_operator ":")).append hb

/-! ### Attributes -/

theorem Scoped.outerAttribute (hcode : code.Scoped own) : (outerAttribute code).Scoped own :=
  (scoped_operator "#").append hcode.brackets

theorem scoped_docLine (line : String) : (docLine line).Scoped own :=
  (((scoped_word "doc" rfl).append (scoped_operator "=")).append
    (scoped_string line)).outerAttribute

theorem scoped_docComment (line : String) : (docComment line).Scoped own :=
  (((scoped_word "doc" rfl).append (scoped_operator "=")).append (scoped_literal _)).outerAttribute

theorem scoped_docs (docs : Documentation) : docs.code.Scoped own :=
  scoped_concat (List.forall_mem_map.mpr fun _ _ => scoped_docLine _)

/-! ### Numbers -/

theorem scoped_integer (value : Int) : (integer value).Scoped own := by
  unfold integer
  split
  · exact (scoped_operator "-").append (scoped_literal _)
  · exact scoped_literal _

theorem scoped_typedInteger (value : Int) : (typedInteger value).Scoped own := by
  unfold typedInteger
  split
  · exact scoped_path (known_common _ rfl) _
  · split
    · exact (scoped_operator "-").append (scoped_literal _)
    · exact scoped_literal _

theorem scoped_float (value : Binary64) : (float value).Scoped own := by
  unfold float
  dsimp only
  split
  · exact (scoped_operator "-").append (scoped_literal _)
  · exact scoped_literal _

end Code

end SchemaTypes
