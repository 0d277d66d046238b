import Mathlib.Tactic
import SchemaTypes.Code.Basic

/-!
# Lists and arms in generated code

Lists and the arms of a `match` are pieces of code with commas between or after them, and an arm is
a pattern and a body with an arrow between them.  Cutting the tokens at commas and at the arrow
gives the pieces back, since commas inside of brackets do not count.

* `Code.items_separated`, `Code.splitCommas_terminated`: the items of a list.
* `Code.arm?_arm`: the pattern and the body of an arm.
-/

namespace SchemaTypes

namespace Token

/-! ## Cutting tokens -/

/-- The pieces between commas. -/
def splitCommas : List Token → List (List Token)
  | [] => [[]]
  | .punct ',' .alone :: rest => [] :: splitCommas rest
  | token :: rest =>
    match splitCommas rest with
    | [] => [[token]]
    | piece :: more => (token :: piece) :: more

/-- The items of a list in brackets. -/
def items (tokens : List Token) : List (List Token) :=
  if tokens.isEmpty then [] else splitCommas tokens

/-- The pattern and the body of an arm. -/
def splitArm? : List Token → Option (List Token × List Token)
  | .punct '=' .joint :: .punct '>' .alone :: rest => some ([], rest)
  | token :: rest => (splitArm? rest).map fun parts => (token :: parts.1, parts.2)
  | [] => none

/-- An arm of which the pattern and the body can be read. -/
def arm? {α β : Type} (pattern? : List Token → Option α) (body? : List Token → Option β)
    (tokens : List Token) : Option (α × β) :=
  (splitArm? tokens).bind fun parts =>
    (pattern? parts.1).bind fun pattern => (body? parts.2).map (pattern, ·)

/-- Whether a token is a comma. -/
def isComma : Token → Bool
  | .punct ',' .alone => true
  | _ => false

/-- Whether a token begins the arrow of an arm. -/
def isArrow : Token → Bool
  | .punct '=' .joint => true
  | _ => false

/-- None of the tokens outside of brackets is of some kind. -/
def Free (kind : Token → Bool) (tokens : List Token) : Prop := ∀ token ∈ tokens, kind token = false

theorem Free.append {kind : Token → Bool} {tokens others : List Token} (htokens : Free kind tokens)
    (hothers : Free kind others) : Free kind (tokens ++ others) :=
  List.forall_mem_append.mpr ⟨htokens, hothers⟩

section

variable {piece : List Token}

theorem splitCommas_of_free (hpiece : Free isComma piece) : splitCommas piece = [piece] := by
  induction piece with
  | nil => rfl
  | cons token rest ih =>
      rw [Free, List.forall_mem_cons] at hpiece
      rw [splitCommas, ih hpiece.2]
      rintro rfl
      exact absurd hpiece.1 (by decide)

theorem splitCommas_append (hpiece : Free isComma piece) (rest : List Token) :
    splitCommas (piece ++ .punct ',' .alone :: rest) = piece :: splitCommas rest := by
  induction piece with
  | nil => rfl
  | cons token more ih =>
      rw [Free, List.forall_mem_cons] at hpiece
      rw [List.cons_append, splitCommas, ih hpiece.2]
      rintro rfl
      exact absurd hpiece.1 (by decide)

theorem splitArm?_append (hpiece : Free isArrow piece) (body : List Token) :
    splitArm? (piece ++ .punct '=' .joint :: .punct '>' .alone :: body) = some (piece, body) := by
  induction piece with
  | nil => rfl
  | cons token rest ih =>
      rw [Free, List.forall_mem_cons] at hpiece
      rw [List.cons_append, splitArm?, ih hpiece.2]
      · rfl
      · intro more hsame
        rw [hsame] at hpiece
        exact absurd hpiece.1 (by decide)

end

end Token

namespace Code

open Token (Free isComma isArrow)

/-! ## Lists -/

theorem splitCommas_terminated {pieces : List Code}
    (hpieces : ∀ piece ∈ pieces, Free isComma piece.tokens) :
    Token.splitCommas (terminated pieces).tokens = pieces.map (·.tokens) ++ [[]] := by
  induction pieces with
  | nil => rfl
  | cons piece rest ih =>
      rw [List.forall_mem_cons] at hpieces
      have hcut : (terminated (piece :: rest)).tokens =
          piece.tokens ++ .punct ',' .alone :: (terminated rest).tokens := by
        have happend : (piece ++ comma).tokens = piece.tokens ++ [.punct ',' .alone] := rfl
        rw [terminated, concat, List.map_cons, List.flatMap_cons, happend, List.append_assoc]
        rfl
      rw [hcut, Token.splitCommas_append hpieces.1, ih hpieces.2]
      rfl

theorem splitCommas_separated {pieces : List Code} (hpieces : pieces ≠ [])
    (hfree : ∀ piece ∈ pieces, Free isComma piece.tokens) :
    Token.splitCommas (separated pieces).tokens = pieces.map (·.tokens) := by
  induction pieces with
  | nil => exact absurd rfl hpieces
  | cons piece rest ih =>
      rw [List.forall_mem_cons] at hfree
      cases rest with
      | nil => exact Token.splitCommas_of_free hfree.1
      | cons next more =>
          have hcut : (separated (piece :: next :: more)).tokens =
              piece.tokens ++ .punct ',' .alone :: (separated (next :: more)).tokens := by
            have happend : (piece ++ comma).tokens = piece.tokens ++ [.punct ',' .alone] := rfl
            have hseparated : (separated (piece :: next :: more)).tokens =
                (piece ++ comma).tokens ++ (separated (next :: more)).tokens := rfl
            rw [hseparated, happend, List.append_assoc]
            rfl
          rw [hcut, Token.splitCommas_append hfree.1, ih (List.cons_ne_nil _ _) hfree.2]
          rfl

/-- **Items of a list.**  Pieces with commas between them are read one by one. -/
theorem items_separated {pieces : List Code}
    (hfree : ∀ piece ∈ pieces, Free isComma piece.tokens)
    (htokens : ∀ piece ∈ pieces, piece.tokens ≠ []) :
    Token.items (separated pieces).tokens = pieces.map (·.tokens) := by
  cases pieces with
  | nil => rfl
  | cons piece rest =>
      rw [Token.items, if_neg, splitCommas_separated (List.cons_ne_nil _ _) hfree]
      -- the first piece has tokens
      rw [List.isEmpty_iff]
      intro hempty
      have hfirst := htokens piece List.mem_cons_self
      cases rest with
      | nil => exact hfirst hempty
      | cons next more =>
          have happend : (separated (piece :: next :: more)).tokens =
              (piece ++ comma).tokens ++ (separated (next :: more)).tokens := rfl
          rw [happend, List.append_eq_nil_iff] at hempty
          exact hfirst (List.append_eq_nil_iff.mp hempty.1).1

/-! ## Arms -/

theorem tokens_arm (pattern body : Code) :
    (arm pattern body).tokens =
      pattern.tokens ++ .punct '=' .joint :: .punct '>' .alone :: body.tokens := by
  have harrow : (operator "=>").tokens = [.punct '=' .joint, .punct '>' .alone] := rfl
  have happend : (arm pattern body).tokens =
      (pattern.tokens ++ (operator "=>").tokens) ++ body.tokens := rfl
  rw [happend, harrow, List.append_assoc]
  rfl

theorem free_isComma_arm {pattern body : Code} (hpattern : Free isComma pattern.tokens)
    (hbody : Free isComma body.tokens) : Free isComma (arm pattern body).tokens := by
  rw [tokens_arm]
  refine hpattern.append ?_
  rw [Free, List.forall_mem_cons, List.forall_mem_cons]
  exact ⟨rfl, rfl, hbody⟩

/-- **Arms** are read as their pattern and their body. -/
theorem arm?_arm {α β : Type} {pattern? : List Token → Option α} {body? : List Token → Option β}
    {pattern body : Code} {key : α} {result : β} (hfree : Free isArrow pattern.tokens)
    (hpattern : pattern? pattern.tokens = .some key) (hbody : body? body.tokens = .some result) :
    Token.arm? pattern? body? (arm pattern body).tokens = .some (key, result) := by
  rw [Token.arm?, tokens_arm, Token.splitArm?_append hfree, Option.bind_some, hpattern,
    Option.bind_some, hbody, Option.map_some]

end Code

/-! ## Items that are read one by one -/

section

variable {α β γ : Type} {write : α → β} {read? : β → Option γ}

/-- Reading items that have been written one by one. -/
theorem mapM_map_eq_some_iff {result : α → γ} {items : List α} :
    (items.map write).mapM read? = some (items.map result) ↔
      ∀ item ∈ items, read? (write item) = some (result item) := by
  induction items with
  | nil => exact iff_of_true rfl (List.forall_mem_nil _)
  | cons item rest ih =>
      rw [List.map_cons, List.mapM_cons, List.forall_mem_cons, ← ih]
      cases read? (write item) with
      | none => exact iff_of_false nofun fun hread => absurd hread.1 nofun
      | some first =>
          cases (rest.map write).mapM read? with
          | none => exact iff_of_false nofun fun hread => absurd hread.2 nofun
          | some others => simp

theorem mapM_map_eq_some {result : α → γ} {items : List α}
    (hitems : ∀ item ∈ items, read? (write item) = some (result item)) :
    (items.map write).mapM read? = some (items.map result) :=
  mapM_map_eq_some_iff.mpr hitems

/-- What is kept of every item is kept of them all. -/
theorem map_eq_of_mapM_map {δ : Type} {ofItem : α → δ} {ofResult : γ → δ} {items : List α}
    {results : List γ} (hresults : (items.map write).mapM read? = some results)
    (hkept : ∀ item ∈ items, ∀ result, read? (write item) = some result →
      ofResult result = ofItem item) : results.map ofResult = items.map ofItem := by
  induction items generalizing results with
  | nil =>
      obtain rfl := Option.some.inj hresults
      rfl
  | cons item rest ih =>
      rw [List.forall_mem_cons] at hkept
      rw [List.map_cons, List.mapM_cons, Option.bind_eq_bind, Option.bind_eq_some_iff] at hresults
      obtain ⟨first, hfirst, hresults⟩ := hresults
      obtain ⟨others, hothers, hresults⟩ := Option.bind_eq_some_iff.mp hresults
      obtain rfl := Option.some.inj hresults
      rw [List.map_cons, List.map_cons, hkept.1 first hfirst, ih hothers hkept.2]

end

end SchemaTypes
