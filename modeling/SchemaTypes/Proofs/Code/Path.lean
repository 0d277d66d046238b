import SchemaTypes.Proofs.Code.Arm

/-!
# Paths at the head of an expression

Most expressions of generated code start with a path: a function that is called, a macro, a case of
an enumeration or a plain variable.  Splitting the tokens after that path tells them apart.

* `Token.leadingPath`: the segments of the path and the tokens after it.
* `Code.leadingPath_member`: an associated item of a type.
* `Token.sizeOf_leadingPath_le`, `Token.sizeOf_le_of_mem_items`: the parts are no larger than the
  whole, so that expressions are read by recursion on their size.
-/

namespace SchemaTypes

namespace Token

/-- The segments of a path and what comes after it. -/
def splitPath : List Token → List String × List Token
  | .ident name :: .punct ':' .joint :: .punct ':' .alone :: rest =>
    (name :: (splitPath rest).1, (splitPath rest).2)
  | .ident name :: rest => ([name], rest)
  | rest => ([], rest)

/-- The path that an expression starts with.  One that starts at an external package has an empty
segment at its head. -/
def leadingPath : List Token → List String × List Token
  | .punct ':' .joint :: .punct ':' .alone :: rest =>
    ("" :: (splitPath rest).1, (splitPath rest).2)
  | tokens => splitPath tokens

/-! ## Sizes -/

theorem sizeOf_splitPath_le (tokens : List Token) :
    sizeOf (splitPath tokens).2 ≤ sizeOf tokens := by
  fun_induction splitPath tokens with
  | case1 name rest ih =>
      simp only [List.cons.sizeOf_spec]
      omega
  | case2 name rest =>
      simp only [List.cons.sizeOf_spec]
      omega
  | case3 rest => exact le_rfl

theorem sizeOf_leadingPath_le (tokens : List Token) :
    sizeOf (leadingPath tokens).2 ≤ sizeOf tokens := by
  unfold leadingPath
  split
  · rename_i rest
    have hrest := sizeOf_splitPath_le rest
    simp only [List.cons.sizeOf_spec]
    omega
  · exact sizeOf_splitPath_le tokens

theorem sizeOf_le_of_mem_splitCommas {tokens piece : List Token}
    (hpiece : piece ∈ splitCommas tokens) : sizeOf piece ≤ sizeOf tokens := by
  -- a comma begins a piece, any other token goes to the first piece of the rest
  fun_induction splitCommas tokens generalizing piece with
  | case1 =>
      rw [List.mem_singleton] at hpiece
      rw [hpiece]
  | case2 rest ih =>
      rcases List.mem_cons.mp hpiece with rfl | hlater
      · simp only [List.nil.sizeOf_spec, List.cons.sizeOf_spec]
        omega
      · have hrest := ih hlater
        simp only [List.cons.sizeOf_spec]
        omega
  | case3 token rest hcomma hnone ih =>
      rw [List.mem_singleton] at hpiece
      rw [hpiece]
      cases rest <;> simp only [List.cons.sizeOf_spec, List.nil.sizeOf_spec] <;> omega
  | case4 token rest hcomma first more hsplit ih =>
      rw [hsplit] at ih
      rcases List.mem_cons.mp hpiece with rfl | hlater
      · have hrest := ih List.mem_cons_self
        simp only [List.cons.sizeOf_spec]
        omega
      · have hrest := ih (List.mem_cons_of_mem _ hlater)
        simp only [List.cons.sizeOf_spec]
        omega

theorem sizeOf_le_of_mem_items {tokens piece : List Token} (hpiece : piece ∈ items tokens) :
    sizeOf piece ≤ sizeOf tokens := by
  unfold items at hpiece
  split at hpiece
  · cases hpiece
  · exact sizeOf_le_of_mem_splitCommas hpiece

end Token

namespace Code

/-! ## What a path is written as -/

theorem tokens_path_cons (segment : String) {more : List String} (hmore : more ≠ []) :
    (path (segment :: more)).tokens =
      .ident segment :: .punct ':' .joint :: .punct ':' .alone :: (path more).tokens := by
  obtain ⟨next, more, rfl⟩ := List.exists_cons_of_ne_nil hmore
  rfl

theorem tokens_path_concat {segments : List String} (hsegments : segments ≠ []) (name : String) :
    (path (segments ++ [name])).tokens =
      (path segments).tokens ++ [.punct ':' .joint, .punct ':' .alone, .ident name] := by
  induction segments with
  | nil => exact absurd rfl hsegments
  | cons segment rest ih =>
      cases rest with
      | nil => rfl
      | cons next more =>
          rw [List.cons_append, tokens_path_cons segment (by simp), ih (by simp),
            tokens_path_cons segment (by simp)]
          rfl

/-- An associated item is named by the path of the type, with one more segment. -/
theorem tokens_member (type : TypePath) (name : String) :
    ((ofTypePath type).member name).tokens =
      (path (type.modules ++ [type.name] ++ [name])).tokens := by
  rw [tokens_path_concat (by simp)]
  exact List.append_assoc _ _ _

theorem free_isComma_path (segments : List String) :
    Token.Free Token.isComma (path segments).tokens := by
  induction segments with
  | nil => exact List.forall_mem_nil _
  | cons segment more ih =>
      cases more with
      | nil => exact List.forall_mem_singleton.mpr rfl
      | cons next more =>
          have hsegment : Token.Free Token.isComma
              [.ident segment, .punct ':' .joint, .punct ':' .alone] := by
            simp [Token.Free, Token.isComma]
          rw [tokens_path_cons segment (List.cons_ne_nil next more)]
          exact hsegment.append ih

end Code

namespace Token

/-! ## What is split -/

/-- A rest that does not go on with the path before it. -/
def EndsPath : List Token → Prop
  | .punct ':' .joint :: _ => False
  | _ => True

theorem splitPath_path {segments : List String} (hsegments : segments ≠ []) {rest : List Token}
    (hrest : EndsPath rest) :
    splitPath ((Code.path segments).tokens ++ rest) = (segments, rest) := by
  induction segments with
  | nil => exact absurd rfl hsegments
  | cons segment more ih =>
      cases more with
      | nil =>
          change splitPath (.ident segment :: rest) = ([segment], rest)
          rw [splitPath]
          rintro later rfl
          exact hrest
      | cons next more =>
          rw [Code.tokens_path_cons segment (List.cons_ne_nil next more), List.cons_append,
            List.cons_append, List.cons_append, splitPath, ih (List.cons_ne_nil next more)]

theorem leadingPath_path {segments : List String} (hsegments : segments ≠ []) {rest : List Token}
    (hrest : EndsPath rest) :
    leadingPath ((Code.path segments).tokens ++ rest) = (segments, rest) := by
  rw [← splitPath_path hsegments hrest]
  -- the path starts with a name, so that the segments are split as they are
  match segments with
  | [segment] => rfl
  | segment :: next :: more => rfl

end Token

namespace Code

/-- **An associated item** of a type is split into the segments of the type and its name. -/
theorem leadingPath_member (type : TypePath) (name : String) {rest : List Token}
    (hrest : Token.EndsPath rest) :
    Token.leadingPath (((ofTypePath type).member name).tokens ++ rest) =
      (type.modules ++ [type.name] ++ [name], rest) := by
  rw [tokens_member, Token.leadingPath_path (by simp) hrest]

end Code

end SchemaTypes
