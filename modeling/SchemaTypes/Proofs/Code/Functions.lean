import SchemaTypes.TypeUnit.Source

/-!
# Functions that generated code declares

The functions of an implementation are read off its tokens: a name after the keyword `fn` declares
a function.  What stands in brackets belongs to a function and is passed over.

* `Token.functionNames`: the names of the functions that tokens declare.
* `Token.methodNames?`: the names of the functions of an inherent implementation.
* `Code.Declares`: the functions of a piece of code, whatever comes after it.
* `Code.declares_publicFunction`: a public function declares its name.
-/

namespace SchemaTypes

namespace Token

/-- The names of the functions that are declared, those inside of brackets apart. -/
def functionNames : List Token → List String
  | .ident "fn" :: .ident name :: rest => name :: functionNames rest
  | _ :: rest => functionNames rest
  | [] => []

/-- The functions of an inherent implementation. -/
def methodNames? : List Token → Option (List String)
  | [.ident "impl", .ident _, .group .brace body] => some (functionNames body)
  | _ => none

/-- No identifier comes next. -/
def NoIdent : List Token → Prop
  | .ident _ :: _ => False
  | _ => True

variable {tokens : List Token}

/-- A token declares nothing where no name comes after it. -/
theorem functionNames_cons_of_noIdent (htokens : NoIdent tokens) (token : Token) :
    functionNames (token :: tokens) = functionNames tokens := by
  rw [functionNames.eq_def]
  split
  · rename_i name rest hcons
    obtain ⟨-, rfl⟩ := List.cons.inj hcons
    exact False.elim htokens
  · rename_i hcons
    rw [(List.cons.inj hcons).2]
  · contradiction

end Token

open Token (functionNames NoIdent)

namespace Code

/-- A piece of code declares some functions, whatever comes after it. -/
def Declares (code : Code) (names : List String) : Prop :=
  ∀ rest, functionNames (code.tokens ++ rest) = names ++ functionNames rest

/-- A piece of code declares nothing where no name comes after it. -/
def Quiet (code : Code) : Prop :=
  ∀ rest, NoIdent rest → functionNames (code.tokens ++ rest) = functionNames rest

variable {a b code : Code} {names more : List String}

/-! ## Declarations -/

theorem declares_empty : empty.Declares [] := fun _ => rfl

theorem Declares.append (ha : a.Declares names) (hb : b.Declares more) :
    (a ++ b).Declares (names ++ more) := by
  intro rest
  have htokens : (a ++ b).tokens ++ rest = a.tokens ++ (b.tokens ++ rest) :=
    List.append_assoc ..
  rw [htokens, ha, hb, List.append_assoc]

/-- The functions of pieces of code, one after the other. -/
theorem declares_concat {α : Type} {code : α → Code} {names : α → List String} {items : List α}
    (hitems : ∀ item ∈ items, (code item).Declares (names item)) :
    (concat (items.map code)).Declares (items.flatMap names) := by
  induction items with
  | nil => exact declares_empty
  | cons first rest ih =>
      rw [List.forall_mem_cons] at hitems
      exact hitems.1.append (ih hitems.2)

theorem declares_attribute (content : Code) : (outerAttribute content).Declares [] :=
  fun _ => rfl

theorem declares_docs (docs : Documentation) : docs.code.Declares [] := by
  have hlines : docs.code.Declares (docs.lines.flatMap fun _ => []) :=
    declares_concat fun line _ => declares_attribute _
  rwa [List.flatMap_eq_nil_iff.mpr fun _ _ => rfl] at hlines

/-! ## Types -/

theorem Declares.quiet (hcode : code.Declares []) : code.Quiet := fun rest _ => hcode rest

theorem quiet_path (segments : List String) : (path segments).Quiet := by
  intro rest hrest
  fun_induction path segments with
  | case1 => rfl
  | case2 segment => exact Token.functionNames_cons_of_noIdent hrest _
  | case3 segment segments hsegments ih =>
      -- colons come after the segment
      have hcolons : NoIdent (.punct ':' .joint :: .punct ':' .alone ::
          ((path segments).tokens ++ rest)) := trivial
      exact (Token.functionNames_cons_of_noIdent hcolons (.ident segment)).trans ih

theorem quiet_externalPath (segments : List String) : (externalPath segments).Quiet :=
  quiet_path segments

theorem quiet_applied (htype : a.Quiet) (hargument : b.Quiet) : (a.applied [b]).Quiet := by
  intro rest _
  have htokens : (a.applied [b]).tokens ++ rest =
      a.tokens ++ .punct '<' .alone :: (b.tokens ++ .punct '>' .alone :: rest) := by
    change (a.tokens ++ [.punct '<' .alone] ++ b.tokens ++ [.punct '>' .alone]) ++ rest = _
    simp
  calc functionNames ((a.applied [b]).tokens ++ rest)
      = functionNames (a.tokens ++ .punct '<' .alone :: (b.tokens ++ .punct '>' .alone :: rest)) :=
        congrArg _ htokens
    _ = functionNames (b.tokens ++ .punct '>' .alone :: rest) :=
        htype (.punct '<' .alone :: _) trivial
    _ = functionNames rest := hargument (.punct '>' .alone :: rest) trivial

/-- The types of values declare nothing. -/
theorem quiet_shape (shape : TypeShape) : shape.code.Quiet := by
  induction shape with
  | bool | integer | string => exact Declares.quiet fun _ => rfl
  | number | dateTime | json => exact quiet_externalPath _
  | named path => exact quiet_path _
  | boxed inner ih | optional inner ih | list inner ih =>
      exact quiet_applied (Declares.quiet fun _ => rfl) ih
  | map inner ih => exact quiet_applied (quiet_externalPath _) ih
  | borrowed inner ih => exact ih

/-! ## Functions -/

/-- **A public function** declares its name. -/
theorem declares_publicFunction {result : Code} (hresult : result.Quiet) (name : String)
    (parameters body : Code) : (publicFunction name parameters result body).Declares [name] := by
  intro rest
  have htokens : (publicFunction name parameters result body).tokens ++ rest =
      .ident "pub" :: .ident "fn" :: .ident name :: .group .parenthesis parameters.tokens ::
        .punct '-' .joint :: .punct '>' .alone ::
          (result.tokens ++ .group .brace body.tokens :: rest) := by
    change ([.ident "pub", .ident "fn", .ident name, .group .parenthesis parameters.tokens,
      .punct '-' .joint, .punct '>' .alone] ++ result.tokens ++
        [.group .brace body.tokens]) ++ rest = _
    simp
  rw [htokens]
  exact congrArg (name :: ·) (hresult (.group .brace body.tokens :: rest) trivial)

end Code

end SchemaTypes
