import SchemaTypes.Proofs.Outcome
import SchemaTypes.Schema.Merge

/-!
# The depth limit of merging

References and `allOf`s may lead back to where they come from, and the depth limit keeps them from
being followed for ever.  This file shows that the limit does nothing else: a computation that it
does not cut off has the same result under every larger limit.

## Strategy

The recursion of the program counts up and compares its counter with the limit, while the functions
here count down what is left.

* `OnlySolution`: a recursion that determines its results.  One that ran on for ever would not: a
  call that never comes back could fail with any error, since an error inside is an error of the
  whole.  So a recursion with exactly one solution comes to an end wherever it is started.
* `Agrees`: two computations with equal results, unless the first one is cut off.  Each step of a
  computation keeps this relation, so it is carried through the functions one by one.
-/

namespace SchemaTypes

/-! ## Recursions that come to an end -/

/-- A recursion with exactly one solution. -/
def OnlySolution {α : Type} (recursion : α → α) (solution : α) : Prop :=
  ∀ other, recursion other = other ↔ other = solution

/-- The value of a counter from which `left` more steps are possible. -/
def countdown {α : Type} (cut : α) (step : α → α) : (left : Nat) → α
  | 0 => cut
  | left + 1 => step (countdown cut step left)

/-- Counting up to a limit comes to an end. -/
theorem onlySolution_countdown {α : Type} (limit : Nat) (cut : α) (step : α → α) :
    OnlySolution
      (fun (recursive : Nat → α) counter =>
        if limit < counter then cut else step (recursive (counter + 1)))
      (fun counter => countdown cut step (limit + 1 - counter)) := by
  intro other
  constructor
  · intro hother
    funext counter
    -- induction on what is left up to the limit
    induction hleft : limit + 1 - counter generalizing counter with
    | zero =>
        have hbeyond : limit < counter := by omega
        rw [← hother]
        exact if_pos hbeyond
    | succ left ih =>
        have hwithin : ¬limit < counter := by omega
        rw [← hother]
        dsimp only
        rw [if_neg hwithin, ih (counter + 1) (by omega)]
        rfl
  · rintro rfl
    funext counter
    dsimp only
    by_cases hbeyond : limit < counter
    · have hleft : limit + 1 - counter = 0 := by omega
      rw [if_pos hbeyond, hleft]
      rfl
    · have hleft : limit + 1 - counter = limit + 1 - (counter + 1) + 1 := by omega
      rw [if_neg hbeyond, hleft]
      rfl

/-! ## Computations that are cut off -/

/-- A computation that the depth limit has ended. -/
def CutOff {α : Type} (result : Except GenerationError α) : Prop :=
  ∃ pointer limit, result = .error (.resolution pointer (.depthExceeded limit))

/-- Two computations have the same result, unless the first one is cut off. -/
def Agrees {α : Type} (shallow deep : Except GenerationError α) : Prop :=
  CutOff shallow ∨ deep = shallow

namespace Agrees

variable {α β σ : Type}

@[refl]
theorem refl (result : Except GenerationError α) : Agrees result result := .inr rfl

theorem of_error (pointer : String) (limit : Nat) (deep : Except GenerationError α) :
    Agrees (.error (.resolution pointer (.depthExceeded limit))) deep :=
  .inl ⟨pointer, limit, rfl⟩

/-- Steps after one another. -/
theorem bind {first first' : Except GenerationError α} {next next' : α → Except GenerationError β}
    (hfirst : Agrees first first') (hnext : ∀ value, Agrees (next value) (next' value)) :
    Agrees (first >>= next) (first' >>= next') := by
  rcases hfirst with ⟨pointer, limit, rfl⟩ | rfl
  · exact of_error pointer limit _
  · cases first' with
    | ok value => exact hnext value
    | error fault => exact refl _

theorem mapM {step step' : α → Except GenerationError β} {items : List α}
    (hstep : ∀ item ∈ items, Agrees (step item) (step' item)) :
    Agrees (items.mapM step) (items.mapM step') := by
  induction items with
  | nil => exact refl _
  | cons item rest ih =>
      rw [List.forall_mem_cons] at hstep
      rw [List.mapM_cons, List.mapM_cons]
      apply bind hstep.1
      intro result
      apply bind (ih hstep.2)
      intro others
      exact refl _

theorem foldlM {step step' : σ → α → Except GenerationError σ} {items : List α}
    (hstep : ∀ item ∈ items, ∀ state, Agrees (step state item) (step' state item)) (state : σ) :
    Agrees (items.foldlM step state) (items.foldlM step' state) := by
  induction items generalizing state with
  | nil => exact refl _
  | cons item rest ih =>
      rw [List.forall_mem_cons] at hstep
      rw [List.foldlM_cons, List.foldlM_cons]
      exact bind (hstep.1 state) fun middle => ih hstep.2 middle

end Agrees

/-! ## Following references -/

/-- The same context with another limit. -/
def Context.withMaxDepth (context : Context) (limit : Nat) : Context :=
  { context with options := { context.options with maxDepth := limit } }

namespace Merge

variable {context : Context} {shallow deep : Nat}

/-- How a chain of references is followed: each reference raises the number of hops. -/
def followNext (context : Context) (follow : Nat → String → Json → Except GenerationError Json)
    (hops : Nat) (pointer : String) (node : Json) : Except GenerationError Json :=
  match node.reference? with
  | none => .ok node
  | some reference =>
    if context.options.maxDepth < hops + 1 then .error (tooDeep context pointer)
    else
      match context.lookup.schema? reference with
      | some target => follow (hops + 1) pointer target
      | none => .error (.resolution pointer (.unresolvedReference reference))

/-- Following references comes to an end. -/
theorem onlySolution_followNext (context : Context) :
    OnlySolution (followNext context) fun hops pointer node =>
      dereference context pointer (context.options.maxDepth - hops) node := by
  intro other
  constructor
  · intro hother
    -- the hops that are left go down, those that are made go up
    funext hops pointer node
    induction hleft : context.options.maxDepth - hops generalizing hops node with
    | zero =>
        have hbeyond : context.options.maxDepth < hops + 1 := by omega
        rw [← hother, followNext, dereference.eq_def]
        cases hreference : node.reference? with
        | none => rfl
        | some reference => exact if_pos hbeyond
    | succ left ih =>
        have hwithin : ¬context.options.maxDepth < hops + 1 := by omega
        rw [← hother, followNext, dereference.eq_def]
        cases hreference : node.reference? with
        | none => rfl
        | some reference =>
            dsimp only
            rw [if_neg hwithin]
            cases hschema : context.lookup.schema? reference with
            | none => rfl
            | some target => exact ih (hops + 1) target (by omega)
  · rintro rfl
    funext hops pointer node
    rw [followNext, dereference.eq_def]
    cases hreference : node.reference? with
    | none => rfl
    | some reference =>
        dsimp only
        by_cases hbeyond : context.options.maxDepth < hops + 1
        · have hleft : context.options.maxDepth - hops = 0 := by omega
          rw [if_pos hbeyond, hleft]
        · have hleft : context.options.maxDepth - hops =
              context.options.maxDepth - (hops + 1) + 1 := by omega
          rw [hleft]
          exact if_neg hbeyond

theorem agrees_dereference {hops hops' : Nat} (hhops : hops ≤ hops') (pointer : String)
    (node : Json) :
    Agrees (dereference (context.withMaxDepth shallow) pointer hops node)
      (dereference (context.withMaxDepth deep) pointer hops' node) := by
  induction hops generalizing hops' node with
  | zero =>
      rw [dereference.eq_def, dereference.eq_def _ _ hops']
      cases node.reference? with
      | none => exact .refl _
      | some reference => exact .of_error pointer shallow _
  | succ hops ih =>
      obtain ⟨more, rfl⟩ : ∃ more, hops' = more + 1 := ⟨hops' - 1, by omega⟩
      rw [dereference, dereference]
      cases node.reference? with
      | none => exact .refl _
      | some reference =>
          dsimp only
          have hlookup : (context.withMaxDepth deep).lookup =
              (context.withMaxDepth shallow).lookup := rfl
          rw [hlookup]
          cases (context.withMaxDepth shallow).lookup.schema? reference with
          | none => exact .refl _
          | some target => exact ih (by omega) target

/-! ## Merging -/

section

variable {nested nested' : NestedMerge} (hle : shallow ≤ deep)
  (hnested : ∀ node pointer, Agrees (nested node pointer) (nested' node pointer))
include hle hnested

theorem agrees_reduceAlternatives (pointer : String) (index : Nat) (alternatives : List Json)
    (reduction : Reduction) :
    Agrees (reduceAlternatives (context.withMaxDepth shallow) nested pointer index alternatives
        reduction)
      (reduceAlternatives (context.withMaxDepth deep) nested' pointer index alternatives
        reduction) := by
  induction alternatives generalizing index reduction with
  | nil => exact .refl _
  | cons alternative rest ih =>
      rw [reduceAlternatives, reduceAlternatives]
      apply Agrees.bind (agrees_dereference hle _ alternative)
      intro target
      by_cases hallOf : target.allOf?.isSome
      · simp only [hallOf, if_true]
        apply Agrees.bind (hnested target _)
        intro schema
        exact ih _ _
      · simp only [hallOf]
        exact ih _ _

theorem agrees_branchSchema (pointer : String) (index : Nat) (branch : Json) :
    Agrees (branchSchema (context.withMaxDepth shallow) nested pointer index branch)
      (branchSchema (context.withMaxDepth deep) nested' pointer index branch) := by
  apply Agrees.bind (agrees_dereference hle pointer branch)
  intro target
  cases target with
  | object members =>
      dsimp only
      by_cases hallOf : (Json.object members).allOf?.isSome
      · rw [if_pos hallOf, if_pos hallOf]
        exact hnested _ pointer
      · rw [if_neg hallOf, if_neg hallOf]
        cases (Json.object members).alternatives? with
        | none => exact .refl _
        | some alternatives =>
            apply Agrees.bind (agrees_reduceAlternatives hle hnested _ 0 alternatives {})
            intro reduction
            exact .refl _
  | null | bool | number | string | array => exact .refl _

theorem agrees_mergeBranches (pointer : String) (index : Nat) (branches : List Json)
    (merged : MergedObject) :
    Agrees (mergeBranches (context.withMaxDepth shallow) nested pointer index branches merged)
      (mergeBranches (context.withMaxDepth deep) nested' pointer index branches merged) := by
  induction branches generalizing index merged with
  | nil => exact .refl _
  | cons branch rest ih =>
      apply Agrees.bind (agrees_branchSchema hle hnested _ index branch)
      intro schema
      exact ih (index + 1) (merged.absorb schema)

end

/-- One level of merging, where `nested` merges what is nested in the branches. -/
def mergeStep (context : Context) (nested : NestedMerge) : NestedMerge := fun node pointer => do
  let merged ← mergeBranches context nested pointer 0 (node.allOf?.getD []) .empty
  return (merged.absorb node).toSchema node

theorem mergeLevels_eq_countdown (context : Context) (levels : Nat) :
    mergeLevels context levels =
      countdown (fun _ pointer => .error (tooDeep context pointer)) (mergeStep context) levels := by
  induction levels with
  | zero => rfl
  | succ levels ih =>
      rw [countdown, ← ih]
      rfl

/-- How an `allOf` is merged: each `allOf` inside raises the depth. -/
def mergeNext (context : Context) (merge : Nat → NestedMerge) (depth : Nat) : NestedMerge :=
  if context.options.maxDepth < depth then fun _ pointer => .error (tooDeep context pointer)
  else mergeStep context (merge (depth + 1))

/-- Merging comes to an end. -/
theorem onlySolution_mergeNext (context : Context) :
    OnlySolution (mergeNext context) fun depth =>
      mergeLevels context (context.options.maxDepth + 1 - depth) := by
  simp only [mergeLevels_eq_countdown]
  exact onlySolution_countdown context.options.maxDepth _ (mergeStep context)

theorem agrees_mergeLevels (hle : shallow ≤ deep) {levels levels' : Nat}
    (hlevels : levels ≤ levels') (node : Json) (pointer : String) :
    Agrees (mergeLevels (context.withMaxDepth shallow) levels node pointer)
      (mergeLevels (context.withMaxDepth deep) levels' node pointer) := by
  induction levels generalizing levels' node pointer with
  | zero => exact .of_error pointer shallow _
  | succ levels ih =>
      obtain ⟨more, rfl⟩ : ∃ more, levels' = more + 1 := ⟨levels' - 1, by omega⟩
      have hmore : levels ≤ more := by omega
      apply Agrees.bind (agrees_mergeBranches hle (fun node pointer => ih hmore node pointer) pointer
        0 (node.allOf?.getD []) .empty)
      intro merged
      exact .refl _

end Merge

theorem agrees_mergeAllOf {context : Context} {shallow deep : Nat} (hle : shallow ≤ deep)
    (node : Json) (pointer : String) :
    Agrees (mergeAllOf (context.withMaxDepth shallow) node pointer)
      (mergeAllOf (context.withMaxDepth deep) node pointer) :=
  Merge.agrees_mergeLevels hle (Nat.succ_le_succ hle) node pointer

end SchemaTypes
