import Mathlib.Tactic

/-!
# Results that are there

What is known about the steps of a computation that may fail, once its result is there, and what
can be said of its results and failures together.

* `Outcome.bind_eq_ok`, `Outcome.map_eq_ok`, `Outcome.mapError_eq_ok`: one step.
* `Outcome.mapM_cons_eq_ok`: a step for each item of a list.
* `Outcome.bind_eq_error`, `Outcome.foldlM_eq_error`: where a computation fails.
* `Outcome.Ends`: what a result has and what a failure has, with one rule for each way to put
  computations together.
-/

namespace SchemaTypes

namespace Outcome

variable {ε ε' α β : Type}

theorem bind_eq_ok {first : Except ε α} {next : α → Except ε β} {result : β} :
    first >>= next = .ok result ↔ ∃ value, first = .ok value ∧ next value = .ok result := by
  cases first with
  | ok value => simp [bind, Except.bind]
  | error fault => simp [bind, Except.bind]

theorem bind_eq_error {first : Except ε α} {next : α → Except ε β} {fault : ε} :
    first >>= next = .error fault ↔
      first = .error fault ∨ ∃ value, first = .ok value ∧ next value = .error fault := by
  cases first with
  | ok value => simp [bind, Except.bind]
  | error own => simp [bind, Except.bind]

theorem map_eq_ok {first : Except ε α} {convert : α → β} {result : β} :
    convert <$> first = .ok result ↔ ∃ value, first = .ok value ∧ convert value = result := by
  cases first with
  | ok value => simp [Functor.map, Except.map]
  | error fault => simp [Functor.map, Except.map]

theorem mapError_eq_ok {first : Except ε α} {convert : ε → ε'} {result : α} :
    first.mapError convert = .ok result ↔ first = .ok result := by
  cases first with
  | ok value => simp [Except.mapError]
  | error fault => simp [Except.mapError]

theorem pure_eq_ok {value result : α} :
    (pure value : Except ε α) = .ok result ↔ value = result := by
  simp [pure, Except.pure]

/-- A check that fails is the end. -/
theorem throw_if_eq_ok {refused : Prop} [Decidable refused] {fault : ε} {next : PUnit → Except ε α}
    {result : α} :
    (if refused then throw fault >>= next else next ⟨⟩) = .ok result ↔
      ¬refused ∧ next ⟨⟩ = .ok result := by
  split
  · rename_i hrefused
    exact iff_of_false nofun fun hnext => hnext.1 hrefused
  · rename_i hpassed
    exact (and_iff_right hpassed).symm

/-- A computation that yields a value of some kind is a success. -/
theorem exists_ok_of_any {result : Except ε α} {check : α → Bool}
    (hcheck : result.toOption.any check = true) :
    ∃ value, result = .ok value ∧ check value = true := by
  cases result with
  | ok value => exact ⟨value, rfl, hcheck⟩
  | error fault => cases hcheck

theorem mapM_cons_eq_ok {step : α → Except ε β} {item : α} {rest : List α} {results : List β} :
    (item :: rest).mapM step = .ok results ↔
      ∃ result others, step item = .ok result ∧ rest.mapM step = .ok others ∧
        results = result :: others := by
  rw [List.mapM_cons]
  simp only [bind_eq_ok, pure_eq_ok]
  constructor
  · rintro ⟨result, hstep, others, hothers, rfl⟩
    exact ⟨result, others, hstep, hothers, rfl⟩
  · rintro ⟨result, others, hstep, hothers, rfl⟩
    exact ⟨result, hstep, others, hothers, rfl⟩

theorem exists_of_mem_mapM {step : α → Except ε β} {items : List α} {results : List β}
    (hresults : items.mapM step = .ok results) {result : β} (hresult : result ∈ results) :
    ∃ item ∈ items, step item = .ok result := by
  induction items generalizing results with
  | nil =>
      obtain rfl := pure_eq_ok.mp hresults
      cases hresult
  | cons item rest ih =>
      obtain ⟨first, others, hfirst, hothers, rfl⟩ := mapM_cons_eq_ok.mp hresults
      rcases List.mem_cons.mp hresult with rfl | hlater
      · exact ⟨item, List.mem_cons_self, hfirst⟩
      · obtain ⟨other, hother, hstep⟩ := ih hothers hlater
        exact ⟨other, List.mem_cons_of_mem _ hother, hstep⟩

/-- What each step keeps of its item, the whole list of results keeps. -/
theorem map_eq_of_mapM {γ : Type} {step : α → Except ε β} {ofResult : β → γ} {ofItem : α → γ}
    (hstep : ∀ item result, step item = .ok result → ofResult result = ofItem item)
    {items : List α} {results : List β} (hresults : items.mapM step = .ok results) :
    results.map ofResult = items.map ofItem := by
  induction items generalizing results with
  | nil =>
      obtain rfl := pure_eq_ok.mp hresults
      rfl
  | cons item rest ih =>
      obtain ⟨result, others, hresult, hothers, rfl⟩ := mapM_cons_eq_ok.mp hresults
      rw [List.map_cons, List.map_cons, hstep item result hresult, ih hothers]

theorem exists_of_mem_mapM_option {step : α → Option β} {items : List α} {results : List β}
    (hresults : items.mapM step = some results) {result : β} (hresult : result ∈ results) :
    ∃ item ∈ items, step item = some result := by
  induction items generalizing results with
  | nil =>
      obtain rfl := Option.some.inj hresults
      cases hresult
  | cons item rest ih =>
      rw [List.mapM_cons] at hresults
      obtain ⟨first, hfirst, hresults⟩ := Option.bind_eq_some_iff.mp hresults
      obtain ⟨others, hothers, hsame⟩ := Option.bind_eq_some_iff.mp hresults
      obtain rfl := Option.some.inj hsame
      rcases List.mem_cons.mp hresult with rfl | hlater
      · exact ⟨item, List.mem_cons_self, hfirst⟩
      · obtain ⟨other, hother, hstep⟩ := ih hothers hlater
        exact ⟨other, List.mem_cons_of_mem _ hother, hstep⟩

/-- Two ways to take the same steps agree exactly if they do for every result. -/
theorem mapM_eq_some_iff_of_mapM {step other : α → Option β} {property : β → Prop} {items : List α}
    {results : List β} (hresults : items.mapM step = some results)
    (hstep : ∀ item ∈ items, ∀ result, step item = some result →
      (other item = some result ↔ property result)) :
    items.mapM other = some results ↔ ∀ result ∈ results, property result := by
  induction items generalizing results with
  | nil =>
      obtain rfl := Option.some.inj hresults
      exact iff_of_true rfl (List.forall_mem_nil _)
  | cons item rest ih =>
      rw [List.forall_mem_cons] at hstep
      rw [List.mapM_cons] at hresults
      obtain ⟨first, hfirst, hresults⟩ := Option.bind_eq_some_iff.mp hresults
      obtain ⟨others, hothers, hsame⟩ := Option.bind_eq_some_iff.mp hresults
      obtain rfl := Option.some.inj hsame
      rw [List.forall_mem_cons, ← hstep.1 first hfirst, ← ih hothers hstep.2, List.mapM_cons]
      cases other item with
      | none => simp
      | some own => cases rest.mapM other <;> simp

/-- A loop that comes to an end has taken every step. -/
theorem exists_step_of_foldlM {σ : Type} {step : σ → α → Except ε σ} {items : List α}
    {state result : σ} (hresult : items.foldlM step state = .ok result) {item : α}
    (hitem : item ∈ items) : ∃ before after, step before item = .ok after := by
  induction items generalizing state with
  | nil => cases hitem
  | cons first rest ih =>
      rw [List.foldlM_cons] at hresult
      obtain ⟨middle, hmiddle, hrest⟩ := bind_eq_ok.mp hresult
      rcases List.mem_cons.mp hitem with rfl | hlater
      · exact ⟨state, middle, hmiddle⟩
      · exact ih hrest hlater

/-- A loop fails at the first step that fails. -/
theorem foldlM_eq_error {σ : Type} {step : σ → α → Except ε σ} {items : List α} {state : σ}
    {fault : ε} :
    items.foldlM step state = .error fault ↔
      ∃ before item after middle, items = before ++ item :: after ∧
        before.foldlM step state = .ok middle ∧ step middle item = .error fault := by
  constructor
  · intro hfault
    induction items generalizing state with
    | nil => cases hfault
    | cons first rest ih =>
        rw [List.foldlM_cons, bind_eq_error] at hfault
        rcases hfault with hfirst | ⟨next, hnext, hrest⟩
        · exact ⟨[], first, rest, state, rfl, rfl, hfirst⟩
        · obtain ⟨before, item, after, middle, rfl, hbefore, hitem⟩ := ih hrest
          refine ⟨first :: before, item, after, middle, rfl, ?_, hitem⟩
          rw [List.foldlM_cons, hnext]
          exact hbefore
  · rintro ⟨before, item, after, middle, rfl, hbefore, hitem⟩
    rw [List.foldlM_append, hbefore]
    exact bind_eq_error.mpr (.inr ⟨middle, rfl, bind_eq_error.mpr (.inl hitem)⟩)

theorem foldlM_congr {σ : Type} {step step' : σ → α → Except ε σ} {items : List α}
    (hstep : ∀ item ∈ items, ∀ state, step state item = step' state item) (state : σ) :
    items.foldlM step state = items.foldlM step' state := by
  induction items generalizing state with
  | nil => rfl
  | cons item rest ih =>
      rw [List.forall_mem_cons] at hstep
      rw [List.foldlM_cons, List.foldlM_cons, hstep.1]
      exact bind_congr fun middle => ih hstep.2 middle

/-- A loop over the items that others stand for is a loop of loops. -/
theorem foldlM_flatMap_eq {σ : Type} (parts : α → List β) (step : σ → β → Except ε σ)
    (items : List α) (state : σ) :
    (items.flatMap parts).foldlM step state =
      items.foldlM (fun state item => (parts item).foldlM step state) state := by
  induction items generalizing state with
  | nil => rfl
  | cons item rest ih =>
      rw [List.flatMap_cons, List.foldlM_append, List.foldlM_cons]
      exact bind_congr fun middle => ih middle

/-! ## Results and failures -/

/-- What the result of a computation is like, and what its failures are like. -/
structure Ends (first : Except ε α) (success : α → Prop) (failure : ε → Prop) : Prop where
  ok : ∀ value, first = .ok value → success value
  error : ∀ fault, first = .error fault → failure fault

namespace Ends

variable {success : α → Prop} {failure : ε → Prop}

theorem of_ok {value : α} (hvalue : success value) :
    Ends (.ok value : Except ε α) success failure :=
  ⟨fun _ hsame => Except.ok.inj hsame ▸ hvalue, nofun⟩

theorem of_error {fault : ε} (hfault : failure fault) :
    Ends (.error fault : Except ε α) success failure :=
  ⟨nofun, fun _ hsame => Except.error.inj hsame ▸ hfault⟩

theorem mono {success' : α → Prop} {failure' : ε → Prop} {first : Except ε α}
    (hfirst : Ends first success failure) (hsuccess : ∀ value, success value → success' value)
    (hfailure : ∀ fault, failure fault → failure' fault) : Ends first success' failure' :=
  ⟨fun value hvalue => hsuccess value (hfirst.ok value hvalue),
    fun fault hfault => hfailure fault (hfirst.error fault hfault)⟩

/-- Two steps: the second one may rely on the result of the first. -/
theorem bind {success' : β → Prop} {first : Except ε α} {next : α → Except ε β}
    (hfirst : Ends first success failure)
    (hnext : ∀ value, first = .ok value → success value → Ends (next value) success' failure) :
    Ends (first >>= next) success' failure := by
  cases first with
  | ok value => exact hnext value rfl (hfirst.ok value rfl)
  | error fault => exact of_error (hfirst.error fault rfl)

/-- A step for each item of a list. -/
theorem mapM {success : α → β → Prop} {step : α → Except ε β} {items : List α}
    (hstep : ∀ item ∈ items, Ends (step item) (success item) failure) :
    Ends (items.mapM step) (fun results => ∀ result ∈ results, ∃ item ∈ items, success item result)
      failure := by
  induction items with
  | nil => exact of_ok (List.forall_mem_nil _)
  | cons item rest ih =>
      rw [List.forall_mem_cons] at hstep
      rw [List.mapM_cons]
      refine hstep.1.bind fun first _ hfirst => (ih hstep.2).bind fun others _ hothers => of_ok ?_
      rw [List.forall_mem_cons]
      refine ⟨⟨item, List.mem_cons_self, hfirst⟩, fun other hother => ?_⟩
      obtain ⟨origin, horigin, hsuccess⟩ := hothers other hother
      exact ⟨origin, List.mem_cons_of_mem _ horigin, hsuccess⟩

/-- A loop with an invariant.  Each step may rely on the steps before it. -/
theorem foldlM {σ : Type} {invariant : σ → Prop} {step : σ → α → Except ε σ} {items : List α}
    {state : σ} (hstate : invariant state)
    (hstep : ∀ before item after middle, items = before ++ item :: after →
      before.foldlM step state = .ok middle → invariant middle →
        Ends (step middle item) invariant failure) :
    Ends (items.foldlM step state) invariant failure := by
  induction items using List.reverseRecOn with
  | nil => exact of_ok hstate
  | append_singleton before last ih =>
      rw [List.foldlM_append]
      refine (ih fun earlier item after middle hitems => ?_).bind
        fun middle hmiddle hinvariant => ?_
      · exact hstep earlier item (after ++ [last]) middle (by simp [hitems])
      · rw [List.foldlM_cons]
        exact (hstep before last [] middle rfl hmiddle hinvariant).bind fun result _ => of_ok

end Ends

end Outcome

end SchemaTypes
