import Mathlib.Data.Finset.Card
import Mathlib.Logic.Relation
import Mathlib.Tactic
import SchemaTypes.Schema.Cycle

/-!
# Walks over a reference graph

A walk leaves no node behind whose neighbours it has not seen.  Nodes that reach each other are
therefore left behind on the same walk, whatever the order in which walks start, and a node on a
cycle is in a component that counts as cyclic.

* `ReferenceGraph.Continues`: how a walk goes on.
* `ReferenceGraph.visit_continues`: visiting a node continues the walk.
* `ReferenceGraph.mem_component`: components do not part nodes that reach each other.
* `ReferenceGraph.mem_cycles`: every node on a cycle is reported.
-/

namespace SchemaTypes

namespace ReferenceGraph

variable {neighbours : String → List String} {nodes : List String}

/-! ## How a walk goes on -/

/-- The second walk goes on from the first, over some nodes.  What it has seen meanwhile is
finished, with all neighbours seen. -/
structure Continues (neighbours : String → List String) (nodes : List String)
    (walk result : Walk) : Prop where
  seen : walk.seen ⊆ result.seen
  within : ∀ node ∈ result.seen, node ∈ walk.seen ∨ node ∈ nodes
  finished : ∀ node, node ∈ result.finished ↔
    node ∈ walk.finished ∨ (node ∈ result.seen ∧ node ∉ walk.seen)
  closed : ∀ node ∈ result.seen, node ∉ walk.seen → neighbours node ⊆ result.seen

theorem Continues.refl (walk : Walk) : Continues neighbours nodes walk walk where
  seen := List.Subset.refl _
  within _ := .inl
  finished node := by tauto
  closed node hseen hunseen := absurd hseen hunseen

theorem Continues.trans {first second third : Walk}
    (hfirst : Continues neighbours nodes first second)
    (hsecond : Continues neighbours nodes second third) :
    Continues neighbours nodes first third where
  seen := List.Subset.trans hfirst.seen hsecond.seen
  within node hnode := (hsecond.within node hnode).elim (hfirst.within node) .inr
  finished node := by
    have hearlier : node ∈ first.seen → node ∈ second.seen := fun hseen => hfirst.seen hseen
    have hlater : node ∈ second.seen → node ∈ third.seen := fun hseen => hsecond.seen hseen
    rw [hsecond.finished, hfirst.finished]
    tauto
  closed node hseen hunseen := by
    by_cases hmiddle : node ∈ second.seen
    · exact List.Subset.trans (hfirst.closed node hmiddle hunseen) hsecond.seen
    · exact hsecond.closed node hseen hmiddle

/-- How many nodes a walk has not seen. -/
def unseen (nodes : List String) (walk : Walk) : Nat :=
  (nodes.toFinset \ walk.seen.toFinset).card

theorem unseen_anti {walk result : Walk} (hseen : walk.seen ⊆ result.seen) :
    unseen nodes result ≤ unseen nodes walk := by
  refine Finset.card_le_card (Finset.sdiff_subset_sdiff (Finset.Subset.refl _) ?_)
  intro node hnode
  rw [List.mem_toFinset] at hnode ⊢
  exact hseen hnode

theorem unseen_lt {finished : List String} {node : String} {walk : Walk}
    (hnode : node ∈ nodes) (hunseen : node ∉ walk.seen) :
    unseen nodes ⟨node :: walk.seen, finished⟩ < unseen nodes walk := by
  refine Finset.card_lt_card (Finset.ssubset_iff_of_subset ?_ |>.mpr ⟨node, ?_, ?_⟩)
  · intro other hother
    simp only [Finset.mem_sdiff, List.mem_toFinset, List.mem_cons, not_or] at hother ⊢
    exact ⟨hother.1, hother.2.2⟩
  · simp [hnode, hunseen]
  · simp

/-- Marking a node uses up one unit of fuel and one unseen node. -/
theorem unseen_lt_fuel {finished : List String} {node : String} {walk : Walk} {fuel : Nat}
    (hnode : node ∈ nodes) (hunseen : node ∉ walk.seen) (hfuel : unseen nodes walk < fuel + 1) :
    unseen nodes ⟨node :: walk.seen, finished⟩ < fuel :=
  lt_of_lt_of_le (unseen_lt hnode hunseen) (Nat.le_of_lt_succ hfuel)

/-- Walking to several nodes in turn continues the walk, if walking to one does. -/
theorem foldl_continues {step : Walk → String → Walk} {bound : Nat}
    (hstep : ∀ walk, ∀ node ∈ nodes, unseen nodes walk < bound →
      Continues neighbours nodes walk (step walk node) ∧ node ∈ (step walk node).seen)
    {goals : List String} (hgoals : goals ⊆ nodes) {walk : Walk}
    (hbound : unseen nodes walk < bound) :
    Continues neighbours nodes walk (goals.foldl step walk) ∧
      goals ⊆ (goals.foldl step walk).seen := by
  induction goals generalizing walk with
  | nil => exact ⟨.refl walk, List.nil_subset _⟩
  | cons goal rest ih =>
      obtain ⟨hgoal, hrest⟩ := List.cons_subset.mp hgoals
      obtain ⟨hfirst, hseen⟩ := hstep walk goal hgoal hbound
      obtain ⟨hlater, hall⟩ := ih hrest ((unseen_anti hfirst.seen).trans_lt hbound)
      exact ⟨hfirst.trans hlater, List.cons_subset.mpr ⟨hlater.seen hseen, hall⟩⟩

/-- **A visit continues the walk** and sees the node, when there is fuel for all unseen nodes. -/
theorem visit_continues (hnodes : ∀ node ∈ nodes, neighbours node ⊆ nodes)
    {fuel : Nat} {node : String} (hnode : node ∈ nodes) {walk : Walk}
    (hfuel : unseen nodes walk < fuel) :
    Continues neighbours nodes walk (visit neighbours fuel node walk) ∧
      node ∈ (visit neighbours fuel node walk).seen := by
  induction fuel generalizing node walk with
  | zero => omega
  | succ fuel ih =>
      rw [visit]
      split
      · -- a node that has been seen before is not visited again
        rename_i hseen
        exact ⟨.refl walk, by simpa using hseen⟩
      · rename_i hunseen
        have hunseen : node ∉ walk.seen := by simpa using hunseen
        have hless : unseen nodes ⟨node :: walk.seen, walk.finished⟩ < fuel :=
          unseen_lt_fuel hnode hunseen hfuel
        have hgoals : (neighbours node).reverse ⊆ nodes :=
          List.reverse_subset.mpr (hnodes node hnode)
        obtain ⟨hinner, hneighbours⟩ := foldl_continues
          (fun walk next hnext hbound => ih hnext hbound) hgoals hless
        have hown := hinner.seen List.mem_cons_self
        refine ⟨⟨fun other hother => hinner.seen (List.mem_cons_of_mem _ hother), ?_, ?_, ?_⟩, hown⟩
        · intro other hother
          rcases hinner.within other hother with hearlier | hwithin
          · rcases List.mem_cons.mp hearlier with rfl | hearlier
            · exact .inr hnode
            · exact .inl hearlier
          · exact .inr hwithin
        · -- the node itself is finished last, after everything seen below it
          intro other
          simp only [List.mem_cons, hinner.finished, not_or]
          constructor
          · rintro (rfl | hearlier | ⟨hseen, hother, hlater⟩)
            · exact .inr ⟨hown, hunseen⟩
            · exact .inl hearlier
            · exact .inr ⟨hseen, hlater⟩
          · rintro (hearlier | ⟨hseen, hlater⟩)
            · exact .inr (.inl hearlier)
            · by_cases hother : other = node
              · exact .inl hother
              · exact .inr (.inr ⟨hseen, hother, hlater⟩)
        · intro other hseen hlater
          by_cases hother : other = node
          · rw [hother]
            exact List.reverse_subset.mp hneighbours
          · exact hinner.closed other hseen (by simp [hother, hlater])

/-! ## Components -/

variable {graph : ReferenceGraph}

/-- One node refers to another. -/
def Refers (graph : ReferenceGraph) (source target : String) : Prop :=
  (source, target) ∈ graph.edges

theorem mem_targets {source target : String} :
    target ∈ graph.targets source ↔ graph.Refers source target := by
  simp [targets, Refers]

theorem mem_sources {source target : String} :
    source ∈ graph.sources target ↔ graph.Refers source target := by
  simp [sources, Refers]

/-- Both ends of every edge are nodes. -/
def EndsAtNodes (graph : ReferenceGraph) : Prop :=
  ∀ source target, graph.Refers source target → source ∈ graph.nodes ∧ target ∈ graph.nodes

theorem unseen_lt_length (nodes : List String) (walk : Walk) :
    unseen nodes walk < nodes.length + 1 := by
  refine Nat.lt_succ_of_le (le_trans (Finset.card_le_card ?_) nodes.toFinset_card_le)
  exact Finset.sdiff_subset

/-- The first pass finishes all nodes. -/
theorem mem_finishOrder (hends : graph.EndsAtNodes) {node : String} :
    node ∈ graph.finishOrder ↔ node ∈ graph.nodes := by
  have hnodes : ∀ node ∈ graph.nodes, graph.sources node ⊆ graph.nodes :=
    fun node _ source hsource => (hends source node (mem_sources.mp hsource)).1
  obtain ⟨hwalk, hseen⟩ := foldl_continues
    (fun walk node hnode _ => visit_continues hnodes hnode (unseen_lt_length graph.nodes walk))
    (List.Subset.refl graph.nodes) (unseen_lt_length graph.nodes ⟨[], []⟩)
  refine (hwalk.finished node).trans ⟨?_, fun hnode => .inr ⟨hseen hnode, List.not_mem_nil⟩⟩
  rintro (hnone | ⟨hnode, -⟩)
  · cases hnone
  · exact (hwalk.within node hnode).resolve_left List.not_mem_nil

/-- What is closed under targets is closed under reachability. -/
theorem mem_of_reachable {seen : List String} (hclosed : ∀ node ∈ seen, graph.targets node ⊆ seen)
    {node other : String} (hnode : node ∈ seen)
    (hreach : Relation.ReflTransGen graph.Refers node other) : other ∈ seen := by
  induction hreach with
  | refl => exact hnode
  | tail _ hstep ih => exact hclosed _ ih (mem_targets.mpr hstep)

/-- A round of the second pass sees its leader, what it has seen stays closed under targets, and its
component is what it has seen anew. -/
theorem visit_round (hends : graph.EndsAtNodes) {leader : String} (hleader : leader ∈ graph.nodes)
    {seen : List String} (hclosed : ∀ node ∈ seen, graph.targets node ⊆ seen) {walk : Walk}
    (hwalk : visit graph.targets (graph.nodes.length + 1) leader ⟨seen, []⟩ = walk) :
    seen ⊆ walk.seen ∧ leader ∈ walk.seen ∧ (∀ node ∈ walk.seen, graph.targets node ⊆ walk.seen) ∧
      ∀ node, node ∈ walk.finished ↔ node ∈ walk.seen ∧ node ∉ seen := by
  have hnodes : ∀ node ∈ graph.nodes, graph.targets node ⊆ graph.nodes :=
    fun node _ target htarget => (hends node target (mem_targets.mp htarget)).2
  obtain ⟨hcontinues, hown⟩ :=
    visit_continues hnodes hleader (unseen_lt_length graph.nodes ⟨seen, []⟩)
  rw [hwalk] at hcontinues hown
  refine ⟨hcontinues.seen, hown, fun node hnode => ?_, fun node => ?_⟩
  · by_cases hearlier : node ∈ seen
    · exact List.Subset.trans (hclosed node hearlier) hcontinues.seen
    · exact hcontinues.closed node hnode hearlier
  · exact (hcontinues.finished node).trans (or_iff_right List.not_mem_nil)

/-- **Components are not parted.**  The component of a node holds all nodes that reach it and are
reached from it. -/
theorem mem_component (hends : graph.EndsAtNodes) {seen order : List String}
    (hclosed : ∀ node ∈ seen, graph.targets node ⊆ seen) (horder : order ⊆ graph.nodes)
    {node : String} (hnode : node ∈ order) :
    node ∈ seen ∨ ∃ component ∈ components graph seen order, node ∈ component ∧
      ∀ other, Relation.ReflTransGen graph.Refers node other →
        Relation.ReflTransGen graph.Refers other node → other ∈ component := by
  induction order generalizing seen with
  | nil => cases hnode
  | cons leader rest ih =>
      obtain ⟨hleader, hrest⟩ := List.cons_subset.mp horder
      rw [components]
      split
      · rename_i hseen
        rcases List.mem_cons.mp hnode with rfl | hlater
        · exact .inl (by simpa using hseen)
        · exact ih hclosed hrest hlater
      · dsimp only
        generalize hwalk : visit graph.targets (graph.nodes.length + 1) leader ⟨seen, []⟩ = walk
        -- what has been seen stays closed under targets, which carries the induction
        obtain ⟨-, hown, hwalkClosed, hfinished⟩ := visit_round hends hleader hclosed hwalk
        by_cases hearlier : node ∈ seen
        · exact .inl hearlier
        · right
          by_cases hnow : node ∈ walk.seen
          · refine ⟨walk.finished, List.mem_cons_self, (hfinished node).mpr ⟨hnow, hearlier⟩,
              fun other hto hfrom => ?_⟩
            -- had the other node been seen earlier, so had the node that it reaches
            refine (hfinished other).mpr ⟨mem_of_reachable hwalkClosed hnow hto, ?_⟩
            exact fun hother => hearlier (mem_of_reachable hclosed hother hfrom)
          · have hlater : node ∈ rest := by
              rcases List.mem_cons.mp hnode with rfl | hlater
              · exact absurd hown hnow
              · exact hlater
            obtain ⟨component, hcomponent, hinside⟩ :=
              (ih hwalkClosed hrest hlater).resolve_left hnow
            exact ⟨component, List.mem_cons_of_mem _ hcomponent, hinside⟩

/-- A node that reaches itself is in one of the cycles, with everything that shares its
component. -/
theorem exists_cycle_of_transGen (hends : graph.EndsAtNodes) {node : String}
    (hcycle : Relation.TransGen graph.Refers node node) :
    ∃ group ∈ graph.cycles, node ∈ group ∧
      ∀ other, Relation.ReflTransGen graph.Refers node other →
        Relation.ReflTransGen graph.Refers other node → other ∈ group := by
  obtain ⟨next, hstep, hback⟩ := Relation.TransGen.head'_iff.mp hcycle
  have hnode := (mem_finishOrder hends).mpr (hends node next hstep).1
  have horder : graph.finishOrder ⊆ graph.nodes := fun _ => (mem_finishOrder hends).mp
  obtain ⟨component, hcomponent, hown, hall⟩ :=
    (mem_component hends (by simp) horder hnode).resolve_left List.not_mem_nil
  have hnext : next ∈ component := hall next (.single hstep) hback
  have hcyclic : graph.isCyclic component := by
    unfold isCyclic
    split
    · -- a component of one node is cyclic only by a reference to itself
      obtain rfl := List.mem_singleton.mp hown
      obtain rfl := List.mem_singleton.mp hnext
      exact List.contains_iff_mem.mpr hstep
    · rename_i hlength
      match component, hown, hlength with
      | first :: second :: rest, _, _ => simp
      | [own], _, hlength => exact absurd rfl (hlength own)
  refine ⟨sortTexts component, ?_, List.mem_mergeSort.mpr hown, fun other hto hfrom => ?_⟩
  · exact List.mem_map_of_mem (List.mem_filter.mpr ⟨hcomponent, hcyclic⟩)
  · exact List.mem_mergeSort.mpr (hall other hto hfrom)

/-- **Cycles are reported.**  A node that reaches itself is in one of the cycles. -/
theorem mem_cycles (hends : graph.EndsAtNodes) {node : String}
    (hcycle : Relation.TransGen graph.Refers node node) : node ∈ graph.cycles.flatten := by
  obtain ⟨group, hgroup, hown, -⟩ := exists_cycle_of_transGen hends hcycle
  exact List.mem_flatten.mpr ⟨group, hgroup, hown⟩

end ReferenceGraph

end SchemaTypes
