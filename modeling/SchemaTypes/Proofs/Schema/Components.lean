import SchemaTypes.Generation.Run
import SchemaTypes.Proofs.Schema.Tracing

/-!
# Reference cycles are found exactly

The first pass over the graph of references walks along incoming edges and leaves every node behind
once.  The second pass goes through the nodes from the one left behind last and follows outgoing
edges.  This file shows that what each round of the second pass collects is a strongly connected
component, so that the groups reported as cycles are the cyclic components and nothing else.

## Strategy

It is known already that components are not parted (`ReferenceGraph.mem_component`).  What remains
is that they are not merged: whatever a round reaches from its leader leads back to the leader.  The
order of the first pass is responsible for that, through the property `Ordered`: when some node
leads to another, then somewhere in the component of the first is a node that is left behind no
earlier than the second.  The invariant `Explored` carries the property along a walk.  Of a walk
that is under way it says that the nodes that are still open lead to each other from the outside in,
and that a node left behind which leads to an open node shares its component with one.

* `ReferenceGraph.visit_explored`: visiting a node keeps the invariant.
* `ReferenceGraph.connected_of_mem_component`: the nodes of one component reach each other.
* `ReferenceGraph.exists_cycle_iff`: two nodes share a group exactly when each reaches the other.
* `referenceCycles_exact`: the groups of a document.
-/

namespace SchemaTypes

namespace ReferenceGraph

variable {neighbours : String → List String} {nodes : List String}

/-! ## Order in which nodes are left behind -/

/-- Some steps lead from one node to another. -/
def Reaches (neighbours : String → List String) : String → String → Prop :=
  Relation.ReflTransGen fun source target => target ∈ neighbours source

/-- Two nodes lie in one strongly connected component. -/
def Connected (neighbours : String → List String) (node other : String) : Prop :=
  Reaches neighbours node other ∧ Reaches neighbours other node

/-- A list of nodes, the one left behind last at the front.  Whatever leads to a node shares its
component with some node that has not been left behind before. -/
def Ordered (neighbours : String → List String) : List String → Prop
  | [] => True
  | node :: earlier =>
    (∀ other, Reaches neighbours other node → ∃ own, Connected neighbours other own ∧
      own ∉ earlier) ∧ Ordered neighbours earlier

/-- A walk under way.  The open nodes, the innermost first, have been seen but not left behind. -/
structure Explored (neighbours : String → List String) (opened : List String) (walk : Walk) :
    Prop where
  seen : ∀ node, node ∈ walk.seen ↔ node ∈ opened ∨ node ∈ walk.finished
  distinct : opened.Nodup
  apart : ∀ node ∈ opened, node ∉ walk.finished
  closed : ∀ node ∈ walk.finished, neighbours node ⊆ walk.seen
  nested : opened.Pairwise fun inner outer => Reaches neighbours outer inner
  returns : ∀ node ∈ walk.finished, ∀ outer ∈ opened, Reaches neighbours node outer →
    ∃ own ∈ opened, Connected neighbours node own
  ordered : Ordered neighbours walk.finished

namespace Explored

variable {opened : List String} {walk : Walk} {node : String}

theorem start : Explored neighbours [] ⟨[], []⟩ where
  seen := by simp
  distinct := .nil
  apart := by simp
  closed := by simp
  nested := .nil
  returns := by simp
  ordered := trivial

/-- A way from what has been left behind to anything else passes through an open node. -/
theorem exists_opened (hwalk : Explored neighbours opened walk) {other : String}
    (hnode : node ∈ walk.finished) (hother : other ∉ walk.finished)
    (hreach : Reaches neighbours node other) :
    ∃ outer ∈ opened, Reaches neighbours node outer := by
  induction hreach using Relation.ReflTransGen.head_induction_on with
  | refl => exact absurd hnode hother
  | @head first next hstep _ ih =>
      rcases (hwalk.seen next).mp (hwalk.closed first hnode hstep) with hopen | hfinished
      · exact ⟨next, hopen, .single hstep⟩
      · obtain ⟨outer, houter, hreach⟩ := ih hfinished
        exact ⟨outer, houter, .head hstep hreach⟩

/-- Entering a node that has not been seen. -/
theorem enter (hwalk : Explored neighbours opened walk) (hunseen : node ∉ walk.seen)
    (hreach : ∀ outer ∈ opened, Reaches neighbours outer node) :
    Explored neighbours (node :: opened) ⟨node :: walk.seen, walk.finished⟩ where
  seen other := by
    simp only [List.mem_cons, hwalk.seen]
    tauto
  distinct := List.nodup_cons.mpr
    ⟨fun hopen => hunseen ((hwalk.seen node).mpr (.inl hopen)), hwalk.distinct⟩
  apart other hother hfinished := by
    rcases List.mem_cons.mp hother with rfl | hother
    · exact hunseen ((hwalk.seen other).mpr (.inr hfinished))
    · exact hwalk.apart other hother hfinished
  closed other hother := List.subset_cons_of_subset node (hwalk.closed other hother)
  nested := List.pairwise_cons.mpr ⟨hreach, hwalk.nested⟩
  returns other hother outer houter hback := by
    -- the way to the new node has passed through a node that was open before
    have hearlier : ∃ old ∈ opened, Reaches neighbours other old := by
      rcases List.mem_cons.mp houter with rfl | houter
      · refine hwalk.exists_opened hother (fun hfinished => hunseen ?_) hback
        exact (hwalk.seen outer).mpr (.inr hfinished)
      · exact ⟨outer, houter, hback⟩
    obtain ⟨old, hold, hreach⟩ := hearlier
    obtain ⟨own, hown, hconnected⟩ := hwalk.returns other hother old hold hreach
    exact ⟨own, List.mem_cons_of_mem _ hown, hconnected⟩
  ordered := hwalk.ordered

/-- Leaving the innermost node behind, after all its neighbours have been seen. -/
theorem leave (hwalk : Explored neighbours (node :: opened) walk)
    (hneighbours : neighbours node ⊆ walk.seen) :
    Explored neighbours opened ⟨walk.seen, node :: walk.finished⟩ where
  seen other := by
    simp only [hwalk.seen, List.mem_cons]
    tauto
  distinct := (List.nodup_cons.mp hwalk.distinct).2
  apart other hother hfinished := by
    rcases List.mem_cons.mp hfinished with rfl | hfinished
    · exact (List.nodup_cons.mp hwalk.distinct).1 hother
    · exact hwalk.apart other (List.mem_cons_of_mem _ hother) hfinished
  closed other hother := by
    rcases List.mem_cons.mp hother with rfl | hother
    · exact hneighbours
    · exact hwalk.closed other hother
  nested := (List.pairwise_cons.mp hwalk.nested).2
  returns other hother outer houter hreach := by
    have hinner := (List.pairwise_cons.mp hwalk.nested).1 outer houter
    -- what shares its component with the node that is left shares it with the outer node
    rcases List.mem_cons.mp hother with rfl | hother
    · exact ⟨outer, houter, hreach, hinner⟩
    · obtain ⟨own, hown, hto, hfrom⟩ :=
        hwalk.returns other hother outer (List.mem_cons_of_mem _ houter) hreach
      rcases List.mem_cons.mp hown with rfl | hown
      · exact ⟨outer, houter, hreach, hinner.trans hfrom⟩
      · exact ⟨own, hown, hto, hfrom⟩
  ordered := by
    refine ⟨fun other hreach => ?_, hwalk.ordered⟩
    by_cases hfinished : other ∈ walk.finished
    · obtain ⟨own, hown, hconnected⟩ :=
        hwalk.returns other hfinished node List.mem_cons_self hreach
      exact ⟨own, hconnected, hwalk.apart own hown⟩
    · exact ⟨other, ⟨.refl, .refl⟩, hfinished⟩

end Explored

/-- What single visits preserve is preserved when several nodes are visited in turn.  The fuel
lasts, since visits only add to what has been seen. -/
theorem foldl_visit_induction (hnodes : ∀ node ∈ nodes, neighbours node ⊆ nodes) {fuel : Nat}
    {goals : List String} (hgoals : goals ⊆ nodes) {walk : Walk} (hfuel : unseen nodes walk < fuel)
    {motive : Walk → Prop} (hstart : motive walk)
    (hvisit : ∀ inner, motive inner → unseen nodes inner < fuel → ∀ next ∈ goals,
      motive (visit neighbours fuel next inner)) :
    motive (goals.foldl (fun inner next => visit neighbours fuel next inner) walk) := by
  have hboth := List.foldlRecOn goals (fun inner next => visit neighbours fuel next inner)
    (motive := fun inner => motive inner ∧ unseen nodes inner < fuel) ⟨hstart, hfuel⟩
    (fun inner hinner next hnext => by
      refine ⟨hvisit inner hinner.1 hinner.2 next hnext, ?_⟩
      have hcontinues := (visit_continues hnodes (hgoals hnext) hinner.2).1
      exact (unseen_anti hcontinues.seen).trans_lt hinner.2)
  exact hboth.1

/-- **Visiting a node keeps the invariant**, when every open node leads to it and there is fuel for
all unseen nodes. -/
theorem visit_explored (hnodes : ∀ node ∈ nodes, neighbours node ⊆ nodes)
    {fuel : Nat} {opened : List String} {node : String} (hnode : node ∈ nodes) {walk : Walk}
    (hfuel : unseen nodes walk < fuel) (hwalk : Explored neighbours opened walk)
    (hreach : ∀ outer ∈ opened, Reaches neighbours outer node) :
    Explored neighbours opened (visit neighbours fuel node walk) := by
  induction fuel generalizing opened node walk with
  | zero => omega
  | succ fuel ih =>
      rw [visit]
      split
      · exact hwalk
      · rename_i hunseen
        have hunseen : node ∉ walk.seen := by simpa using hunseen
        have hless : unseen nodes ⟨node :: walk.seen, walk.finished⟩ < fuel :=
          unseen_lt_fuel hnode hunseen hfuel
        have hgoals : (neighbours node).reverse ⊆ nodes :=
          List.reverse_subset.mpr (hnodes node hnode)
        obtain ⟨-, hneighbours⟩ := foldl_continues
          (fun walk next hnext hbound => visit_continues hnodes hnext hbound) hgoals hless
        -- while the neighbours are visited the node is open, and leads to each of them
        refine (foldl_visit_induction hnodes hgoals hless (hwalk.enter hunseen hreach)
          fun inner hinner hbound next hnext => ?_).leave (List.reverse_subset.mp hneighbours)
        have hstep : Reaches neighbours node next := .single (List.mem_reverse.mp hnext)
        refine ih (hgoals hnext) hbound hinner fun outer houter => ?_
        rcases List.mem_cons.mp houter with rfl | houter
        · exact hstep
        · exact (hreach outer houter).trans hstep

/-! ## Components -/

variable {graph : ReferenceGraph}

theorem reaches_targets {source target : String} :
    Reaches graph.targets source target ↔ Relation.ReflTransGen graph.Refers source target := by
  unfold Reaches
  simp only [mem_targets]

theorem reaches_sources {source target : String} :
    Reaches graph.sources source target ↔ Relation.ReflTransGen graph.Refers target source := by
  unfold Reaches
  simp only [mem_sources]
  exact Relation.reflTransGen_swap

/-- The first pass leaves the nodes behind in order. -/
theorem ordered_finishOrder (hends : graph.EndsAtNodes) :
    Ordered graph.sources graph.finishOrder := by
  have hnodes : ∀ node ∈ graph.nodes, graph.sources node ⊆ graph.nodes :=
    fun node _ source hsource => (hends source node (mem_sources.mp hsource)).1
  have hall : Explored graph.sources [] (graph.nodes.foldl
      (fun walk node => visit graph.sources (graph.nodes.length + 1) node walk) ⟨[], []⟩) :=
    List.foldlRecOn graph.nodes _ .start fun walk hwalk node hnode =>
      visit_explored hnodes hnode (unseen_lt_length graph.nodes walk) hwalk (by simp)
  exact hall.ordered

/-- A visit sees nothing but what the node leads to. -/
theorem reaches_of_mem_visit {fuel : Nat} {node other : String} {walk : Walk}
    (hother : other ∈ (visit neighbours fuel node walk).seen) :
    other ∈ walk.seen ∨ Reaches neighbours node other := by
  induction fuel generalizing node walk other with
  | zero => exact .inl hother
  | succ fuel ih =>
      rw [visit] at hother
      split at hother
      · exact .inl hother
      · have hinner := List.foldlRecOn (neighbours node).reverse
          (fun walk next => visit neighbours fuel next walk)
          (b := { walk with seen := node :: walk.seen })
          (motive := fun inner => ∀ other ∈ inner.seen,
            other ∈ walk.seen ∨ Reaches neighbours node other)
          (fun other hown => by
            rcases List.mem_cons.mp hown with rfl | hearlier
            · exact .inr .refl
            · exact .inl hearlier)
          (fun inner hinner next hnext other hlater => by
            rcases ih hlater with hearlier | hreach
            · exact hinner other hearlier
            · exact .inr (.head (List.mem_reverse.mp hnext) hreach))
        exact hinner other hother

/-- A visit leaves no node behind twice. -/
theorem nodup_visit (hnodes : ∀ node ∈ nodes, neighbours node ⊆ nodes)
    {fuel : Nat} {node : String} (hnode : node ∈ nodes) {walk : Walk}
    (hfuel : unseen nodes walk < fuel) (hsubset : walk.finished ⊆ walk.seen)
    (hnodup : walk.finished.Nodup) : (visit neighbours fuel node walk).finished.Nodup := by
  induction fuel generalizing node walk with
  | zero => omega
  | succ fuel ih =>
      rw [visit]
      split
      · exact hnodup
      · rename_i hunseen
        have hunseen : node ∉ walk.seen := by simpa using hunseen
        have hless : unseen nodes ⟨node :: walk.seen, walk.finished⟩ < fuel :=
          unseen_lt_fuel hnode hunseen hfuel
        have hgoals : (neighbours node).reverse ⊆ nodes :=
          List.reverse_subset.mpr (hnodes node hnode)
        obtain ⟨hcontinues, -⟩ := foldl_continues
          (fun walk next hnext hbound => visit_continues hnodes hnext hbound) hgoals hless
        have hinner := foldl_visit_induction hnodes hgoals hless
          (motive := fun inner => inner.finished.Nodup ∧ inner.finished ⊆ inner.seen)
          ⟨hnodup, List.subset_cons_of_subset node hsubset⟩
          (fun inner hinner hbound next hnext => by
            have hstep := (visit_continues hnodes (hgoals hnext) hbound).1
            refine ⟨ih (hgoals hnext) hbound hinner.2 hinner.1, fun other hother => ?_⟩
            rcases (hstep.finished other).mp hother with hearlier | ⟨hseen, -⟩
            · exact hstep.seen (hinner.2 hearlier)
            · exact hseen)
        -- the node itself was seen before its neighbours, so none of them leaves it behind
        refine List.nodup_cons.mpr ⟨fun hfinished => ?_, hinner.1⟩
        rcases (hcontinues.finished node).mp hfinished with hearlier | ⟨-, hlater⟩
        · exact hunseen (hsubset hearlier)
        · exact hlater List.mem_cons_self

/-- **Components are not merged.**  Each round of the second pass collects nodes that reach each
other. -/
theorem connected_of_mem_component (hends : graph.EndsAtNodes) {seen order : List String}
    (hclosed : ∀ node ∈ seen, graph.targets node ⊆ seen) (horder : order ⊆ graph.nodes)
    (hcover : ∀ node ∈ graph.nodes, node ∈ seen ∨ node ∈ order)
    (hordered : Ordered graph.sources order) {component : List String}
    (hcomponent : component ∈ components graph seen order) {node other : String}
    (hnode : node ∈ component) (hother : other ∈ component) :
    Relation.ReflTransGen graph.Refers node other := by
  induction order generalizing seen with
  | nil => cases hcomponent
  | cons leader rest ih =>
      obtain ⟨hleader, hrest⟩ := List.cons_subset.mp horder
      rw [components] at hcomponent
      split at hcomponent
      · rename_i hseen
        refine ih hclosed hrest (fun own hown => ?_) hordered.2 hcomponent
        rcases hcover own hown with hearlier | hlater
        · exact .inl hearlier
        · rcases List.mem_cons.mp hlater with rfl | hlater
          · exact .inl (by simpa using hseen)
          · exact .inr hlater
      · dsimp only at hcomponent
        generalize hwalk : visit graph.targets (graph.nodes.length + 1) leader ⟨seen, []⟩ = walk
          at hcomponent
        obtain ⟨hgrows, hown, hwalkClosed, hfinished⟩ := visit_round hends hleader hclosed hwalk
        rcases List.mem_cons.mp hcomponent with rfl | hlater
        · -- everything that the leader has reached leads back to it
          have hround : ∀ own ∈ walk.finished, Relation.ReflTransGen graph.Refers leader own ∧
              Relation.ReflTransGen graph.Refers own leader := by
            intro own hmember
            obtain ⟨hnow, hnew⟩ := (hfinished own).mp hmember
            have hto : Relation.ReflTransGen graph.Refers leader own := by
              rw [← hwalk] at hnow
              exact reaches_targets.mp ((reaches_of_mem_visit hnow).resolve_left hnew)
            obtain ⟨mate, ⟨hforth, hback⟩, hlate⟩ := hordered.1 own (reaches_sources.mpr hto)
            have hforth := reaches_sources.mp hforth
            have hback := reaches_sources.mp hback
            have hmate : mate ∈ graph.nodes := by
              refine mem_of_reachable (fun own _ target htarget => ?_) hleader (hto.trans hback)
              exact (hends own target (mem_targets.mp htarget)).2
            -- a mate that was left behind later than the leader has been seen in an earlier round
            rcases hcover mate hmate with hearlier | hmate
            · exact absurd (mem_of_reachable hclosed hearlier hforth) hnew
            · obtain rfl := (List.mem_cons.mp hmate).resolve_right hlate
              exact ⟨hto, hback⟩
          exact (hround node hnode).2.trans (hround other hother).1
        · refine ih hwalkClosed hrest (fun own hmember => ?_) hordered.2 hlater
          rcases hcover own hmember with hearlier | hlater
          · exact .inl (hgrows hearlier)
          · rcases List.mem_cons.mp hlater with rfl | hlater
            · exact .inl hown
            · exact .inr hlater

/-- No node is collected twice. -/
theorem nodup_components (hends : graph.EndsAtNodes) {seen order : List String}
    (hclosed : ∀ node ∈ seen, graph.targets node ⊆ seen) (horder : order ⊆ graph.nodes) :
    (components graph seen order).flatten.Nodup ∧
      ∀ node ∈ (components graph seen order).flatten, node ∉ seen := by
  induction order generalizing seen with
  | nil => simp [components]
  | cons leader rest ih =>
      obtain ⟨hleader, hrest⟩ := List.cons_subset.mp horder
      rw [components]
      split
      · exact ih hclosed hrest
      · have hnodes : ∀ node ∈ graph.nodes, graph.targets node ⊆ graph.nodes :=
          fun node _ target htarget => (hends node target (mem_targets.mp htarget)).2
        have hround := nodup_visit hnodes hleader (unseen_lt_length graph.nodes ⟨seen, []⟩)
          (List.nil_subset _) .nil
        dsimp only
        generalize hwalk : visit graph.targets (graph.nodes.length + 1) leader ⟨seen, []⟩ = walk
          at hround
        obtain ⟨hgrows, -, hwalkClosed, hfinished⟩ := visit_round hends hleader hclosed hwalk
        obtain ⟨hlater, hapart⟩ := ih hwalkClosed hrest
        rw [List.flatten_cons]
        constructor
        · refine List.nodup_append'.mpr ⟨hround, hlater, fun node hnow hnode => ?_⟩
          exact hapart node hnode ((hfinished node).mp hnow).1
        · intro node hnode
          rcases List.mem_append.mp hnode with hnow | hnode
          · exact ((hfinished node).mp hnow).2
          · exact fun hearlier => hapart node hnode (hgrows hearlier)

/-! ## Groups that are reported -/

theorem mem_cycles_iff {group : List String} :
    group ∈ graph.cycles ↔
      ∃ component ∈ graph.stronglyConnected, graph.isCyclic component ∧
        sortTexts component = group := by
  simp only [cycles, List.mem_map, List.mem_filter, and_assoc]

theorem mem_sortTexts {texts : List String} {text : String} :
    text ∈ sortTexts texts ↔ text ∈ texts := List.mem_mergeSort

theorem pairwise_sortTexts (texts : List String) : (sortTexts texts).Pairwise (· ≤ ·) := by
  have hsorted := @List.pairwise_mergeSort _ (fun a b : String => decide (a ≤ b))
    (by simpa using fun _ _ _ => String.le_trans) (by simpa using String.le_total) texts
  simpa [sortTexts] using hsorted

theorem nodup_stronglyConnected (hends : graph.EndsAtNodes) :
    graph.stronglyConnected.flatten.Nodup :=
  (nodup_components hends (by simp) fun _ => (mem_finishOrder hends).mp).1

theorem connected_of_mem_stronglyConnected (hends : graph.EndsAtNodes) {component : List String}
    (hcomponent : component ∈ graph.stronglyConnected) {node other : String}
    (hnode : node ∈ component) (hother : other ∈ component) :
    Relation.ReflTransGen graph.Refers node other :=
  connected_of_mem_component hends (by simp) (fun _ => (mem_finishOrder hends).mp)
    (fun _ hown => .inr ((mem_finishOrder hends).mpr hown)) (ordered_finishOrder hends)
    hcomponent hnode hother

/-- No node is reported twice. -/
theorem nodup_cycles (hends : graph.EndsAtNodes) : graph.cycles.flatten.Nodup := by
  obtain ⟨hown, hapart⟩ := List.nodup_flatten.mp (nodup_stronglyConnected hends)
  refine List.nodup_flatten.mpr ⟨fun group hgroup => ?_, ?_⟩
  · obtain ⟨component, hcomponent, -, rfl⟩ := mem_cycles_iff.mp hgroup
    exact (List.mergeSort_perm _ _).nodup_iff.mpr (hown component hcomponent)
  · refine List.pairwise_map.mpr ((hapart.filter _).imp fun hdisjoint node hnode hother => ?_)
    exact hdisjoint (mem_sortTexts.mp hnode) (mem_sortTexts.mp hother)

/-- Nodes of one group reach each other in at least one step. -/
theorem transGen_of_mem_cycles (hends : graph.EndsAtNodes) {group : List String}
    (hgroup : group ∈ graph.cycles) {node other : String} (hnode : node ∈ group)
    (hother : other ∈ group) : Relation.TransGen graph.Refers node other := by
  obtain ⟨component, hcomponent, hcyclic, rfl⟩ := mem_cycles_iff.mp hgroup
  have hall {node other : String} (hnode : node ∈ component) (hother : other ∈ component) :=
    connected_of_mem_stronglyConnected hends hcomponent hnode hother
  rw [mem_sortTexts] at hnode hother
  rcases Relation.reflTransGen_iff_eq_or_transGen.mp (hall hnode hother) with hsame | hsteps
  · rw [hsame]
    unfold isCyclic at hcyclic
    split at hcyclic
    · -- the only node of a group refers to itself
      obtain rfl := List.mem_singleton.mp hnode
      exact .single (List.contains_iff_mem.mp hcyclic)
    · -- a node that is not alone leads to another one and back
      rename_i hlength
      have hnodup := (List.nodup_flatten.mp (nodup_stronglyConnected hends)).1 _ hcomponent
      rcases (hnodup.ne_singleton_iff node).mp (hlength node) with rfl | ⟨mate, hmate, hne⟩
      · cases hnode
      · have hto := Relation.reflTransGen_iff_eq_or_transGen.mp (hall hnode hmate)
        exact (hto.resolve_left hne).trans_left (hall hmate hnode)
  · exact hsteps

/-- **Groups are the cyclic components.**  Two nodes share a group exactly when each reaches the
other in at least one step. -/
theorem exists_cycle_iff (hends : graph.EndsAtNodes) {node other : String} :
    (∃ group ∈ graph.cycles, node ∈ group ∧ other ∈ group) ↔
      Relation.TransGen graph.Refers node other ∧ Relation.TransGen graph.Refers other node := by
  constructor
  · rintro ⟨group, hgroup, hnode, hother⟩
    exact ⟨transGen_of_mem_cycles hends hgroup hnode hother,
      transGen_of_mem_cycles hends hgroup hother hnode⟩
  · rintro ⟨hto, hfrom⟩
    obtain ⟨group, hgroup, hown, hall⟩ := exists_cycle_of_transGen hends (hto.trans hfrom)
    exact ⟨group, hgroup, hown, hall other hto.to_reflTransGen hfrom.to_reflTransGen⟩

end ReferenceGraph

/-! ## Cycles of a document -/

open ReferenceGraph

/-- One pointer refers to another.  The first is that of the root or of a definition, and the other
is the text of a local reference inside its schema. -/
def RefersIn [Spelling] (document : Json) (source target : String) : Prop :=
  ∃ schema, (source, schema) ∈ owners document (Definition.collect document) ∧
    target ∈ localReferences schema

/-- **Reference cycles are found exactly.**  Two pointers share a group when each is reached from
the other by at least one reference; in particular a pointer is in some group when it is reached
from itself.  Groups are never empty, each is sorted and no pointer occurs twice, and the pointers
that are marked as cyclic for looking up references are those that are reached from themselves. -/
theorem referenceCycles_exact [Spelling] (document : Json) :
    let cycles := referenceCycles document (Definition.collect document)
    (∀ pointer other, (∃ group ∈ cycles, pointer ∈ group ∧ other ∈ group) ↔
      Relation.TransGen (RefersIn document) pointer other ∧
        Relation.TransGen (RefersIn document) other pointer) ∧
    (∀ pointer, (∃ group ∈ cycles, pointer ∈ group) ↔
      Relation.TransGen (RefersIn document) pointer pointer) ∧
    (∀ group ∈ cycles, group ≠ [] ∧ group.Pairwise (· ≤ ·)) ∧
    cycles.flatten.Nodup ∧
    ∀ rootName options external pointer,
      (Generation.lookup document rootName options external (Definition.collect document)
        cycles).cyclic.contains pointer ↔
          Relation.TransGen (RefersIn document) pointer pointer := by
  intro cycles
  obtain ⟨hends, hedges⟩ := referenceGraph_spec document (Definition.collect document)
  have hrefers : (referenceGraph document (Definition.collect document)).Refers =
      RefersIn document := by
    funext source target
    exact propext (hedges source target)
  have hshared (pointer other : String) := @exists_cycle_iff _ hends pointer other
  rw [hrefers] at hshared
  have hown (pointer : String) : (∃ group ∈ cycles, pointer ∈ group) ↔
      Relation.TransGen (RefersIn document) pointer pointer := by
    have hboth := hshared pointer pointer
    simp only [and_self] at hboth
    exact hboth
  refine ⟨hshared, hown, fun group hgroup => ?_, nodup_cycles hends, fun _ _ _ pointer => ?_⟩
  · obtain ⟨component, hcomponent, hcyclic, rfl⟩ := mem_cycles_iff.mp hgroup
    refine ⟨fun hnil => ?_, pairwise_sortTexts component⟩
    obtain rfl : component = [] := by
      rw [← List.length_eq_zero_iff, ← List.length_mergeSort, ← sortTexts, hnil, List.length_nil]
    exact absurd hcyclic (by simp [isCyclic])
  · rw [List.contains_iff_mem]
    exact List.mem_flatten.trans (hown pointer)

end SchemaTypes
