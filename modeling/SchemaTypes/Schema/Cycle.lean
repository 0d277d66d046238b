import SchemaTypes.Schema.Definition

/-!
# Reference cycles

Definitions refer to each other through `$ref`.  This module finds the groups of pointers that
refer to each other in a cycle: the strongly connected components of the reference graph, apart
from single pointers that do not refer to themselves.

## Strategy

The components are found in two passes.  The first walks the graph along incoming references and
notes each node when all nodes reachable from it are noted; the second goes through that order
backwards and collects what can still be reached along outgoing references.  The order of the
groups is the order of the second pass.
-/

namespace SchemaTypes

/-- A directed graph on pointers: nodes in the order of their first appearance, edges in the order
in which they were added. -/
structure ReferenceGraph where
  nodes : List String
  edges : List (String × String)
deriving Repr, Inhabited

namespace ReferenceGraph

/-- No nodes and no edges. -/
def empty : ReferenceGraph := ⟨[], []⟩

/-- Adds a node behind the others, unless it is there. -/
def addNode (graph : ReferenceGraph) (node : String) : ReferenceGraph :=
  if graph.nodes.contains node then graph else { graph with nodes := graph.nodes ++ [node] }

/-- Adds an edge, and its target as a node. -/
def addEdge (graph : ReferenceGraph) (source target : String) : ReferenceGraph :=
  let graph := graph.addNode target
  { graph with edges := graph.edges ++ [(source, target)] }

/-- An owner and its targets. -/
def addOwner (graph : ReferenceGraph) (owner : String) (targets : List String) : ReferenceGraph :=
  targets.foldl (fun graph target => graph.addEdge owner target) (graph.addNode owner)

/-- Targets of the references of a node. -/
def targets (graph : ReferenceGraph) (node : String) : List String :=
  graph.edges.filterMap fun edge => if edge.1 == node then some edge.2 else none

/-- Nodes that refer to a node. -/
def sources (graph : ReferenceGraph) (node : String) : List String :=
  graph.edges.filterMap fun edge => if edge.2 == node then some edge.1 else none

/-! ## Depth-first walks -/

/-- Nodes seen on a walk, and those left behind for good, the last one first. -/
structure Walk where
  seen : List String
  finished : List String
deriving Repr, Inhabited

/-- Walks from a node to all unseen nodes reachable from it; later neighbours come first.  A walk
is never longer than the number of nodes, which is what `fuel` bounds. -/
def visit (neighbours : String → List String) : (fuel : Nat) → (node : String) → Walk → Walk
  | 0, _, walk => walk
  | fuel + 1, node, walk =>
    if walk.seen.contains node then walk
    else
      let inner :=
        (neighbours node).reverse.foldl
          (fun walk next => visit neighbours fuel next walk) { walk with seen := node :: walk.seen }
      { inner with finished := node :: inner.finished }

/-- The nodes in the order of the first pass, the last one first. -/
def finishOrder (graph : ReferenceGraph) : List String :=
  (graph.nodes.foldl
    (fun walk node => visit graph.sources (graph.nodes.length + 1) node walk) ⟨[], []⟩).finished

/-- Splits nodes into what each of them still reaches. -/
def components (graph : ReferenceGraph) (seen : List String) : List String → List (List String)
  | [] => []
  | leader :: rest =>
    if seen.contains leader then components graph seen rest
    else
      let walk := visit graph.targets (graph.nodes.length + 1) leader ⟨seen, []⟩
      walk.finished :: components graph walk.seen rest

/-- The strongly connected components. -/
def stronglyConnected (graph : ReferenceGraph) : List (List String) :=
  components graph [] graph.finishOrder

/-- More than one node, or one that refers to itself. -/
def isCyclic (graph : ReferenceGraph) (component : List String) : Bool :=
  match component with
  | [node] => graph.edges.contains (node, node)
  | _ => component.length > 1

/-- Texts in the order of their characters. -/
def sortTexts (texts : List String) : List String :=
  texts.mergeSort fun a b => decide (a ≤ b)

/-- The cyclic components, each sorted. -/
def cycles (graph : ReferenceGraph) : List (List String) :=
  (graph.stronglyConnected.filter graph.isCyclic).map sortTexts

end ReferenceGraph

/-! ## References of a schema -/

/-- A reference to the root or to another node of the document. -/
def isLocalReference (reference : String) : Bool :=
  reference == Pointer.root || Text.startsWith reference Pointer.localStart

mutual

/-- Local references inside a node, outside the definitions nested in it. -/
def localReferences : Json → List String
  | .object members =>
    ((Json.object members).reference?.filter isLocalReference).toList ++ memberReferences members
  | .array items => itemReferences items
  | _ => []

/-- References below the members of an object, definitions left out. -/
def memberReferences : List (String × Json) → List String
  | [] => []
  | (key, child) :: rest =>
    if Definition.keywords.contains key then memberReferences rest
    else localReferences child ++ memberReferences rest

/-- References below the items of an array. -/
def itemReferences : List Json → List String
  | [] => []
  | item :: rest => localReferences item ++ itemReferences rest

end

/-- Local references of a schema, sorted and each once. -/
def referenceSet (schema : Json) : List String :=
  ReferenceGraph.sortTexts (localReferences schema).eraseDups

/-- The graph of references between the root and the definitions, owners in sorted order. -/
def referenceGraph (document : Json) (definitions : List Definition) : ReferenceGraph :=
  let owners :=
    (Pointer.root, document) :: definitions.map fun definition =>
      (definition.pointer, definition.schema)
  let sorted := owners.mergeSort fun a b => decide (a.1 ≤ b.1)
  sorted.foldl (fun graph owner => graph.addOwner owner.1 (referenceSet owner.2)) .empty

/-- Groups of pointers, `#` standing for the root, that refer to each other in a cycle. -/
def referenceCycles (document : Json) (definitions : List Definition) : List (List String) :=
  (referenceGraph document definitions).cycles

end SchemaTypes
