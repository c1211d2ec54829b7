import PipelineConfig.Failure
import PipelineConfig.Graph

/-!
# Upstream before downstream

An order of the nodes in which every pipeline stands after those it waits for. A depth-first sweep
finds a candidate; a node that is its own successor ends it at once. The candidate is then read
from the start, and searched against the edges from each node in turn. Whatever leads to a node
should have been met before it, so a second node that is met from one start shows a loop.
-/

namespace PipelineConfig.DependencyGraph

variable (graph : DependencyGraph)

/-- Sweep the nodes on a stack. A node is discovered when it first comes up, and its successors
go on top of it; when it comes up again everything it leads to is done, and it is put in front of
`done`. -/
def sweep (discovered done : List graph.Node) :
    List graph.Node → Except graph.Node (List graph.Node)
  | [] => .ok done
  | node :: stack =>
    if node ∈ discovered then
      sweep discovered (if node ∈ done then done else node :: done) stack
    else if node ∈ graph.successors node then .error node
    else
      sweep (node :: discovered) done
        ((graph.successors node).filter (fun next => next ∉ node :: discovered) ++ node :: stack)
termination_by stack => (graph.unvisited discovered, stack.length)
decreasing_by
  · exact Prod.Lex.right _ (by simp)
  · rename_i fresh _
    exact Prod.Lex.left _ _ (graph.unvisited_cons_lt fresh)

/-- The nodes of a list that bear no mark. -/
def unmet (marked nodes : List graph.Node) : List graph.Node :=
  nodes.filter fun node => node ∉ marked

@[simp]
theorem mem_unmet {marked nodes : List graph.Node} {node : graph.Node} :
    node ∈ graph.unmet marked nodes ↔ node ∈ nodes ∧ node ∉ marked := by
  simp [unmet]

/-- A step of a search against the edges. The first node on the stack that bears no mark is met and
marked, and those of its predecessors that bear none go on top of the stack. -/
def meetUpstream? (marked : List graph.Node) :
    List graph.Node → Option (graph.Node × List graph.Node)
  | [] => none
  | node :: stack =>
    if node ∈ marked then meetUpstream? marked stack
    else
      some (node, graph.unmet (node :: marked) (graph.predecessors node) ++ stack)

/-- Search against the edges from each node of an order. A second node that is met from one of them
should have stood before it. -/
def straggler? (marked : List graph.Node) : List graph.Node → Option graph.Node
  | [] => none
  | start :: rest =>
    match graph.meetUpstream? marked [start] with
    | none => straggler? marked rest
    | some (node, stack) =>
      match graph.meetUpstream? (node :: marked) stack with
      | some (second, _) => some second
      | none => straggler? (node :: marked) rest

/-- The nodes with every node after its predecessors, or a node on a loop. -/
def orderedNodes : Except graph.Node (List graph.Node) :=
  match graph.sweep [] [] graph.nodes with
  | .error node => .error node
  | .ok order =>
    match graph.straggler? [] order with
    | some node => .error node
    | none => .ok order

/-- The names with every pipeline after those it waits for. -/
def orderedNames : Except Failure (List String) :=
  match graph.orderedNodes with
  | .error node => .error (.circularDependency [graph.nameOf node])
  | .ok order => .ok (order.map fun node => (graph.nameOf node).text)

end PipelineConfig.DependencyGraph
