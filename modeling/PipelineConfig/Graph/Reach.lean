import PipelineConfig.Graph

/-!
# Reachability

Which nodes a node leads to, by marking what a stack of pending nodes leads to.
-/

namespace PipelineConfig.DependencyGraph

variable (graph : DependencyGraph)

/-- Mark the pending nodes and everything downstream of them. -/
def markFrom (marked : List graph.Node) : List graph.Node → List graph.Node
  | [] => marked
  | next :: pending =>
    if next ∈ marked then markFrom marked pending
    else markFrom (next :: marked) (graph.successors next ++ pending)
termination_by pending => (graph.unvisited marked, pending.length)
decreasing_by
  · exact Prod.Lex.right _ (by simp)
  · rename_i fresh
    exact Prod.Lex.left _ _ (graph.unvisited_cons_lt fresh)

/-- The nodes a node leads to, itself among them. -/
def reachableFrom (node : graph.Node) : List graph.Node := graph.markFrom [] [node]

/-- Whether the first pipeline waits for the second, directly or through others. -/
def dependsOn (downstream upstream : Name) : Bool :=
  match graph.node? downstream, graph.node? upstream with
  | some target, some source => source != target && target ∈ graph.reachableFrom source
  | _, _ => false

end PipelineConfig.DependencyGraph
