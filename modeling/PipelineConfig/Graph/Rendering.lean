import PipelineConfig.Graph.Order

/-!
# Drawings of the graph

The graph as a numbered list in dependency order, as a Mermaid flow chart, and as a DOT graph. The
charts list their lines in a fixed order, so that equal graphs give equal charts.
-/

namespace PipelineConfig.DependencyGraph

variable (graph : DependencyGraph)

/-- The nodes in the order of their names. -/
def sortedNodes : List graph.Node :=
  graph.nodes.mergeSort fun left right => (compare (graph.nameOf left) (graph.nameOf right)).isLE

/-- An edge as the texts of its upstream, its downstream and its stage. -/
def edgeTexts (edge : DependencyEdge graph.names.length) : String × String × String :=
  ((graph.nameOf edge.source).text, (graph.nameOf edge.target).text, edge.stage.text)

/-- Edges are ordered by upstream, then downstream, then stage. -/
def edgeOrder (left right : String × String × String) : Ordering :=
  (compare left.1 right.1).then
    ((compare left.2.1 right.2.1).then (compare left.2.2 right.2.2))

/-- The texts of all edges in order. -/
def sortedEdges : List (String × String × String) :=
  (graph.edges.map graph.edgeTexts).mergeSort fun left right => (edgeOrder left right).isLE

/-- The line of a node in a Mermaid chart. -/
def mermaidNode (name : String) : String := s!"    {name}[{name}]\n"

/-- The line of an edge in a Mermaid chart. -/
def mermaidEdge : String × String × String → String
  | (upstream, downstream, stage) => s!"    {upstream} -->|{stage}| {downstream}\n"

/-- The graph as a Mermaid flow chart: all nodes, then all edges. -/
def mermaid : String :=
  "graph LR\n" ++
    String.join (graph.sortedNodes.map fun node => mermaidNode (graph.nameOf node).text) ++
    String.join (graph.sortedEdges.map mermaidEdge)

/-- Whether no edge touches a node. -/
def isIsolated (node : graph.Node) : Bool :=
  graph.edges.all fun edge => edge.source != node && edge.target != node

/-- The line of an edge in a DOT graph. -/
def dotEdge : String × String × String → String
  | (upstream, downstream, stage) =>
    s!"    \"{upstream}\" -> \"{downstream}\" [label=\"{stage}\"];\n"

/-- The line of a node in a DOT graph. -/
def dotNode (name : String) : String := s!"    \"{name}\";\n"

/-- The graph in DOT: all edges, then the nodes that no edge touches. -/
def dot : String :=
  "digraph pipelines \x7b\n    rankdir=LR;\n    node [shape=box, style=rounded];\n\n" ++
    String.join (graph.sortedEdges.map dotEdge) ++
    String.join ((graph.sortedNodes.filter graph.isIsolated).map fun node =>
      dotNode (graph.nameOf node).text) ++
    "\x7d\n"

/-- The line of a node in the numbered list. -/
def textLine (position : Nat) (node : graph.Node) : String :=
  let number := position + 1
  let name := (graph.nameOf node).text
  match graph.sortedTexts (graph.predecessors node) with
  | [] => s!"{number}. {name}\n"
  | upstreams =>
    let listed := Text.joinWith ", " upstreams
    s!"{number}. {name} [depends: {listed}]\n"

/-- The graph as a numbered list, every pipeline after those it waits for. -/
def text : Except Failure String :=
  match graph.orderedNodes with
  | .error node => .error (.circularDependency [graph.nameOf node])
  | .ok order => .ok (String.join (order.mapIdx graph.textLine))

end PipelineConfig.DependencyGraph
