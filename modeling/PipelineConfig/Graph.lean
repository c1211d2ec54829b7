import PipelineConfig.Catalog
import PipelineConfig.Cycle
import PipelineConfig.Text.Sorted

/-!
# The dependency graph

The graph has a node for every committed pipeline and for every pipeline that a dependency names,
and an edge from upstream to downstream for every dependency material. Edges keep the order of
their materials and carry the stage that the downstream pipeline waits for.
-/

namespace PipelineConfig

/-- An edge between nodes given by their positions. -/
structure DependencyEdge (size : Nat) where
  /-- The upstream node. -/
  source : Fin size
  /-- The downstream node. -/
  target : Fin size
  /-- The stage that is waited for. -/
  stage : Name
deriving DecidableEq, Repr

/-- Pipelines and the dependencies between them. -/
structure DependencyGraph where
  /-- The nodes. -/
  names : List Name
  /-- The edges, oldest first. -/
  edges : List (DependencyEdge names.length)
deriving Repr

namespace DependencyGraph

/-- The position of a node. -/
def position? (names : List Name) (name : Name) : Option (Fin names.length) :=
  names.findFinIdx? fun other => other.same name

/-- Add a node unless there is one of this name. -/
def addNode (names : List Name) (name : Name) : List Name :=
  if DependencyView.isOn names name then names else names ++ [name]

/-- The nodes: the committed pipelines, then other upstream pipelines as they are named. -/
def nodesOf (catalog : Catalog) : List Name :=
  (catalog.entries.values.flatMap fun entry =>
    entry.pipeline.materials.items.filterMap Material.upstream?).foldl addNode catalog.names

/-- The edges that the materials of one pipeline give. -/
def edgesInto (names : List Name) (name : Name) (pipeline : Pipeline) :
    List (DependencyEdge names.length) :=
  pipeline.materials.items.filterMap fun material =>
    match material.target?, position? names name with
    | some (upstream, stage), some target =>
      (position? names upstream).map fun source => ⟨source, target, stage⟩
    | _, _ => none

/-- The graph of the committed pipelines. -/
def ofCatalog (catalog : Catalog) : DependencyGraph :=
  let names := nodesOf catalog
  ⟨names, catalog.entries.entries.flatMap fun (name, entry) => edgesInto names name entry.pipeline⟩

variable (graph : DependencyGraph)

/-- A node of the graph. -/
abbrev Node := Fin graph.names.length

/-- All nodes in order. -/
def nodes : List graph.Node := List.finRange graph.names.length

/-- The name of a node. -/
def nameOf (node : graph.Node) : Name := graph.names.get node

/-- The node of a name. -/
def node? (name : Name) : Option graph.Node := position? graph.names name

/-- The nodes one step downstream, once per edge, oldest edge first. -/
def successors (node : graph.Node) : List graph.Node :=
  (graph.edges.filter fun edge => edge.source = node).map DependencyEdge.target

/-- The nodes one step upstream, once per edge, oldest edge first. -/
def predecessors (node : graph.Node) : List graph.Node :=
  (graph.edges.filter fun edge => edge.target = node).map DependencyEdge.source

/-- The number of nodes that bear no mark. -/
def unvisited (marked : List graph.Node) : Nat := unmarked graph.nodes fun node => node ∈ marked

theorem unvisited_cons_lt {marked : List graph.Node} {node : graph.Node}
    (fresh : node ∉ marked) : graph.unvisited (node :: marked) < graph.unvisited marked := by
  refine unmarked_lt ?_ (List.mem_finRange node) ?_ ?_
  · intro other old
    simp_all
  · simpa using fresh
  · simp

/-- The names of nodes in text order, each once. -/
def sortedTexts (nodes : List graph.Node) : List String :=
  Text.sortedDistinct (nodes.map fun node => (graph.nameOf node).text)

/-- The pipelines that directly wait for a pipeline; nothing for one that is no node. -/
def dependents? (name : Name) : Option (List String) :=
  (graph.node? name).map fun node => graph.sortedTexts (graph.successors node)

end DependencyGraph

end PipelineConfig
