import PipelineConfig.Catalog
import PipelineConfig.Cycle

/-!
# Scopes

A scope is what a node is checked in: the nodes it is nested in, nearest first, a catalog to look
other pipelines up in, and possibly a pipeline under edit. The pipeline under edit stands in for
the committed one of its name wherever a pipeline is looked up by name.
-/

namespace PipelineConfig

/-- A node that others can be nested in. -/
inductive ScopeNode where
  /-- A pipeline. -/
  | pipeline (pipeline : Pipeline)
  /-- A template. -/
  | template (template : Template)
  /-- A stage. -/
  | stage (stage : Stage)
  /-- A job. -/
  | job (job : Job)
  /-- A task. -/
  | task (task : Task)
  /-- A material. -/
  | material (material : Material)
deriving DecidableEq, Repr

namespace ScopeNode

/-- The short word for the kind of node. -/
def displayName : ScopeNode → String
  | pipeline _ => "pipeline"
  | template _ => "template"
  | stage _ => "stage"
  | job _ => "job"
  | task node => node.typeName
  | material node => node.source.typeName

/-- How a path through the configuration speaks of the node. -/
def label : ScopeNode → String
  | pipeline node => s!"pipeline '{node.name.text}'"
  | template node => s!"template '{node.name.text}'"
  | stage node => s!"stage '{node.name.text}'"
  | job node => s!"job '{node.name.text}'"
  | task node => s!"task ({node.typeName})"
  | material node => s!"material {node.describe}"

/-- The node as a pipeline. -/
def pipeline? : ScopeNode → Option Pipeline
  | pipeline node => some node
  | _ => none

/-- The node as a template. -/
def template? : ScopeNode → Option Template
  | template node => some node
  | _ => none

/-- The node as a stage. -/
def stage? : ScopeNode → Option Stage
  | stage node => some node
  | _ => none

/-- The node as a job. -/
def job? : ScopeNode → Option Job
  | job node => some node
  | _ => none

end ScopeNode

/-- What a node is checked in. -/
structure Scope where
  /-- The committed pipelines. -/
  catalog : Catalog
  /-- The pipeline under edit. -/
  editing : Option Pipeline := none
  /-- The enclosing nodes, nearest first. -/
  ancestors : List ScopeNode := []
deriving DecidableEq, Repr

namespace Scope

/-- The scope one level deeper. -/
def within (scope : Scope) (node : ScopeNode) : Scope :=
  { scope with ancestors := node :: scope.ancestors }

/-- The same catalog and edit, outside of any node. -/
def outermost (scope : Scope) : Scope := { scope with ancestors := [] }

/-- The scope in which a pipeline under edit is checked: it is edited, and it encloses itself. -/
def ofEdit (catalog : Catalog) (pipeline : Pipeline) : Scope :=
  ⟨catalog, some pipeline, [.pipeline pipeline]⟩

/-- The nearest enclosing pipeline. -/
def pipeline? (scope : Scope) : Option Pipeline := scope.ancestors.findSome? ScopeNode.pipeline?

/-- The nearest enclosing template. -/
def template? (scope : Scope) : Option Template := scope.ancestors.findSome? ScopeNode.template?

/-- The nearest enclosing stage. -/
def stage? (scope : Scope) : Option Stage := scope.ancestors.findSome? ScopeNode.stage?

/-- The nearest enclosing job. -/
def job? (scope : Scope) : Option Job := scope.ancestors.findSome? ScopeNode.job?

/-- The immediate parent. -/
def parent? (scope : Scope) : Option ScopeNode := scope.ancestors.head?

/-- Whether the enclosing pipeline takes its stages from a template. -/
def isTemplated (scope : Scope) : Bool := scope.pipeline?.any Pipeline.hasTemplate

/-- Whether the enclosing pipeline has stages of its own. -/
def isSelfStaged (scope : Scope) : Bool := scope.pipeline?.any fun pipeline => !pipeline.hasTemplate

/-- The enclosing nodes from the outermost in. -/
def path (scope : Scope) : String :=
  Text.joinWith " > " (scope.ancestors.reverse.map ScopeNode.label)

/-- The pipeline of a name: the one under edit if it goes by that name, else the committed one. -/
def lookup? (scope : Scope) (name : Name) : Option Pipeline :=
  match scope.editing with
  | some edited => if edited.name.same name then some edited else scope.catalog.pipeline? name
  | none => scope.catalog.pipeline? name

/-- The group in which the enclosing pipeline is committed. -/
def group? (scope : Scope) : Option String :=
  scope.pipeline?.bind fun pipeline => scope.catalog.groupOf? pipeline.name

/-- The stages a pipeline runs. -/
def stagesOf (scope : Scope) (pipeline : Pipeline) : List Stage := scope.catalog.stagesOf pipeline

/-- The committed dependencies, except that a proposed pipeline exists and waits for what it
proposes to wait for. -/
def proposedView (scope : Scope) (proposed : Pipeline) : DependencyView where
  known := proposed.name :: (scope.editing.toList.map Pipeline.name ++ scope.catalog.names)
  upstreamsOf name :=
    if proposed.name.same name then proposed.upstreams else scope.catalog.upstreamsOf name

end Scope

end PipelineConfig
