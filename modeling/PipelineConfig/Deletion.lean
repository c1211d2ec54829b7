import PipelineConfig.Catalog

/-!
# Deletion checks

A committed pipeline may be deleted when no environment runs it and no pipeline waits for it.
-/

namespace PipelineConfig

/-- What stands in the way of deleting a pipeline. -/
inductive DeletionBlock where
  /-- An environment runs the pipeline. -/
  | environment (name : String)
  /-- A pipeline waits for it. -/
  | downstream (name : Name)
deriving DecidableEq, Repr

namespace Catalog

/-- What stands in the way of deleting a pipeline, an environment before a downstream pipeline. -/
def deletionBlock? (catalog : Catalog) (name : Name) : Option DeletionBlock :=
  match catalog.environmentOf? name with
  | some environment => some (.environment environment)
  | none => (catalog.downstreamsOf name).toList.head?.map .downstream

end Catalog

/-- The outcome of a deletion check. -/
structure DeletionCheck where
  /-- The pipeline. -/
  name : Name
  /-- What stands in the way, if anything does. -/
  block : Option DeletionBlock
deriving DecidableEq, Repr

namespace DeletionCheck

/-- Whether the pipeline may be deleted. -/
def isAllowed (check : DeletionCheck) : Bool := check.block.isNone

/-- How the outcome is told. -/
def message (check : DeletionCheck) : String :=
  match check.block with
  | some (.environment environment) =>
    s!"Cannot delete pipeline '{check.name.text}' as it is present in environment '{environment}'."
  | some (.downstream downstream) =>
    s!"Cannot delete pipeline '{check.name.text}' as pipeline '{downstream.text}' depends on it."
  | none => "Delete this pipeline."

end DeletionCheck

/-- The deletion checks of all committed pipelines, in the order of their names. -/
def Catalog.deletionChecks (catalog : Catalog) : List DeletionCheck :=
  catalog.names.map fun name => ⟨name, catalog.deletionBlock? name⟩

end PipelineConfig
