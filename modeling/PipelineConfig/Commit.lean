import PipelineConfig.Review

/-!
# Committing edits

An edit enters a catalog only if its review finds nothing. New pipelines are created and committed
ones are updated; each refuses the other's case before it reviews anything.
-/

namespace PipelineConfig

/-- What became of a proposed edit. -/
structure Edit where
  /-- The catalog afterwards. -/
  catalog : Catalog
  /-- The proposed pipeline with what is now recorded on its nodes. -/
  pipeline : Pipeline
  /-- Why the edit was refused, if it was. -/
  refusal : Option Failure := none
deriving DecidableEq, Repr

namespace Catalog

variable [Pattern.Engine]

/-- Review a pipeline and insert it if nothing is wrong with it. -/
def commit (catalog : Catalog) (pipeline : Pipeline) (group : String) : Edit :=
  match pipeline.validate catalog with
  | (true, reviewed) => ⟨catalog.insert reviewed group, reviewed, none⟩
  | (false, reviewed) =>
    ⟨catalog, reviewed, some (.validationFailed pipeline.name.text reviewed.findings.length)⟩

/-- Commit a pipeline whose name is not taken. -/
def create (catalog : Catalog) (pipeline : Pipeline) (group : String) : Edit :=
  if catalog.contains pipeline.name then
    ⟨catalog, pipeline, some (.duplicatePipeline pipeline.name.text)⟩
  else catalog.commit pipeline group

/-- Commit a new version of a pipeline. -/
def update (catalog : Catalog) (pipeline : Pipeline) (group : String) : Edit :=
  if catalog.contains pipeline.name then catalog.commit pipeline group
  else ⟨catalog, pipeline, some (.pipelineNotFound pipeline.name.text)⟩

end Catalog

end PipelineConfig
