import PipelineConfig.Commit

/-!
# Operations on a catalog

A catalog starts empty or from a configuration. From then on it changes by operations: the whole
configuration is replaced, a pipeline is recorded as it comes, or an edit is proposed and enters
only if its review finds nothing.
-/

namespace PipelineConfig

/-- An edit that is reviewed before it enters a catalog. -/
inductive Proposal where
  /-- A pipeline whose name is not taken. -/
  | create (pipeline : Pipeline) (group : String)
  /-- A new version of a committed pipeline. -/
  | update (pipeline : Pipeline) (group : String)
deriving DecidableEq, Repr

namespace Proposal

/-- The proposed pipeline. -/
def pipeline : Proposal → Pipeline
  | create pipeline _ | update pipeline _ => pipeline

/-- The group the pipeline is proposed for. -/
def group : Proposal → String
  | create _ group | update _ group => group

end Proposal

/-- A change of a catalog. -/
inductive Operation where
  /-- The whole configuration is replaced. -/
  | replace (config : Configuration)
  /-- A pipeline is recorded without a review. -/
  | record (pipeline : Pipeline) (group : String)
  /-- An edit is proposed. -/
  | propose (proposal : Proposal)
deriving DecidableEq, Repr

namespace Catalog

variable [Pattern.Engine]

/-- What becomes of a proposal. -/
def propose (catalog : Catalog) : Proposal → Edit
  | .create pipeline group => catalog.create pipeline group
  | .update pipeline group => catalog.update pipeline group

/-- The catalog after an operation. -/
def perform (catalog : Catalog) : Operation → Catalog
  | .replace config => ofConfiguration config
  | .record pipeline group => catalog.insert pipeline group
  | .propose proposal => (catalog.propose proposal).catalog

/-- The catalog after a sequence of operations. -/
def performAll (catalog : Catalog) (operations : List Operation) : Catalog :=
  operations.foldl perform catalog

/-- The catalog after a sequence of proposals, some of which may be refused. -/
def proposeAll (catalog : Catalog) (proposals : List Proposal) : Catalog :=
  proposals.foldl (fun catalog proposal => (catalog.propose proposal).catalog) catalog

/-- The catalog at the start: empty, or that of a configuration. -/
def initial : Option Configuration → Catalog
  | none => {}
  | some config => ofConfiguration config

/-- Whether a catalog comes out of a start and some operations. -/
def Reachable (catalog : Catalog) : Prop :=
  ∃ config operations, catalog = (initial config).performAll operations

end Catalog

end PipelineConfig
