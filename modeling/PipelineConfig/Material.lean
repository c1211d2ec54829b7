import PipelineConfig.FieldErrors
import PipelineConfig.NameSet

/-!
# Materials

A material is an input that a pipeline polls for changes: a repository, a package, or a stage of
another pipeline.
-/

namespace PipelineConfig

/-- Where a material comes from. -/
inductive Source where
  /-- A branch of a git repository. -/
  | git (url branch : String)
  /-- A subversion repository. -/
  | svn (url : String) (username : Option String) (checkExternals : Bool)
  /-- A mercurial repository. -/
  | hg (url : String)
  /-- A view of a perforce server. -/
  | p4 (port view : String) (username : Option String)
  /-- A project of a team foundation server. -/
  | tfs (url : String) (domain : Option String) (projectPath : String) (username : Option String)
  /-- The outcome of a stage of another pipeline. -/
  | dependency (pipeline stage : Name)
  /-- A package of a package repository. -/
  | package (packageId : String)
  /-- A repository that a plugin polls. -/
  | pluggableScm (scmId : String)
deriving DecidableEq, Repr

namespace Source

/-- The short word for the kind of source. -/
def typeName : Source → String
  | git .. => "git"
  | svn .. => "svn"
  | hg .. => "hg"
  | p4 .. => "p4"
  | tfs .. => "tfs"
  | dependency .. => "pipeline"
  | package .. => "package"
  | pluggableScm .. => "scm"

/-- The pipeline and stage that a dependency waits for. -/
def target? : Source → Option (Name × Name)
  | dependency pipeline stage => some (pipeline, stage)
  | _ => none

/-- The address of a repository, for the kinds that have one. -/
def url? : Source → Option String
  | git url _ | svn url _ _ | hg url | tfs url _ _ _ => some url
  | p4 port _ _ => some port
  | dependency .. | package .. | pluggableScm .. => none

end Source

/-- One declared material. -/
structure Material where
  /-- Where the material comes from. -/
  source : Source
  /-- Local name, where one is declared. -/
  name : Option Name := none
  /-- Checkout folder, relative to the working directory. -/
  destination : Option String := none
  /-- Whether new revisions are polled for automatically. -/
  autoUpdate : Bool := true
  /-- Messages recorded against the material. -/
  errors : FieldErrors := .none
deriving DecidableEq, Repr

namespace Material

/-- The upstream pipeline and stage of a dependency material. -/
def target? (material : Material) : Option (Name × Name) := material.source.target?

/-- The upstream pipeline of a dependency material. -/
def upstream? (material : Material) : Option Name := material.target?.map Prod.fst

/-- Whether the material waits for another pipeline. -/
def isDependency (material : Material) : Bool := material.target?.isSome

/-- Whether the material is a repository with an address. -/
def isScm (material : Material) : Bool := material.source.url?.isSome

/-- Whether the material is a dependency on the pipeline of this name. -/
def dependsOn (material : Material) (pipeline : Name) : Bool :=
  material.upstream?.any fun upstream => upstream.same pipeline

/-- The declared name; a dependency without one goes by the name of the upstream pipeline. -/
def effectiveName? (material : Material) : Option Name := material.name.or material.upstream?

/-- How messages speak of the material. -/
def describe (material : Material) : String :=
  match material.source with
  | .dependency pipeline stage => s!"{pipeline.text} [{stage.text}]"
  | .package packageId => s!"Package ({packageId})"
  | .pluggableScm scmId => s!"SCM ({scmId})"
  | source =>
    let address := source.url?.getD ""
    s!"{source.typeName.toUpper} ({address})"

/-- The material without recorded messages. -/
def clearErrors (material : Material) : Material := { material with errors := .none }

end Material

/-- The materials of one pipeline. Problems of the collection as a whole, such as a dependency
cycle, are recorded on it. -/
structure Materials where
  /-- The materials as declared. -/
  items : List Material := []
  /-- Messages recorded against the collection. -/
  errors : FieldErrors := .none
deriving DecidableEq, Repr

namespace Materials

/-- The dependency materials. -/
def dependencies (materials : Materials) : List Material :=
  materials.items.filter Material.isDependency

/-- The pipelines named by dependency materials, as a set; of two spellings the later is kept. -/
def upstreams (materials : Materials) : NameSet :=
  NameSet.ofList (materials.items.filterMap Material.upstream?)

/-- The materials without recorded messages. -/
def clearErrors (materials : Materials) : Materials :=
  ⟨materials.items.map Material.clearErrors, .none⟩

end Materials

end PipelineConfig
