import PipelineConfig.Problem
import PipelineConfig.Rules.Structure
import PipelineConfig.Sandbox
import PipelineConfig.Scope

/-!
# Rules for materials

A material has a name of its own in its pipeline, stays inside the working folder, and says where
it comes from. Dependencies name a stage that exists, and all pipelines that poll one repository
poll it alike.
-/

namespace PipelineConfig.Material

/-- What is wrong with the declared name. -/
def nameProblems (material : Material) : List Problem :=
  match material.name with
  | some name =>
    Problem.when (!Name.isValid name.text) (.invalidName "materialName" "material" name.text)
  | none => []

/-- Whether a material goes by a name. -/
def goesBy (material : Material) (name : Name) : Bool :=
  material.effectiveName?.any fun effective => effective.same name

/-- Whether another material of the pipeline goes by the same name. -/
def sharedNameProblems (material : Material) (scope : Scope) : List Problem :=
  match material.effectiveName?, scope.pipeline? with
  | some name, some pipeline =>
    Problem.when (occursTwice pipeline.materials.items fun other => other.goesBy name)
      (.duplicateMaterial name)
  | _, _ => []

/-- What is wrong with the checkout folder. -/
def folderProblems (material : Material) : List Problem :=
  match material.destination with
  | some folder => Problem.when (!Sandbox.isInside folder) (.folderOutside folder)
  | none => []

/-- What is wrong with a dependency on a stage of a pipeline. -/
def dependencyProblems (upstream stage : Name) (scope : Scope) : List Problem :=
  match scope.lookup? upstream with
  | none =>
    [.unknownUpstream upstream ((scope.pipeline?.map fun pipeline => pipeline.name.text).getD "?")]
  | some pipeline =>
    Problem.when (!(scope.stagesOf pipeline).any fun other => other.name.same stage)
      (.unknownUpstreamStage stage upstream)

/-- What is wrong with the source. -/
def sourceProblems (material : Material) (scope : Scope) : List Problem :=
  match material.source with
  | .git url _ | .svn url _ _ | .hg url => Problem.when (Text.isBlank url) .blankUrl
  | .p4 port view _ =>
    Problem.when (Text.isBlank port) .blankPort ++ Problem.when (Text.isBlank view) .blankView
  | .tfs url _ projectPath _ =>
    Problem.when (Text.isBlank url) .blankUrl ++
      Problem.when (Text.isBlank projectPath) .blankProjectPath
  | .package packageId => Problem.when (Text.isBlank packageId) .blankPackage
  | .pluggableScm scmId => Problem.when (Text.isBlank scmId) .blankScm
  | .dependency upstream stage => dependencyProblems upstream stage scope

/-- Whether a committed use by another pipeline polls the source in another way. -/
def conflictsWith (material : Material) (own : Option Pipeline) (use : Use) : Bool :=
  (!own.any fun pipeline => use.pipeline.name.same pipeline.name) &&
    use.material.autoUpdate != material.autoUpdate

/-- What is wrong with the polling of a repository. -/
def pollingProblems (material : Material) (scope : Scope) : List Problem :=
  match material.source.url? with
  | none => []
  | some address =>
    Problem.when
      ((scope.catalog.usesAt material.fingerprint).any (material.conflictsWith scope.pipeline?))
      (.autoUpdateConflict material.source.typeName address)

/-- What is wrong with a material. -/
def problems (material : Material) (scope : Scope) : List Problem :=
  material.nameProblems ++ material.sharedNameProblems scope ++ material.folderProblems ++
    material.sourceProblems scope ++ material.pollingProblems scope

end PipelineConfig.Material
