import PipelineConfig.FieldErrors
import PipelineConfig.NameSet
import PipelineConfig.Text.Split

/-!
# Tasks

A task is one step of a job: a command, a build tool, the retrieval of an artifact, or a plugin.
-/

namespace PipelineConfig

/-- What the build tools have in common. -/
structure BuildTask where
  /-- The build file, where it is not the default. -/
  buildFile : Option String := none
  /-- The target to build. -/
  target : Option String := none
  /-- The directory to build in. -/
  workingDirectory : Option String := none
deriving DecidableEq, Repr

/-- The retrieval of an artifact that another job has published. -/
structure FetchTask where
  /-- The upstream path, ancestor first; empty for the pipeline itself. -/
  pipeline : Option String := none
  /-- The stage that publishes. -/
  stage : Name
  /-- The job that publishes. -/
  job : Name
  /-- What is fetched. -/
  source : String := ""
  /-- Whether the source is a single file. -/
  isSourceFile : Bool := false
  /-- The folder to put it into. -/
  destination : Option String := none
deriving DecidableEq, Repr

namespace FetchTask

/-- The pipelines on the path, ancestor first; empty when the pipeline fetches from itself. -/
def path (fetch : FetchTask) : List Name :=
  ((Text.splitChars '/' (fetch.pipeline.getD "").toList).map Text.trimChars).filterMap
    fun segment => if segment.isEmpty then none else some ⟨String.ofList segment⟩

/-- Whether a pipeline stands anywhere on the path. -/
def passesThrough (fetch : FetchTask) (pipeline : Name) : Bool :=
  fetch.path.any fun segment => segment.same pipeline

end FetchTask

/-- What a task does. -/
inductive TaskKind where
  /-- Run a command. -/
  | exec (command : String) (args : List String) (workingDirectory : Option String)
  /-- Build with ant. -/
  | ant (build : BuildTask)
  /-- Build with nant. -/
  | nant (build : BuildTask)
  /-- Build with rake. -/
  | rake (build : BuildTask)
  /-- Retrieve an artifact. -/
  | fetch (fetch : FetchTask)
  /-- Run a plugin. -/
  | pluggable (pluginId : String) (configuration : Table String String)
deriving DecidableEq, Repr

/-- One step of a job. -/
structure Task where
  /-- What the task does. -/
  kind : TaskKind
  /-- Messages recorded against the task. -/
  errors : FieldErrors := .none
deriving DecidableEq, Repr

namespace Task

/-- The retrieval a fetch task performs. -/
def fetch? (task : Task) : Option FetchTask :=
  match task.kind with
  | .fetch fetch => some fetch
  | _ => none

/-- The short word for the kind of task. -/
def typeName (task : Task) : String :=
  match task.kind with
  | .exec .. => "exec"
  | .ant _ => "ant"
  | .nant _ => "nant"
  | .rake _ => "rake"
  | .fetch _ => "fetchartifact"
  | .pluggable .. => "task"

/-- The directory the task runs in, where it names one. -/
def workingDirectory? (task : Task) : Option String :=
  match task.kind with
  | .exec _ _ directory => directory
  | .ant build | .nant build | .rake build => build.workingDirectory
  | .fetch _ | .pluggable .. => none

/-- The task without recorded messages. -/
def clearErrors (task : Task) : Task := { task with errors := .none }

end Task

end PipelineConfig
