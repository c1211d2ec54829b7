import PipelineConfig.Configuration
import PipelineConfig.Document.Value

/-!
# Documents from configurations

Writes a configuration, or any part of it, as a document value. Recorded messages are no part of
it. Optional fields of pipelines and materials are left out when they are absent, others are
written as nothing.
-/

namespace PipelineConfig

open Document

namespace Document.Value

/-- Write a name. -/
def ofName (name : Name) : Value := .text name.text

/-- Write a text that may be absent. -/
def ofText? (text : Option String) : Value := (text.map Value.text).getD .null

/-- Write a list. -/
def ofList {α : Type} (write : α → Value) (items : List α) : Value := .list (items.map write)

/-- Write a list that is left out when it is empty. -/
def ofNonempty? {α : Type} (write : α → Value) (items : List α) : Option Value :=
  if items.isEmpty then none else some (ofList write items)

end Document.Value

/-- The fields of a source. -/
def Source.toFields : Source → List (String × Option Value)
  | git url branch => [("type", some (.text "git")), ("url", some (.text url)),
      ("branch", some (.text branch))]
  | svn url username checkExternals => [("type", some (.text "svn")), ("url", some (.text url)),
      ("username", some (.ofText? username)), ("check_externals", some (.bool checkExternals))]
  | hg url => [("type", some (.text "hg")), ("url", some (.text url))]
  | p4 port view username => [("type", some (.text "p4")), ("port", some (.text port)),
      ("view", some (.text view)), ("username", some (.ofText? username))]
  | tfs url domain projectPath username => [("type", some (.text "tfs")),
      ("url", some (.text url)), ("domain", some (.ofText? domain)),
      ("project_path", some (.text projectPath)), ("username", some (.ofText? username))]
  | dependency pipeline stage => [("type", some (.text "dependency")),
      ("pipeline", some (.ofName pipeline)), ("stage", some (.ofName stage))]
  | package packageId => [("type", some (.text "package")), ("package_id", some (.text packageId))]
  | pluggableScm scmId => [("type", some (.text "pluggable_scm")), ("scm_id", some (.text scmId))]

/-- Write a material. -/
def Material.toValue (material : Material) : Value :=
  .record (material.source.toFields ++
    [("name", material.name.map .ofName),
     ("destination", material.destination.map .text),
     ("auto_update", some (.bool material.autoUpdate))])

/-- The fields that the build tools have in common. -/
def BuildTask.toFields (build : BuildTask) : List (String × Option Value) :=
  [("build_file", some (.ofText? build.buildFile)),
   ("target", some (.ofText? build.target)),
   ("working_directory", some (.ofText? build.workingDirectory))]

/-- The fields of the retrieval of an artifact. -/
def FetchTask.toFields (fetch : FetchTask) : List (String × Option Value) :=
  [("pipeline", some (.ofText? fetch.pipeline)),
   ("stage", some (.ofName fetch.stage)),
   ("job", some (.ofName fetch.job)),
   ("source", some (.text fetch.source)),
   ("is_source_a_file", some (.bool fetch.isSourceFile)),
   ("destination", some (.ofText? fetch.destination))]

/-- Write a mapping from texts to texts. -/
def Document.Value.ofTable (table : Table String String) : Value :=
  .mapping (table.entries.map fun entry => (.text entry.1, .text entry.2))

/-- The fields of what a task does. -/
def TaskKind.toFields : TaskKind → List (String × Option Value)
  | exec command args workingDirectory => [("type", some (.text "exec")),
      ("command", some (.text command)), ("args", some (.ofList .text args)),
      ("working_directory", some (.ofText? workingDirectory))]
  | ant build => ("type", some (.text "ant")) :: build.toFields
  | nant build => ("type", some (.text "nant")) :: build.toFields
  | rake build => ("type", some (.text "rake")) :: build.toFields
  | fetch artifact => ("type", some (.text "fetch")) :: artifact.toFields
  | pluggable pluginId configuration => [("type", some (.text "pluggable")),
      ("plugin_id", some (.text pluginId)), ("configuration", some (.ofTable configuration))]

/-- Write a task. -/
def Task.toValue (task : Task) : Value := .record task.kind.toFields

/-- Write a job. -/
def Job.toValue (job : Job) : Value :=
  .record [("name", some (.ofName job.name)), ("tasks", some (.ofList Task.toValue job.tasks))]

/-- Write a stage. -/
def Stage.toValue (stage : Stage) : Value :=
  .record [("name", some (.ofName stage.name)), ("jobs", some (.ofList Job.toValue stage.jobs))]

/-- Write a template. -/
def Template.toValue (template : Template) : Value :=
  .record [("name", some (.ofName template.name)),
    ("stages", some (.ofList Stage.toValue template.stages))]

/-- Write a parameter. -/
def Parameter.toValue (parameter : Parameter) : Value :=
  .record [("name", some (.text parameter.name)), ("value", some (.text parameter.value))]

/-- Write an environment variable. -/
def Variable.toValue (binding : Variable) : Value :=
  .record [("name", some (.text binding.name)), ("value", some (.text binding.value)),
    ("secure", some (.bool binding.secure))]

/-- Write the link to an issue tracker. -/
def TrackingTool.toValue (tool : TrackingTool) : Value :=
  .record [("link", some (.text tool.link)), ("regex", some (.text tool.regex))]

/-- Write a project of the planning tool. -/
def Mingle.toValue (mingle : Mingle) : Value :=
  .record [("base_url", some (.text mingle.baseUrl)),
    ("project_identifier", some (.text mingle.projectIdentifier)),
    ("mql", some (.ofText? mingle.mql))]

/-- Write a start by the clock. -/
def Timer.toValue (timer : Timer) : Value :=
  .record [("spec", some (.text timer.spec)),
    ("only_on_changes", some (.bool timer.onlyOnChanges))]

/-- Write a pipeline. -/
def Pipeline.toValue (pipeline : Pipeline) : Value :=
  .record [("name", some (.ofName pipeline.name)),
    ("label_template", some (.text pipeline.labelTemplate)),
    ("materials", some (.ofList Material.toValue pipeline.materials.items)),
    ("stages", some (.ofList Stage.toValue pipeline.stages)),
    ("template", pipeline.template.map .ofName),
    ("params", Value.ofNonempty? Parameter.toValue pipeline.params),
    ("environment_variables", Value.ofNonempty? Variable.toValue pipeline.environmentVariables),
    ("tracking_tool", pipeline.trackingTool.map TrackingTool.toValue),
    ("mingle", pipeline.mingle.map Mingle.toValue),
    ("timer", pipeline.timer.map Timer.toValue)]

/-- Write a group. -/
def Group.toValue (group : Group) : Value :=
  .record [("name", some (.text group.name)),
    ("pipelines", some (.ofList Pipeline.toValue group.pipelines))]

/-- Write an environment. -/
def Environment.toValue (environment : Environment) : Value :=
  .record [("name", some (.text environment.name)),
    ("pipelines", some (.ofList .ofName environment.pipelines))]

/-- Write a role. -/
def Role.toValue (role : Role) : Value :=
  .record [("name", some (.ofName role.name)), ("users", some (.ofList .ofName role.users))]

/-- Write who may administer the server. -/
def Security.toValue (security : Security) : Value :=
  .record [("admins", some (.ofList .ofName security.admins)),
    ("roles", some (.ofList Role.toValue security.roles))]

/-- Write a configuration. -/
def Configuration.toValue (config : Configuration) : Value :=
  .record [("groups", some (.ofList Group.toValue config.groups)),
    ("templates", some (.ofList Template.toValue config.templates)),
    ("environments", some (.ofList Environment.toValue config.environments)),
    ("security", some config.security.toValue)]

end PipelineConfig
