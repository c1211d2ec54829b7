import PipelineConfig.Configuration
import PipelineConfig.Document.Field
import PipelineConfig.Document.Outline

/-!
# Configurations from documents

Reads a whole configuration, or any part of it, from a document value. Materials and tasks are
records that hold their source and kind among their own fields; the field `type` says which kind
it is and so which further fields there are. They are looked at as a whole.
-/

namespace PipelineConfig

open Document

namespace Source

/-- The words for the kinds of source, in the order of their positions. -/
def kinds : List String :=
  ["git", "svn", "hg", "p4", "tfs", "dependency", "package", "pluggable_scm"]

/-- Read a source of a kind from the entries of its material. -/
def ofEntries? (kind : String) (entries : List (String × Value)) : Option Source :=
  match kind with
  | "git" => do
    let fields ← Fields.known? ["url", "branch"] entries
    return git (← fields.required? "url" Value.text?)
      (← fields.default? "branch" "master" Value.text?)
  | "svn" => do
    let fields ← Fields.known? ["url", "username", "check_externals"] entries
    return svn (← fields.required? "url" Value.text?) (← fields.optional? "username" Value.text?)
      (← fields.default? "check_externals" false Value.bool?)
  | "hg" => do
    let fields ← Fields.known? ["url"] entries
    return hg (← fields.required? "url" Value.text?)
  | "p4" => do
    let fields ← Fields.known? ["port", "view", "username"] entries
    return p4 (← fields.required? "port" Value.text?) (← fields.required? "view" Value.text?)
      (← fields.optional? "username" Value.text?)
  | "tfs" => do
    let fields ← Fields.known? ["url", "domain", "project_path", "username"] entries
    return tfs (← fields.required? "url" Value.text?) (← fields.optional? "domain" Value.text?)
      (← fields.required? "project_path" Value.text?)
      (← fields.optional? "username" Value.text?)
  | "dependency" => do
    let fields ← Fields.known? ["pipeline", "stage"] entries
    return dependency (← fields.required? "pipeline" Value.name?)
      (← fields.required? "stage" Value.name?)
  | "package" => do
    let fields ← Fields.known? ["package_id"] entries
    return package (← fields.required? "package_id" Value.text?)
  | "pluggable_scm" => do
    let fields ← Fields.known? ["scm_id"] entries
    return pluggableScm (← fields.required? "scm_id" Value.text?)
  | _ => none

end Source

namespace Document

/-- Settle the values of named entries. -/
def settledEntries? (entries : List (String × Value)) : Option (List (String × Value)) :=
  entries.mapM fun entry => entry.2.settle?.map fun value => (entry.1, value)

/-- The kind that settled entries declare, which they must do exactly once. -/
def kind? (kinds : List String) (entries : List (String × Value)) : Option String :=
  match entries.filter fun entry => entry.1 == "type" with
  | [entry] => entry.2.choice? kinds
  | _ => none

end Document

/-- Read a material. -/
def Material.ofValue? (value : Value) : Option Material := do
  let entries ← value.entries?
  let own := ["name", "destination", "auto_update"]
  let fields ← Fields.known? own entries
  let others ← settledEntries? (entries.filter fun entry => !own.contains entry.1)
  let kind ← kind? Source.kinds others
  return {
    source := ← Source.ofEntries? kind others
    name := ← fields.optional? "name" Value.name?
    destination := ← fields.optional? "destination" Value.text?
    autoUpdate := ← fields.default? "auto_update" true Value.bool? }

/-- Read the materials of a pipeline. -/
def Materials.ofValue? (value : Value) : Option Materials :=
  (value.list? Material.ofValue?).map fun items => ⟨items, .none⟩

/-- Read what the build tools have in common. -/
def BuildTask.ofEntries? (entries : List (String × Value)) : Option BuildTask := do
  let fields ← Fields.known? ["build_file", "target", "working_directory"] entries
  return {
    buildFile := ← fields.optional? "build_file" Value.text?
    target := ← fields.optional? "target" Value.text?
    workingDirectory := ← fields.optional? "working_directory" Value.text? }

namespace FetchTask

/-- Read the retrieval of an artifact from its fields. -/
def ofFields? (fields : Fields) : Option FetchTask := do
  return {
    pipeline := ← fields.optional? "pipeline" Value.text?
    stage := ← fields.required? "stage" Value.name?
    job := ← fields.required? "job" Value.name?
    source := ← fields.default? "source" "" Value.text?
    isSourceFile := ← fields.default? "is_source_a_file" false Value.bool?
    destination := ← fields.optional? "destination" Value.text? }

/-- The names of the fields. -/
def fieldNames : List String :=
  ["pipeline", "stage", "job", "source", "is_source_a_file", "destination"]

/-- Read the retrieval of an artifact. -/
def ofValue? (format : Format) (value : Value) : Option FetchTask :=
  (value.fields? format fieldNames).bind ofFields?

end FetchTask

namespace TaskKind

/-- The words for the kinds of task, in the order of their positions. -/
def kinds : List String := ["exec", "ant", "nant", "rake", "fetch", "pluggable"]

/-- Read what a task of a kind does from the entries of the task. -/
def ofEntries? (kind : String) (entries : List (String × Value)) : Option TaskKind :=
  match kind with
  | "exec" => do
    let fields ← Fields.known? ["command", "args", "working_directory"] entries
    return exec (← fields.required? "command" Value.text?)
      (← fields.default? "args" [] (Value.list? Value.text?))
      (← fields.optional? "working_directory" Value.text?)
  | "ant" => (BuildTask.ofEntries? entries).map ant
  | "nant" => (BuildTask.ofEntries? entries).map nant
  | "rake" => (BuildTask.ofEntries? entries).map rake
  | "fetch" => ((Fields.known? FetchTask.fieldNames entries).bind FetchTask.ofFields?).map fetch
  | "pluggable" => do
    let fields ← Fields.known? ["plugin_id", "configuration"] entries
    return pluggable (← fields.required? "plugin_id" Value.text?)
      (← fields.default? "configuration" ∅ Value.table?)
  | _ => none

end TaskKind

/-- Read a task. -/
def Task.ofValue? (value : Value) : Option Task := do
  let entries ← settledEntries? (← value.entries?)
  let kind ← kind? TaskKind.kinds entries
  return { kind := ← TaskKind.ofEntries? kind entries }

/-- What is looked at in a job. -/
def Job.outline : Outline := .record [("name", .whole), ("tasks", .list .whole)]

/-- Read a job. -/
def Job.ofValue? (format : Format) (value : Value) : Option Job := do
  let fields ← value.fields? format Job.outline.names
  return {
    name := ← fields.required? "name" Value.name?
    tasks := ← fields.default? "tasks" [] (Value.list? Task.ofValue?) }

/-- What is looked at in a stage. -/
def Stage.outline : Outline := .record [("name", .whole), ("jobs", .list Job.outline)]

/-- Read a stage. -/
def Stage.ofValue? (format : Format) (value : Value) : Option Stage := do
  let fields ← value.fields? format Stage.outline.names
  return {
    name := ← fields.required? "name" Value.name?
    jobs := ← fields.default? "jobs" [] (Value.list? (Job.ofValue? format)) }

/-- What is looked at in a template. -/
def Template.outline : Outline := .record [("name", .whole), ("stages", .list Stage.outline)]

/-- Read a template. -/
def Template.ofValue? (format : Format) (value : Value) : Option Template := do
  let fields ← value.fields? format Template.outline.names
  return {
    name := ← fields.required? "name" Value.name?
    stages := ← fields.default? "stages" [] (Value.list? (Stage.ofValue? format)) }

/-- What is looked at in a parameter. -/
def Parameter.outline : Outline := .record [("name", .whole), ("value", .whole)]

/-- Read a parameter. -/
def Parameter.ofValue? (format : Format) (value : Value) : Option Parameter := do
  let fields ← value.fields? format Parameter.outline.names
  return {
    name := ← fields.required? "name" Value.text?
    value := ← fields.default? "value" "" Value.text? }

/-- What is looked at in an environment variable. -/
def Variable.outline : Outline := .record [("name", .whole), ("value", .whole), ("secure", .whole)]

/-- Read an environment variable. -/
def Variable.ofValue? (format : Format) (value : Value) : Option Variable := do
  let fields ← value.fields? format Variable.outline.names
  return {
    name := ← fields.required? "name" Value.text?
    value := ← fields.default? "value" "" Value.text?
    secure := ← fields.default? "secure" false Value.bool? }

/-- What is looked at in the link to an issue tracker. -/
def TrackingTool.outline : Outline := .record [("link", .whole), ("regex", .whole)]

/-- Read the link to an issue tracker. -/
def TrackingTool.ofValue? (format : Format) (value : Value) : Option TrackingTool := do
  let fields ← value.fields? format TrackingTool.outline.names
  return {
    link := ← fields.required? "link" Value.text?
    regex := ← fields.required? "regex" Value.text? }

/-- What is looked at in a project of the planning tool. -/
def Mingle.outline : Outline :=
  .record [("base_url", .whole), ("project_identifier", .whole), ("mql", .whole)]

/-- Read a project of the planning tool. -/
def Mingle.ofValue? (format : Format) (value : Value) : Option Mingle := do
  let fields ← value.fields? format Mingle.outline.names
  return {
    baseUrl := ← fields.required? "base_url" Value.text?
    projectIdentifier := ← fields.required? "project_identifier" Value.text?
    mql := ← fields.optional? "mql" Value.text? }

/-- What is looked at in a start by the clock. -/
def Timer.outline : Outline := .record [("spec", .whole), ("only_on_changes", .whole)]

/-- Read a start by the clock. -/
def Timer.ofValue? (format : Format) (value : Value) : Option Timer := do
  let fields ← value.fields? format Timer.outline.names
  return {
    spec := ← fields.required? "spec" Value.text?
    onlyOnChanges := ← fields.default? "only_on_changes" false Value.bool? }

/-- What is looked at in a pipeline. -/
def Pipeline.outline : Outline :=
  .record [("name", .whole), ("label_template", .whole), ("materials", .list .whole),
    ("stages", .list Stage.outline), ("template", .whole), ("params", .list Parameter.outline),
    ("environment_variables", .list Variable.outline), ("tracking_tool", TrackingTool.outline),
    ("mingle", Mingle.outline), ("timer", Timer.outline)]

/-- Read a pipeline. -/
def Pipeline.ofValue? (format : Format) (value : Value) : Option Pipeline := do
  let fields ← value.fields? format Pipeline.outline.names
  return {
    name := ← fields.required? "name" Value.name?
    labelTemplate := ← fields.default? "label_template" "$\x7bCOUNT\x7d" Value.text?
    materials := ← fields.default? "materials" {} Materials.ofValue?
    stages := ← fields.default? "stages" [] (Value.list? (Stage.ofValue? format))
    template := ← fields.optional? "template" Value.name?
    params := ← fields.default? "params" [] (Value.list? (Parameter.ofValue? format))
    environmentVariables := ← fields.default? "environment_variables" []
      (Value.list? (Variable.ofValue? format))
    trackingTool := ← fields.optional? "tracking_tool" (TrackingTool.ofValue? format)
    mingle := ← fields.optional? "mingle" (Mingle.ofValue? format)
    timer := ← fields.optional? "timer" (Timer.ofValue? format) }

/-- What is looked at in a group. -/
def Group.outline : Outline := .record [("name", .whole), ("pipelines", .list Pipeline.outline)]

/-- Read a group. -/
def Group.ofValue? (format : Format) (value : Value) : Option Group := do
  let fields ← value.fields? format Group.outline.names
  return {
    name := ← fields.required? "name" Value.text?
    pipelines := ← fields.default? "pipelines" [] (Value.list? (Pipeline.ofValue? format)) }

/-- What is looked at in an environment. -/
def Environment.outline : Outline := .record [("name", .whole), ("pipelines", .list .whole)]

/-- Read an environment. -/
def Environment.ofValue? (format : Format) (value : Value) : Option Environment := do
  let fields ← value.fields? format Environment.outline.names
  return {
    name := ← fields.required? "name" Value.text?
    pipelines := ← fields.default? "pipelines" [] (Value.list? Value.name?) }

/-- What is looked at in a role. -/
def Role.outline : Outline := .record [("name", .whole), ("users", .list .whole)]

/-- Read a role. -/
def Role.ofValue? (format : Format) (value : Value) : Option Role := do
  let fields ← value.fields? format Role.outline.names
  return {
    name := ← fields.required? "name" Value.name?
    users := ← fields.default? "users" [] (Value.list? Value.name?) }

/-- What is looked at in who may administer the server. -/
def Security.outline : Outline := .record [("admins", .list .whole), ("roles", .list Role.outline)]

/-- Read who may administer the server. -/
def Security.ofValue? (format : Format) (value : Value) : Option Security := do
  let fields ← value.fields? format Security.outline.names
  return {
    admins := ← fields.default? "admins" [] (Value.list? Value.name?)
    roles := ← fields.default? "roles" [] (Value.list? (Role.ofValue? format)) }

/-- What is looked at in a configuration. -/
def Configuration.outline : Outline :=
  .record [("groups", .list Group.outline), ("templates", .list Template.outline),
    ("environments", .list Environment.outline), ("security", Security.outline)]

/-- Read a configuration. -/
def Configuration.ofValue? (format : Format) (value : Value) : Option Configuration := do
  let fields ← value.fields? format Configuration.outline.names
  return {
    groups := ← fields.default? "groups" [] (Value.list? (Group.ofValue? format))
    templates := ← fields.default? "templates" [] (Value.list? (Template.ofValue? format))
    environments := ← fields.default? "environments" [] (Value.list? (Environment.ofValue? format))
    security := ← fields.default? "security" {} (Security.ofValue? format) }

end PipelineConfig
