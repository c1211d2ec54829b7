import PipelineConfig.Failure
import PipelineConfig.FieldErrors

/-!
# Problems

What can be wrong with a node of a configuration. Every problem belongs to a field of its node and
has one wording. Where a problem names the place of a task, the place is given as text.
-/

namespace PipelineConfig

/-- Something wrong with a node. -/
inductive Problem where
  /-- A text cannot name a node of a kind. -/
  | invalidName (field kind name : String)
  /-- A label template refers to nothing at all. -/
  | constantLabel (template : String)
  /-- A label template refers to a material that the pipeline lacks. -/
  | unknownLabelMaterial (pipeline : Name) (reference : String)
  /-- A pipeline has neither stages nor template. -/
  | noStages
  /-- A pipeline has stages although it references a template. -/
  | stagesBesideTemplate (pipeline template : Name)
  /-- A pipeline references a template although it has stages. -/
  | templateBesideStages (template pipeline : Name)
  /-- A pipeline references a template that does not exist. -/
  | unknownTemplate (template : Name)
  /-- What another pipeline says of the edited one no longer holds. -/
  | brokenReference (message : String) (downstream : Name)
  /-- What another pipeline fetches from the edited one is no longer there. -/
  | brokenFetch (message : String)
  /-- The dependencies of a pipeline cannot be followed. -/
  | brokenDependencies (failure : Failure)
  /-- Another stage has the name. -/
  | duplicateStage (name : Name)
  /-- A stage has no jobs. -/
  | noJobs (stage : Name)
  /-- Another job has the name. -/
  | duplicateJob (name : Name)
  /-- A job has no tasks. -/
  | noTasks (job : Name)
  /-- A task works outside the folder of its job. -/
  | workingDirectoryOutside (taskType place directory : String)
  /-- A command is blank. -/
  | blankCommand
  /-- The name of a plugin is blank. -/
  | blankPlugin
  /-- A fetch task names no stage. -/
  | blankFetchStage
  /-- A fetch task names no job. -/
  | blankFetchJob
  /-- A fetch task names no artifact. -/
  | blankFetchSource
  /-- A fetch task writes outside the folder of its job. -/
  | fetchDestinationOutside (place destination : String)
  /-- A fetch path steps to a pipeline that is not upstream. -/
  | fetchNotUpstream (downstream upstream : Name)
  /-- A fetch path steps to a pipeline that does not exist. -/
  | fetchUnknownPipeline (pipeline upstream : Name)
  /-- A pipeline fetches from one of its stages that is not over by then. -/
  | fetchTooEarly (pipeline current wanted : Name)
  /-- A fetch task names a stage that does not exist. -/
  | fetchUnknownStage (pipeline target stage : Name)
  /-- A fetch task names a job that does not exist. -/
  | fetchUnknownJob (pipeline target stage job : Name)
  /-- Another material has the name. -/
  | duplicateMaterial (name : Name)
  /-- A material is checked out outside the working folder. -/
  | folderOutside (folder : String)
  /-- A repository has no address. -/
  | blankUrl
  /-- A perforce server has no address. -/
  | blankPort
  /-- A perforce material has no view. -/
  | blankView
  /-- A team foundation material has no project. -/
  | blankProjectPath
  /-- A package material names no package. -/
  | blankPackage
  /-- A plugin material names no repository. -/
  | blankScm
  /-- A dependency names a pipeline that does not exist. -/
  | unknownUpstream (upstream : Name) (pipeline : String)
  /-- A dependency names a stage that its upstream pipeline lacks. -/
  | unknownUpstreamStage (stage upstream : Name)
  /-- Another pipeline polls the same source in another way. -/
  | autoUpdateConflict (sourceType address : String)
  /-- Another parameter has the name. -/
  | duplicateParameter (name : String)
  /-- A variable has no name. -/
  | blankVariable
  /-- Another variable has the name. -/
  | duplicateVariable (name pipeline : String)
  /-- A tracking link has no place for the issue. -/
  | linkWithoutIssue
  /-- A tracking pattern is blank. -/
  | blankRegex
  /-- A tracking pattern is not well formed. -/
  | invalidRegex (regex : String) (explanation : Option String)
  /-- A planning server is not reached safely. -/
  | insecureMingleUrl
  /-- A planning project is blank. -/
  | blankMingleProject
  /-- A cron expression has the wrong number of fields. -/
  | malformedTimer (spec : String) (fields : Nat)
deriving DecidableEq, Repr

namespace Problem

/-- The field of the node that a problem is recorded against. -/
def field : Problem → String
  | invalidName field _ _ => field
  | constantLabel _ | unknownLabelMaterial .. => "labelTemplate"
  | noStages | stagesBesideTemplate .. => "stages"
  | templateBesideStages .. | unknownTemplate _ => "template"
  | brokenReference .. | brokenFetch _ | brokenDependencies _ => FieldErrors.base
  | duplicateStage _ | duplicateJob _ => "name"
  | noJobs _ => "jobs"
  | noTasks _ => "tasks"
  | workingDirectoryOutside .. => "workingDirectory"
  | blankCommand => "command"
  | blankPlugin => "pluginId"
  | blankFetchStage => "stage"
  | blankFetchJob => "job"
  | blankFetchSource => "src"
  | fetchDestinationOutside .. => "dest"
  | fetchNotUpstream .. | fetchUnknownPipeline .. => "pipeline"
  | fetchTooEarly .. | fetchUnknownStage .. => "stage"
  | fetchUnknownJob .. => "job"
  | duplicateMaterial _ => "materialName"
  | folderOutside _ => "folder"
  | blankUrl => "url"
  | blankPort => "port"
  | blankView => "view"
  | blankProjectPath => "projectPath"
  | blankPackage => "packageId"
  | blankScm => "scmId"
  | unknownUpstream .. => "pipelineName"
  | unknownUpstreamStage .. => "stageName"
  | autoUpdateConflict .. => "autoUpdate"
  | duplicateParameter _ | blankVariable | duplicateVariable .. => "name"
  | linkWithoutIssue => "link"
  | blankRegex | invalidRegex .. => "regex"
  | insecureMingleUrl => "baseUrl"
  | blankMingleProject => "projectIdentifier"
  | malformedTimer .. => "timerSpec"

/-- How a problem is told. -/
def message : Problem → String
  | invalidName _ kind name =>
    s!"Invalid {kind} name '{name}'. This must be alphanumeric and can contain underscores, " ++
      "hyphens and periods (however, it cannot start with a period). The maximum allowed length " ++
      s!"is {Name.maxLength} characters."
  | constantLabel template =>
    s!"Invalid label '{template}'. Label should be composed of alphanumeric text, it may " ++
      "contain the build number as $\x7bCOUNT\x7d, it may contain a material revision as " ++
      "$\x7b<material-name>\x7d."
  | unknownLabelMaterial pipeline reference =>
    s!"You have defined a label template in pipeline '{pipeline.text}' that refers to a " ++
      s!"material called '{reference}', but no material with this name is defined."
  | noStages => "A pipeline must have at least one stage"
  | stagesBesideTemplate pipeline template =>
    s!"Cannot add stages to pipeline '{pipeline.text}' which already references template " ++
      s!"'{template.text}'"
  | templateBesideStages template pipeline =>
    s!"Cannot set template '{template.text}' on pipeline '{pipeline.text}' because it already " ++
      "has stages defined"
  | unknownTemplate template => s!"Template '{template.text}' does not exist"
  | brokenReference message downstream =>
    s!"{message}, it is being referred to from pipeline '{downstream.text}'"
  | brokenFetch message => message
  | brokenDependencies failure => failure.message
  | duplicateStage name =>
    s!"You have defined multiple stages called '{name.text}'. Stage names are " ++
      "case-insensitive and must be unique."
  | noJobs stage => s!"Stage '{stage.text}' must have at least one job"
  | duplicateJob name =>
    s!"You have defined multiple jobs called '{name.text}'. Job names are " ++
      "case-insensitive and must be unique."
  | noTasks job => s!"Job '{job.text}' must have at least one task"
  | workingDirectoryOutside taskType place directory =>
    s!"The path of the working directory for the {taskType} task in {place} is outside the " ++
      s!"agent sandbox: '{directory}'"
  | blankCommand => "Command cannot be empty"
  | blankPlugin => "Plugin id cannot be empty"
  | blankFetchStage => "Stage is a required field."
  | blankFetchJob => "Job is a required field."
  | blankFetchSource => "Should provide either src or source"
  | fetchDestinationOutside place destination =>
    s!"Task of {place} has dest path '{destination}' which is outside the working directory."
  | fetchNotUpstream downstream upstream =>
    s!"Pipeline \"{downstream.text}\" tries to fetch artifact from pipeline " ++
      s!"\"{upstream.text}\" which is not an upstream pipeline"
  | fetchUnknownPipeline pipeline upstream =>
    s!"Pipeline \"{pipeline.text}\" tries to fetch artifact from pipeline " ++
      s!"\"{upstream.text}\" which does not exist."
  | fetchTooEarly pipeline current wanted =>
    s!"\"{pipeline.text} :: {current.text}\" tries to fetch artifact from its stage " ++
      s!"\"{wanted.text}\" which does not complete before the current stage " ++
      s!"\"{current.text}\"."
  | fetchUnknownStage pipeline target stage =>
    s!"\"{pipeline.text}\" tries to fetch artifact from stage " ++
      s!"\"{target.text} :: {stage.text}\" which does not exist."
  | fetchUnknownJob pipeline target stage job =>
    s!"\"{pipeline.text}\" tries to fetch artifact from job " ++
      s!"\"{target.text} :: {stage.text} :: {job.text}\" which does not exist."
  | duplicateMaterial name =>
    s!"You have defined multiple materials called '{name.text}'. Material names are " ++
      "case-insensitive and must be unique. Note that for dependency materials the default " ++
      "materialName is the name of the upstream pipeline."
  | folderOutside folder =>
    s!"Dest folder '{folder}' is not valid. It must be a sub-directory of the working folder."
  | blankUrl => "URL cannot be blank"
  | blankPort => "P4 port cannot be empty."
  | blankView => "P4 view cannot be empty."
  | blankProjectPath => "Project Path cannot be blank"
  | blankPackage => "Please select a repository and package"
  | blankScm => "Please select a SCM"
  | unknownUpstream upstream pipeline =>
    s!"Pipeline with name '{upstream.text}' does not exist, it is defined as a dependency for " ++
      s!"pipeline '{pipeline}'"
  | unknownUpstreamStage stage upstream =>
    s!"Stage with name '{stage.text}' does not exist on pipeline '{upstream.text}'"
  | autoUpdateConflict sourceType address =>
    s!"Material of type {sourceType} ({address}) is specified more than once in the " ++
      "configuration with different values for the autoUpdate attribute. All copies of a " ++
      "material must have the same value for this attribute."
  | duplicateParameter name => s!"Param name '{name}' is not unique for pipeline"
  | blankVariable => "Environment Variable cannot have an empty name"
  | duplicateVariable name pipeline =>
    s!"Environment Variable name '{name}' is not unique for pipeline '{pipeline}'"
  | linkWithoutIssue => "Link must be a URL containing '$\x7bID\x7d'"
  | blankRegex => "Regex should be populated"
  | invalidRegex regex none => s!"Regex '{regex}' is invalid"
  | invalidRegex regex (some explanation) => s!"Regex '{regex}' is invalid: {explanation}"
  | insecureMingleUrl => "Should be a URL starting with https://"
  | blankMingleProject => "Should be a valid mingle identifier."
  | malformedTimer spec fields =>
    s!"Invalid cron syntax '{spec}': expected 6 or 7 fields, found {fields}"

/-- The problem as a list, if there is one. -/
def when (condition : Bool) (problem : Problem) : List Problem :=
  if condition then [problem] else []

end Problem

namespace FieldErrors

/-- Record problems one after the other. -/
def addProblems (errors : FieldErrors) (problems : List Problem) : FieldErrors :=
  problems.foldl (fun errors problem => errors.add problem.field problem.message) errors

/-- The record of a list of problems. -/
def ofProblems (problems : List Problem) : FieldErrors := none.addProblems problems

theorem on_addProblems (errors : FieldErrors) (problems : List Problem) (field : String) :
    (errors.addProblems problems).on field =
      errors.on field ++
        (problems.filter fun problem => problem.field = field).map Problem.message := by
  induction problems generalizing errors with
  | nil => simp [addProblems]
  | cons problem rest ih =>
    have step := ih (errors.add problem.field problem.message)
    simp only [addProblems, List.foldl_cons] at step ⊢
    rw [step, on_add]
    by_cases equal : problem.field = field <;> simp [equal]

/-- Nothing is lost and nothing is merged: each problem gives one message. -/
theorem count_addProblems (errors : FieldErrors) (problems : List Problem) :
    (errors.addProblems problems).count = errors.count + problems.length := by
  induction problems generalizing errors with
  | nil => simp [addProblems]
  | cons problem rest ih =>
    have step := ih (errors.add problem.field problem.message)
    simp only [addProblems, List.foldl_cons, List.length_cons] at step ⊢
    rw [step, count_add]
    omega

end FieldErrors

end PipelineConfig
