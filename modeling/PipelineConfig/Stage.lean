import PipelineConfig.Task

/-!
# Stages and templates

A stage runs jobs, a job runs tasks. A template is a list of stages that pipelines can use instead
of stages of their own.
-/

namespace PipelineConfig

/-- A job of a stage. -/
structure Job where
  /-- The name, meant to be the only one of its kind in the stage. -/
  name : Name
  /-- The steps. -/
  tasks : List Task := []
  /-- Messages recorded against the job. -/
  errors : FieldErrors := .none
deriving DecidableEq, Repr

/-- A stage of a pipeline or template. -/
structure Stage where
  /-- The name, meant to be the only one of its kind in the pipeline. -/
  name : Name
  /-- The jobs. -/
  jobs : List Job := []
  /-- Messages recorded against the stage. -/
  errors : FieldErrors := .none
deriving DecidableEq, Repr

/-- Stages for pipelines to share. -/
structure Template where
  /-- The name. -/
  name : Name
  /-- The stages in the order in which they run. -/
  stages : List Stage := []
deriving DecidableEq, Repr

/-- The job without recorded messages. -/
def Job.clearErrors (job : Job) : Job :=
  { job with tasks := job.tasks.map Task.clearErrors, errors := .none }

/-- Whether a stage has a job of this name. -/
def Stage.hasJob (stage : Stage) (name : Name) : Bool :=
  stage.jobs.any fun job => job.name.same name

/-- The stage without recorded messages. -/
def Stage.clearErrors (stage : Stage) : Stage :=
  { stage with jobs := stage.jobs.map Job.clearErrors, errors := .none }

/-- The template without recorded messages. -/
def Template.clearErrors (template : Template) : Template :=
  { template with stages := template.stages.map Stage.clearErrors }

/-- The first stage of a name. -/
def findStage? (stages : List Stage) (name : Name) : Option Stage :=
  stages.find? fun stage => stage.name.same name

/-- The position of the first stage of a name. -/
def stagePosition? (stages : List Stage) (name : Name) : Option Nat :=
  stages.findIdx? fun stage => stage.name.same name

end PipelineConfig
