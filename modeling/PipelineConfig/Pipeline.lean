import PipelineConfig.Material
import PipelineConfig.Stage

/-!
# Pipelines

A pipeline is polled for materials and runs its stages, or those of the template it references.
-/

namespace PipelineConfig

/-- A value substituted for `#{name}`. -/
structure Parameter where
  /-- The name. -/
  name : String
  /-- The value. -/
  value : String := ""
  /-- Messages recorded against the parameter. -/
  errors : FieldErrors := .none
deriving DecidableEq, Repr

/-- An environment variable that every job of the pipeline sees. -/
structure Variable where
  /-- The name. -/
  name : String
  /-- The value. -/
  value : String := ""
  /-- Whether the value is kept secret. -/
  secure : Bool := false
  /-- Messages recorded against the variable. -/
  errors : FieldErrors := .none
deriving DecidableEq, Repr

/-- How commit messages lead to an issue tracker. -/
structure TrackingTool where
  /-- The address of an issue. -/
  link : String
  /-- The pattern that finds an issue number. -/
  regex : String
  /-- Messages recorded against the tool. -/
  errors : FieldErrors := .none
deriving DecidableEq, Repr

/-- A project of the planning tool Mingle. -/
structure Mingle where
  /-- The address of the server. -/
  baseUrl : String
  /-- The project. -/
  projectIdentifier : String
  /-- The condition on cards. -/
  mql : Option String := none
  /-- Messages recorded against the integration. -/
  errors : FieldErrors := .none
deriving DecidableEq, Repr

/-- When the pipeline starts by the clock. -/
structure Timer where
  /-- A cron expression that begins with seconds. -/
  spec : String
  /-- Whether the pipeline starts only after a change. -/
  onlyOnChanges : Bool := false
  /-- Messages recorded against the timer. -/
  errors : FieldErrors := .none
deriving DecidableEq, Repr

/-- A pipeline definition. -/
structure Pipeline where
  /-- The name, meant to be the only one of its kind in the configuration. -/
  name : Name
  /-- How runs are labelled. -/
  labelTemplate : String := "$\x7bCOUNT\x7d"
  /-- What is polled for changes. -/
  materials : Materials := {}
  /-- The stages in the order in which they run; none when a template is referenced. -/
  stages : List Stage := []
  /-- The template that gives the stages. -/
  template : Option Name := none
  /-- The parameters. -/
  params : List Parameter := []
  /-- The environment variables. -/
  environmentVariables : List Variable := []
  /-- The issue tracker. -/
  trackingTool : Option TrackingTool := none
  /-- The planning tool. -/
  mingle : Option Mingle := none
  /-- The start by the clock. -/
  timer : Option Timer := none
  /-- Messages recorded against the pipeline itself. -/
  errors : FieldErrors := .none
deriving DecidableEq, Repr

/-- The same without recorded messages. -/
def Parameter.clearErrors (parameter : Parameter) : Parameter := { parameter with errors := .none }

/-- The same without recorded messages. -/
def Variable.clearErrors (binding : Variable) : Variable := { binding with errors := .none }

/-- The same without recorded messages. -/
def TrackingTool.clearErrors (tool : TrackingTool) : TrackingTool := { tool with errors := .none }

/-- The same without recorded messages. -/
def Mingle.clearErrors (mingle : Mingle) : Mingle := { mingle with errors := .none }

/-- The same without recorded messages. -/
def Timer.clearErrors (timer : Timer) : Timer := { timer with errors := .none }

namespace Pipeline

/-- The pipelines it waits for, as a set. -/
def upstreams (pipeline : Pipeline) : NameSet := pipeline.materials.upstreams

/-- Whether it references a template. -/
def hasTemplate (pipeline : Pipeline) : Bool := pipeline.template.isSome

/-- The pipeline without recorded messages on any of its nodes. -/
def clearErrors (pipeline : Pipeline) : Pipeline :=
  { pipeline with
    materials := pipeline.materials.clearErrors
    stages := pipeline.stages.map Stage.clearErrors
    params := pipeline.params.map Parameter.clearErrors
    environmentVariables := pipeline.environmentVariables.map Variable.clearErrors
    trackingTool := pipeline.trackingTool.map TrackingTool.clearErrors
    mingle := pipeline.mingle.map Mingle.clearErrors
    timer := pipeline.timer.map Timer.clearErrors
    errors := .none }

end Pipeline

end PipelineConfig
