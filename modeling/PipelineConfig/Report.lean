import PipelineConfig.Finding

/-!
# Reports

A report has the shape of the pipeline it speaks of and holds the messages of each node. It can be
written into the pipeline, where it replaces whatever was recorded before.
-/

namespace PipelineConfig

/-- The messages for a job and its tasks. -/
structure JobReport where
  /-- Messages for the job itself. -/
  errors : FieldErrors := .none
  /-- Messages for each task. -/
  tasks : List FieldErrors := []
deriving DecidableEq, Repr

/-- The messages for a stage and everything in it. -/
structure StageReport where
  /-- Messages for the stage itself. -/
  errors : FieldErrors := .none
  /-- Reports for each job. -/
  jobs : List JobReport := []
deriving DecidableEq, Repr

/-- The messages for a pipeline and everything in it. -/
structure PipelineReport where
  /-- Whether every check was passed. -/
  valid : Bool := false
  /-- Messages for the pipeline itself. -/
  errors : FieldErrors := .none
  /-- Messages for the materials as a whole. -/
  materials : FieldErrors := .none
  /-- Messages for each material. -/
  materialErrors : List FieldErrors := []
  /-- Reports for each stage. -/
  stages : List StageReport := []
  /-- Messages for each parameter. -/
  params : List FieldErrors := []
  /-- Messages for each environment variable. -/
  environmentVariables : List FieldErrors := []
  /-- Messages for the issue tracker. -/
  trackingTool : FieldErrors := .none
  /-- Messages for the planning tool. -/
  mingle : FieldErrors := .none
  /-- Messages for the start by the clock. -/
  timer : FieldErrors := .none
deriving DecidableEq, Repr

/-- The members of a list with their messages replaced; members beyond the last message stay. -/
def applyEach {α β : Type} (replace : β → α → α) : List β → List α → List α
  | report :: reports, node :: nodes => replace report node :: applyEach replace reports nodes
  | _, nodes => nodes

namespace JobReport

/-- The messages of a report, node by node. -/
def parts (report : JobReport) : List FieldErrors := report.errors :: report.tasks

/-- Write a report into the job it speaks of. -/
def apply (report : JobReport) (job : Job) : Job :=
  { job with
    errors := report.errors
    tasks := applyEach (fun errors task => { task with errors }) report.tasks job.tasks }

end JobReport

/-- The sum of a size over several nodes. -/
def sumOver {α : Type} (size : α → Nat) (nodes : List α) : Nat :=
  nodes.foldr (fun node sum => size node + sum) 0

namespace StageReport

/-- The messages of a report, node by node. -/
def parts (report : StageReport) : List FieldErrors :=
  report.errors :: report.jobs.flatMap JobReport.parts

/-- Whether no node has a message. -/
def isClean (report : StageReport) : Bool :=
  report.errors.isEmpty &&
    report.jobs.all fun job => job.errors.isEmpty && job.tasks.all FieldErrors.isEmpty

/-- The number of messages. -/
def count (report : StageReport) : Nat :=
  report.errors.count +
    sumOver (fun job => job.errors.count + sumOver FieldErrors.count job.tasks) report.jobs

theorem isClean_eq_parts (report : StageReport) :
    report.isClean = report.parts.all FieldErrors.isEmpty := by
  rw [isClean, parts, List.all_cons, List.all_flatMap]
  rfl

/-- Write a report into the stage it speaks of. -/
def apply (report : StageReport) (stage : Stage) : Stage :=
  { stage with
    errors := report.errors
    jobs := applyEach JobReport.apply report.jobs stage.jobs }

end StageReport

namespace PipelineReport

/-- The messages of a report, node by node. -/
def parts (report : PipelineReport) : List FieldErrors :=
  [report.errors, report.materials] ++ report.materialErrors ++
    report.stages.flatMap StageReport.parts ++ report.params ++ report.environmentVariables ++
    [report.trackingTool, report.mingle, report.timer]

/-- Whether no node has a message. -/
def isClean (report : PipelineReport) : Bool := report.parts.all FieldErrors.isEmpty

/-- The number of messages. -/
def count (report : PipelineReport) : Nat :=
  report.errors.count + report.materials.count +
    sumOver FieldErrors.count report.materialErrors + sumOver StageReport.count report.stages +
    sumOver FieldErrors.count report.params +
    sumOver FieldErrors.count report.environmentVariables +
    report.trackingTool.count + report.mingle.count + report.timer.count

/-- Write a report into the pipeline it speaks of. -/
def apply (report : PipelineReport) (pipeline : Pipeline) : Pipeline :=
  { pipeline with
    errors := report.errors
    materials :=
      ⟨applyEach (fun errors material => { material with errors }) report.materialErrors
        pipeline.materials.items, report.materials⟩
    stages := applyEach StageReport.apply report.stages pipeline.stages
    params := applyEach (fun errors parameter => { parameter with errors }) report.params
      pipeline.params
    environmentVariables := applyEach (fun errors binding => { binding with errors })
      report.environmentVariables pipeline.environmentVariables
    trackingTool := pipeline.trackingTool.map fun tool =>
      { tool with errors := report.trackingTool }
    mingle := pipeline.mingle.map fun mingle => { mingle with errors := report.mingle }
    timer := pipeline.timer.map fun timer => { timer with errors := report.timer } }

end PipelineReport

end PipelineConfig
