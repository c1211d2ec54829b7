import PipelineConfig.Report
import PipelineConfig.Review.Downstream
import PipelineConfig.Rules.Extras
import PipelineConfig.Rules.Structure

/-!
# Reviews

A review checks every node of a proposed pipeline against a catalog and collects what it finds in
a report. No finding keeps a later check from running.
-/

namespace PipelineConfig

/-- Check a job and its tasks. The scope is that of the job. -/
def Job.review (job : Job) (scope : Scope) : JobReport where
  errors := .ofProblems (job.problems scope)
  tasks := job.tasks.map fun task => .ofProblems (task.problems (scope.within (.job job)))

/-- Check a stage and everything in it. The scope is that of the stage. -/
def Stage.review (stage : Stage) (scope : Scope) : StageReport where
  errors := .ofProblems (stage.problems scope)
  jobs := stage.jobs.map fun job => job.review (scope.within (.stage stage))

namespace Template

/-- Check the stages of a template. -/
def review (template : Template) (catalog : Catalog) : List StageReport :=
  template.stages.map fun stage =>
    stage.review ((Scope.mk catalog none []).within (.template template))

/-- Check a template: whether nothing is wrong with it, and the template with all that is recorded
on its nodes. -/
def validate (template : Template) (catalog : Catalog) : Bool × Template :=
  let reports := template.review catalog
  (reports.all StageReport.isClean,
    { template with stages := applyEach StageReport.apply reports template.stages })

end Template

namespace Pipeline

/-- What keeps the dependencies of a pipeline from being followed, if the edit is made. -/
def dependencyProblems (pipeline : Pipeline) (scope : Scope) : List Problem :=
  match (scope.proposedView pipeline).findCycle pipeline.name with
  | .error failure => [.brokenDependencies failure]
  | .ok () => []

/-- What is wrong with the pipeline itself, apart from its nodes. -/
def problems (pipeline : Pipeline) (scope : Scope) : List Problem :=
  pipeline.ownProblems ++ Review.downstreamDependencyProblems pipeline scope ++
    pipeline.stageSourceProblems scope.catalog ++ Review.downstreamFetchProblems pipeline scope

/-- The verdict after more checks: it stays good as long as they find nothing. -/
def confirm (valid : Bool) (checks : List FieldErrors) : Bool :=
  checks.foldl (fun valid errors => errors.isEmpty && valid) valid

variable [Pattern.Engine]

/-- Check a pipeline and everything in it. The scope is that of the pipeline. -/
def reviewIn (pipeline : Pipeline) (scope : Scope) : PipelineReport :=
  let inside := scope.within (.pipeline pipeline)
  let own := pipeline.ownProblems ++ Review.downstreamDependencyProblems pipeline scope ++
    pipeline.stageSourceProblems scope.catalog
  let stages := pipeline.stages.map fun stage => stage.review inside
  let dependencies := .ofProblems (pipeline.dependencyProblems scope)
  let materials := pipeline.materials.items.map fun material =>
    .ofProblems (material.problems inside)
  let params := pipeline.params.map fun parameter => .ofProblems (parameter.problems inside)
  let bindings := pipeline.environmentVariables.map fun binding =>
    .ofProblems (binding.problems inside)
  let tool := pipeline.trackingTool.map fun tool => FieldErrors.ofProblems tool.problems
  let mingle := pipeline.mingle.map fun mingle => FieldErrors.ofProblems mingle.problems
  let timer := pipeline.timer.map fun timer => FieldErrors.ofProblems timer.problems
  let fetches := .ofProblems (Review.downstreamFetchProblems pipeline scope)
  let valid := (FieldErrors.ofProblems own).isEmpty
  let valid := stages.foldl (fun valid report => report.isClean && valid) valid
  let valid := confirm valid [dependencies]
  let valid := confirm valid materials
  let valid := confirm valid params
  let valid := confirm valid bindings
  let valid := confirm valid (tool.toList ++ mingle.toList ++ timer.toList)
  { valid := confirm valid [fetches]
    errors := .ofProblems (pipeline.problems scope)
    materials := dependencies
    materialErrors := materials
    stages := stages
    params := params
    environmentVariables := bindings
    trackingTool := tool.getD .none
    mingle := mingle.getD .none
    timer := timer.getD .none }

/-- Check a proposed pipeline against a catalog. -/
def review (pipeline : Pipeline) (catalog : Catalog) : PipelineReport :=
  pipeline.reviewIn (.ofEdit catalog pipeline)

/-- Check a proposed pipeline: whether nothing is wrong with it, and the pipeline with all that is
recorded on its nodes. -/
def validate (pipeline : Pipeline) (catalog : Catalog) : Bool × Pipeline :=
  let report := pipeline.review catalog
  (report.valid, report.apply pipeline)

end Pipeline

end PipelineConfig
