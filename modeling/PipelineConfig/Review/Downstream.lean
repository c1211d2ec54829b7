import PipelineConfig.Catalog.Downstream
import PipelineConfig.Rules.Material
import PipelineConfig.Rules.Task

/-!
# What others say of an edit

An edit can break pipelines that it does not touch. Their dependency materials and fetch tasks that
speak of the edited pipeline are checked again, in a scope where the edit stands in for the
committed pipeline, and what is wrong with them is told to the edit.
-/

namespace PipelineConfig.Review

/-- The committed pipelines among some names. -/
def committed (catalog : Catalog) (names : List Name) : List Pipeline :=
  names.filterMap catalog.pipeline?

/-- The messages that a list of problems gives, field by field. -/
def messages (problems : List Problem) : List String := (FieldErrors.ofProblems problems).all

/-- The dependency materials of another pipeline that the edit breaks. -/
def brokenReferences (edited : Name) (scope : Scope) (downstream : Pipeline) : List Problem :=
  let inside := scope.outermost.within (.pipeline downstream)
  (downstream.materials.items.filter fun material => material.dependsOn edited).flatMap
    fun material => (messages (material.problems inside)).map
      fun message => .brokenReference message downstream.name

/-- The dependency materials of other pipelines that the edit breaks. -/
def downstreamDependencyProblems (pipeline : Pipeline) (scope : Scope) : List Problem :=
  let others := (scope.catalog.downstreamsOf pipeline.name).toList.filter
    fun name => !name.same pipeline.name
  (committed scope.catalog others).flatMap (brokenReferences pipeline.name scope)

/-- Whether a task fetches along a path through a pipeline. -/
def fetchesThrough (name : Name) (task : Task) : Bool :=
  task.fetch?.any fun fetch => fetch.passesThrough name

/-- The fetch tasks of another pipeline's own stages that the edit breaks. -/
def brokenFetches (edited : Name) (scope : Scope) (downstream : Pipeline) : List Problem :=
  let inside := scope.outermost.within (.pipeline downstream)
  downstream.stages.flatMap fun stage =>
    stage.jobs.flatMap fun job =>
      (job.tasks.filter (fetchesThrough edited)).flatMap fun task =>
        let scope := (inside.within (.stage stage)).within (.job job)
        (messages (task.problems scope)).map .brokenFetch

/-- The fetch tasks of other pipelines that the edit breaks. -/
def downstreamFetchProblems (pipeline : Pipeline) (scope : Scope) : List Problem :=
  let others := (scope.catalog.transitiveDownstreamsOf pipeline.name).toList
  (committed scope.catalog others).flatMap (brokenFetches pipeline.name scope)

end PipelineConfig.Review
