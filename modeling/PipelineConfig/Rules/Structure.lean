import PipelineConfig.Label
import PipelineConfig.Scope

/-!
# Rules for pipelines, stages and jobs

What each of these nodes must keep by itself: a valid name that no sibling shares, and something
to run.
-/

namespace PipelineConfig

/-- Whether more than one member of a list meets a condition. -/
def occursTwice {α : Type} (members : List α) (meets : α → Bool) : Bool := 1 < members.countP meets

namespace Pipeline

/-- What is wrong with a pipeline by itself: its name and its label template. -/
def ownProblems (pipeline : Pipeline) : List Problem :=
  Problem.when (!Name.isValid pipeline.name.text)
    (.invalidName "name" "pipeline" pipeline.name.text) ++
  Label.problems pipeline

/-- What is wrong with the source of a pipeline's stages: it is either a list of its own or a
template that exists. -/
def stageSourceProblems (pipeline : Pipeline) (catalog : Catalog) : List Problem :=
  match pipeline.template with
  | none => Problem.when pipeline.stages.isEmpty .noStages
  | some template =>
    (if pipeline.stages.isEmpty then []
      else [.stagesBesideTemplate pipeline.name template,
        .templateBesideStages template pipeline.name]) ++
    Problem.when (!catalog.hasTemplate template) (.unknownTemplate template)

end Pipeline

namespace Stage

/-- The stages among which a stage of this scope must have a name of its own. -/
def siblings (scope : Scope) : List Stage :=
  match scope.parent? with
  | some (.template template) => template.stages
  | _ => (scope.pipeline?.map Pipeline.stages).getD []

/-- What is wrong with a stage. -/
def problems (stage : Stage) (scope : Scope) : List Problem :=
  Problem.when (!Name.isValid stage.name.text) (.invalidName "name" "stage" stage.name.text) ++
  Problem.when (occursTwice (siblings scope) fun other => other.name.same stage.name)
    (.duplicateStage stage.name) ++
  Problem.when stage.jobs.isEmpty (.noJobs stage.name)

end Stage

namespace Job

/-- What is wrong with a job. -/
def problems (job : Job) (scope : Scope) : List Problem :=
  Problem.when (!Name.isValid job.name.text) (.invalidName "name" "job" job.name.text) ++
  Problem.when
    (scope.stage?.any fun stage => occursTwice stage.jobs fun other => other.name.same job.name)
    (.duplicateJob job.name) ++
  Problem.when job.tasks.isEmpty (.noTasks job.name)

end Job

end PipelineConfig
