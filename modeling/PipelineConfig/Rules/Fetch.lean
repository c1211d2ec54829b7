import PipelineConfig.Problem
import PipelineConfig.Sandbox
import PipelineConfig.Scope

/-!
# Rules for fetch tasks

A fetch task names a stage and a job that exist and are over before the task runs: in an earlier
stage of its own pipeline, or in a pipeline upstream of it. The path to that pipeline is written
ancestor first, so it is followed from its end.
-/

namespace PipelineConfig

/-- Where a task stands, as far as the scope knows. -/
def Scope.taskPlace (scope : Scope) : String :=
  let job := (scope.job?.map fun job => job.name.text).getD "?"
  let stage := (scope.stage?.map fun stage => stage.name.text).getD "?"
  let pipeline := (scope.pipeline?.map fun pipeline => pipeline.name.text).getD "?"
  s!"job '{job}' in stage '{stage}' of pipeline '{pipeline}'"

namespace FetchTask

/-- What is wrong with the task apart from its target. -/
def formProblems (fetch : FetchTask) (scope : Scope) : List Problem :=
  Problem.when fetch.stage.isBlank .blankFetchStage ++
  Problem.when fetch.job.isBlank .blankFetchJob ++
  Problem.when (Text.isBlank fetch.source) .blankFetchSource ++
  match fetch.destination with
  | some destination =>
    Problem.when (!Sandbox.isInside destination)
      (.fetchDestinationOutside scope.taskPlace destination)
  | none => []

/-- Whether the wanted stage and job are among the stages that `target` runs. -/
def targetProblems (fetch : FetchTask) (stages : List Stage) (current target : Pipeline) :
    List Problem :=
  match findStage? stages fetch.stage with
  | none => [.fetchUnknownStage current.name target.name fetch.stage]
  | some stage =>
    Problem.when (!stage.hasJob fetch.job)
      (.fetchUnknownJob current.name target.name fetch.stage fetch.job)

/-- What is wrong with fetching from the pipeline's own stages: the wanted stage must stand before
the one the task is in. -/
def localProblems (fetch : FetchTask) (scope : Scope) (current : Pipeline) : List Problem :=
  let stages := scope.stagesOf current
  let here := scope.stage?.bind fun stage => findStage? stages stage.name
  match here, here.bind fun stage => stagePosition? stages stage.name,
    stagePosition? stages fetch.stage with
  | some stage, some position, some wanted =>
    if position ≤ wanted then [.fetchTooEarly current.name stage.name fetch.stage]
    else fetch.targetProblems stages current current
  | _, _, _ => fetch.targetProblems stages current current

/-- Follow a path of upstream pipelines, nearest first. -/
def follow (scope : Scope) (current previous : Pipeline) : List Name → Except Problem Pipeline
  | [] => .ok previous
  | segment :: rest =>
    if !previous.upstreams.has segment then .error (.fetchNotUpstream previous.name segment)
    else
      match scope.lookup? segment with
      | none => .error (.fetchUnknownPipeline current.name segment)
      | some next => follow scope current next rest

/-- Whether the path leads nowhere else than to the pipeline itself. -/
def isLocal (fetch : FetchTask) (current : Pipeline) : Bool :=
  match fetch.path with
  | [] => true
  | [segment] => segment.same current.name
  | _ => false

/-- What is wrong with the target of a task in a pipeline. -/
def resolutionProblems (fetch : FetchTask) (scope : Scope) (current : Pipeline) : List Problem :=
  if fetch.isLocal current then fetch.localProblems scope current
  else
    match follow scope current current fetch.path.reverse with
    | .error problem => [problem]
    | .ok target => fetch.targetProblems (scope.stagesOf target) current target

/-- What is wrong with a fetch task. Its target is looked for only in pipelines with stages of
their own, and only if it names one. -/
def problems (fetch : FetchTask) (scope : Scope) : List Problem :=
  fetch.formProblems scope ++
  if scope.isTemplated || scope.template?.isSome || fetch.stage.isBlank || fetch.job.isBlank then []
  else
    match scope.pipeline? with
    | none => []
    | some current => fetch.resolutionProblems scope current

end FetchTask

end PipelineConfig
