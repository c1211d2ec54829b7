import PipelineConfig.Pipeline

/-!
# Findings

A finding is one recorded message with the place and field it belongs to. The findings of a
pipeline are its recorded messages in a fixed order of its nodes.
-/

namespace PipelineConfig

/-- A recorded message with the node and field it belongs to. -/
structure Finding where
  /-- The node, described from the outside in. -/
  location : String
  /-- The field of the node. -/
  field : String
  /-- The message. -/
  message : String
deriving DecidableEq, Repr

/-- The messages of one node as findings. -/
def FieldErrors.findings (errors : FieldErrors) (location : String) : List Finding :=
  errors.entries.flatMap fun entry => entry.2.map fun message => ⟨location, entry.1, message⟩

/-- The findings of a task at a position of its job. -/
def Task.findings (task : Task) (position : Nat) (job : String) : List Finding :=
  let number := position + 1
  task.errors.findings s!"{job} > task #{number} ({task.typeName})"

/-- The findings of a job and its tasks. -/
def Job.findings (job : Job) (stage : String) : List Finding :=
  let here := s!"{stage} > job '{job.name.text}'"
  job.errors.findings here ++
    (job.tasks.mapIdx fun position task => task.findings position here).flatten

/-- The findings of a stage and everything in it. -/
def Stage.findings (stage : Stage) (owner : String) : List Finding :=
  let here := s!"{owner} > stage '{stage.name.text}'"
  stage.errors.findings here ++ stage.jobs.flatMap fun job => job.findings here

/-- The findings of a template: those of its stages. -/
def Template.findings (template : Template) : List Finding :=
  template.stages.flatMap fun stage => stage.findings s!"template '{template.name.text}'"

/-- The findings of a pipeline: its own, those of its materials and stages, then the rest. -/
def Pipeline.findings (pipeline : Pipeline) : List Finding :=
  let here := s!"pipeline '{pipeline.name.text}'"
  pipeline.errors.findings here ++
  pipeline.materials.errors.findings s!"{here} materials" ++
  (pipeline.materials.items.flatMap fun material =>
    material.errors.findings s!"{here} material {material.describe}") ++
  (pipeline.stages.flatMap fun stage => stage.findings here) ++
  (pipeline.params.flatMap fun param => param.errors.findings s!"{here} param '{param.name}'") ++
  (pipeline.environmentVariables.flatMap fun binding =>
    binding.errors.findings s!"{here} variable '{binding.name}'") ++
  (pipeline.trackingTool.toList.flatMap fun tool =>
    tool.errors.findings s!"{here} tracking tool") ++
  (pipeline.mingle.toList.flatMap fun mingle => mingle.errors.findings s!"{here} mingle") ++
  (pipeline.timer.toList.flatMap fun timer => timer.errors.findings s!"{here} timer")

theorem FieldErrors.length_findings (errors : FieldErrors) (location : String) :
    (errors.findings location).length = errors.count := by
  simp [← length_all, findings, all, List.length_flatMap]

end PipelineConfig
