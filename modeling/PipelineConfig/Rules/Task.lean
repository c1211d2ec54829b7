import PipelineConfig.Rules.Fetch

/-!
# Rules for tasks

A task works inside the folder of its job and says what to run.
-/

namespace PipelineConfig.Task

/-- What is wrong with the directory of a task. -/
def directoryProblems (task : Task) (scope : Scope) : List Problem :=
  match task.workingDirectory? with
  | some directory =>
    Problem.when (!Sandbox.isInside directory)
      (.workingDirectoryOutside task.typeName scope.taskPlace directory)
  | none => []

/-- What is wrong with a task. -/
def problems (task : Task) (scope : Scope) : List Problem :=
  task.directoryProblems scope ++
  match task.kind with
  | .exec command _ _ => Problem.when (Text.isBlank command) .blankCommand
  | .pluggable pluginId _ => Problem.when (Text.isBlank pluginId) .blankPlugin
  | .fetch fetch => fetch.problems scope
  | .ant _ | .nant _ | .rake _ => []

end PipelineConfig.Task
