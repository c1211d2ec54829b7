import PipelineConfig.Pattern
import PipelineConfig.Problem
import PipelineConfig.Rules.Structure
import PipelineConfig.Scope

/-!
# Rules for parameters, variables and integrations
-/

namespace PipelineConfig

/-- What is wrong with a parameter. Its name counts without regard to ASCII case. -/
def Parameter.problems (parameter : Parameter) (scope : Scope) : List Problem :=
  Problem.when (!Name.isValid parameter.name) (.invalidName "name" "parameter" parameter.name) ++
  Problem.when
    (scope.pipeline?.any fun pipeline =>
      occursTwice pipeline.params fun other => (Name.mk other.name).same ⟨parameter.name⟩)
    (.duplicateParameter parameter.name)

/-- What is wrong with an environment variable. Its name counts as it is written. -/
def Variable.problems (binding : Variable) (scope : Scope) : List Problem :=
  if Text.isBlank binding.name then [.blankVariable]
  else
    match scope.pipeline? with
    | none => []
    | some pipeline =>
      Problem.when
        (occursTwice pipeline.environmentVariables fun other => other.name == binding.name)
        (.duplicateVariable binding.name pipeline.name.text)

/-- What is wrong with the link to an issue tracker. -/
def TrackingTool.problems [Pattern.Engine] (tool : TrackingTool) : List Problem :=
  Problem.when (!Text.occurs "$\x7bID\x7d".toList tool.link.toList) .linkWithoutIssue ++
  if Text.isBlank tool.regex then [.blankRegex]
  else Problem.when (!Pattern.isWellFormed tool.regex)
      (.invalidRegex tool.regex (Pattern.Engine.explain tool.regex))

/-- What is wrong with the planning tool. -/
def Mingle.problems (mingle : Mingle) : List Problem :=
  Problem.when (!"https://".toList.isPrefixOf mingle.baseUrl.toList) .insecureMingleUrl ++
  Problem.when (Text.isBlank mingle.projectIdentifier) .blankMingleProject

/-- What is wrong with the start by the clock: a cron expression has six or seven fields. -/
def Timer.problems (timer : Timer) : List Problem :=
  let fields := Text.countWords timer.spec
  Problem.when (fields < 6 || 7 < fields) (.malformedTimer timer.spec fields)

end PipelineConfig
