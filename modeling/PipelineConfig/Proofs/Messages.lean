import PipelineConfig.Problem

/-!
# What messages name

A failure and a problem are about certain texts: the names, paths and numbers that say where
something is wrong. Whatever it is about is found in its message as it is written.
-/

namespace PipelineConfig

namespace Text

/-- A text occurs in another one as it is written. -/
def Within (part whole : String) : Prop := part.toList <:+: whole.toList

theorem within_self (text : String) : Within text text := List.infix_rfl

variable {part : String}

theorem Within.append_right {left : String} (within : Within part left) (right : String) :
    Within part (left ++ right) := by
  rw [Within, String.toList_append]
  exact List.infix_append_of_infix_left within

theorem Within.append_left {right : String} (within : Within part right) (left : String) :
    Within part (left ++ right) := by
  rw [Within, String.toList_append]
  exact List.infix_append_of_infix_right within

theorem within_append_self (left : String) : Within part (left ++ part) :=
  (within_self part).append_left left

theorem joinWith_eq_intercalate (separator : String) (texts : List String) :
    joinWith separator texts = separator.intercalate texts := by
  fun_induction joinWith separator texts with
  | case1 => simp
  | case2 => simp
  | case3 text rest more ih =>
    cases rest with
    | nil => simp at more
    | cons next rest => rw [ih, String.intercalate_cons_cons]

theorem within_joinWith {separator : String} {texts : List String} (member : part ∈ texts) :
    Within part (joinWith separator texts) := by
  fun_induction joinWith separator texts with
  | case1 => simp at member
  | case2 => exact List.mem_singleton.1 member ▸ within_self part
  | case3 text rest _ ih =>
    obtain rfl | later := List.mem_cons.1 member
    · exact ((within_self part).append_right separator).append_right _
    · exact (ih later).append_left _

end Text

open Text

namespace Failure

/-- What a failure is about. -/
def subjects : Failure → List String
  | configNotFound path | unreadable path | unsupportedFormat path => [path]
  | malformed _ => []
  | pipelineNotFound name | duplicatePipeline name => [name]
  | validationFailed pipeline count => [pipeline, toString count]
  | circularDependency path => path.map Name.text
  | unknownPipeline pipeline referencedBy => [pipeline.text, referencedBy.text]
  | invalidDefinitions failed total => [toString failed, toString total]

/-- The message of a failure names what the failure is about. -/
theorem within_message {failure : Failure} {text : String} (about : text ∈ failure.subjects) :
    Within text failure.message := by
  cases failure
  case circularDependency path => exact (within_joinWith about).append_left _
  case malformed format => cases about
  all_goals
    simp only [subjects, List.mem_cons, List.not_mem_nil, or_false] at about
    unfold message
    dsimp only [toString] at about ⊢
    rcases about with rfl | rfl <;>
      repeat with_reducible
        first | exact within_self _ | exact within_append_self _ | apply Within.append_right

/-- A loop is told from its first pipeline to its last, back along the dependencies. -/
theorem message_circularDependency (path : List Name) :
    (circularDependency path).message =
      "Circular dependency: " ++ " <- ".intercalate (path.map Name.text) := by
  rw [← joinWith_eq_intercalate]
  rfl

end Failure

namespace Problem

/-- What a problem is about. -/
def subjects : Problem → List String
  | invalidName _ kind name => [kind, name]
  | constantLabel template => [template]
  | unknownLabelMaterial pipeline reference => [pipeline.text, reference]
  | stagesBesideTemplate pipeline template | templateBesideStages template pipeline =>
    [pipeline.text, template.text]
  | unknownTemplate name | duplicateStage name | noJobs name | duplicateJob name | noTasks name
  | duplicateMaterial name => [name.text]
  | brokenReference message downstream => [message, downstream.text]
  | brokenFetch message => [message]
  | brokenDependencies failure => failure.subjects
  | workingDirectoryOutside taskType place directory => [taskType, place, directory]
  | fetchDestinationOutside place destination => [place, destination]
  | fetchNotUpstream pipeline upstream | fetchUnknownPipeline pipeline upstream =>
    [pipeline.text, upstream.text]
  | fetchTooEarly pipeline current wanted => [pipeline.text, current.text, wanted.text]
  | fetchUnknownStage pipeline target stage => [pipeline.text, target.text, stage.text]
  | fetchUnknownJob pipeline target stage job =>
    [pipeline.text, target.text, stage.text, job.text]
  | folderOutside folder => [folder]
  | unknownUpstream upstream pipeline => [upstream.text, pipeline]
  | unknownUpstreamStage stage upstream => [stage.text, upstream.text]
  | autoUpdateConflict sourceType address => [sourceType, address]
  | duplicateParameter name => [name]
  | duplicateVariable name pipeline => [name, pipeline]
  | invalidRegex regex none => [regex]
  | invalidRegex regex (some explanation) => [regex, explanation]
  | malformedTimer spec fields => [spec, toString fields]
  | noStages | blankCommand | blankPlugin | blankFetchStage | blankFetchJob | blankFetchSource
  | blankUrl | blankPort | blankView | blankProjectPath | blankPackage | blankScm | blankVariable
  | linkWithoutIssue | blankRegex | insecureMingleUrl | blankMingleProject => []

/-- The message of a problem names what the problem is about. It is a chain of texts, which is cut
off from its end until the wanted one is the last. -/
theorem within_message {problem : Problem} {text : String} (about : text ∈ problem.subjects) :
    Within text problem.message := by
  cases problem
  case brokenDependencies failure => exact Failure.within_message about
  case' invalidRegex regex explanation => cases explanation
  all_goals
    simp only [subjects, List.mem_cons, List.not_mem_nil, or_false] at about
  all_goals
    unfold message
    dsimp only [toString] at about ⊢
    rcases about with rfl | rfl | rfl | rfl <;>
      repeat with_reducible
        first
        | exact within_self _
        | exact within_append_self _
        | rw [← String.append_assoc]
        | apply Within.append_right

/-- An edit is told who waits for a stage that it does not run. -/
theorem message_brokenReference (stage upstream downstream : Name) :
    (brokenReference (unknownUpstreamStage stage upstream).message downstream).message =
      s!"Stage with name '{stage.text}' does not exist on pipeline '{upstream.text}'" ++
        s!", it is being referred to from pipeline '{downstream.text}'" := by
  unfold message
  simp only [toString, String.append_assoc]

end Problem

end PipelineConfig
