import Mathlib.Data.List.Forall2
import PipelineConfig.Proofs.FetchTargets
import PipelineConfig.Proofs.Verdicts

/-!
# Stages in a template and in a pipeline

The stages of a template are checked as they are in a pipeline that owns them: their names are
compared with the same siblings, and what is told of a stage or a job does not show what encloses
it. Only a fetch task looks for its target in the pipeline alone, and that adds one message at most.
So a template without fetch tasks is valid just when nothing is recorded on the stages of a pipeline
that owns them.
-/

namespace PipelineConfig

namespace FieldErrors

/-- The number of messages of a field. -/
def tally (errors : FieldErrors) (field : String) : Nat := (errors.on field).length

theorem tally_ofProblems (problems : List Problem) (field : String) :
    (ofProblems problems).tally field = (problems.map Problem.field).count field := by
  rw [tally, on_ofProblems, List.length_map, List.count, List.countP_map,
    List.countP_eq_length_filter]
  rfl

end FieldErrors

theorem Problem.fields_when (condition : Bool) {left right : Problem}
    (same : left.field = right.field) :
    (Problem.when condition left).map field = (Problem.when condition right).map field := by
  cases condition with
  | false => rfl
  | true => exact congrArg (fun told => [told]) same

/-! ## Tasks -/

namespace FetchTask

/-- The fields of a fetch task that its target is told on. -/
def targetFields : List String := ["pipeline", "stage", "job"]

variable {fetch : FetchTask} {scope : Scope} {current : Pipeline} {problem : Problem}

theorem fields_formProblems (fetch : FetchTask) (left right : Scope) :
    (fetch.formProblems left).map Problem.field = (fetch.formProblems right).map Problem.field := by
  rw [formProblems, formProblems]
  cases fetch.destination with
  | none => rfl
  | some folder =>
    simp only [List.map_append]
    exact congrArg _ (Problem.fields_when _ rfl)

theorem field_of_mem_targetProblems {stages : List Stage} {target : Pipeline}
    (member : problem ∈ fetch.targetProblems stages current target) :
    problem.field ∈ targetFields := by
  rw [targetProblems] at member
  split at member
  · obtain rfl := List.mem_singleton.1 member
    simp [Problem.field, targetFields]
  · obtain rfl := Problem.eq_of_mem_when member
    simp [Problem.field, targetFields]

theorem field_of_mem_localProblems
    (member : problem ∈ fetch.localProblems scope current) : problem.field ∈ targetFields := by
  rw [localProblems] at member
  split at member
  · split at member
    · obtain rfl := List.mem_singleton.1 member
      simp [Problem.field, targetFields]
    · exact field_of_mem_targetProblems member
  · exact field_of_mem_targetProblems member

theorem field_of_mem_resolutionProblems
    (member : problem ∈ fetch.resolutionProblems scope current) :
    problem.field ∈ targetFields := by
  cases near : fetch.isLocal current with
  | true =>
    rw [resolutionProblems, near, if_pos rfl] at member
    exact field_of_mem_localProblems member
  | false =>
    have told : fetch.resolutionProblems scope current = [] ∨
        ∃ problem, fetch.resolutionProblems scope current = [problem] ∧
          fetch.Misses scope current problem := resolutionProblems_cases near
    rcases told with resolved | ⟨problem, told, misses⟩
    · exact absurd member (by simp [resolved])
    · rw [told] at member
      obtain rfl := List.mem_singleton.1 member
      cases misses <;> simp [Problem.field, targetFields]

/-- In a pipeline with stages of its own a target is told one thing at most, and that on one of its
fields. -/
theorem resolutionProblems_told (fetch : FetchTask) (scope : Scope)
    (staged : current.template = none) :
    fetch.resolutionProblems scope current = [] ∨
      ∃ problem, fetch.resolutionProblems scope current = [problem] ∧
        problem.field ∈ targetFields := by
  have single : (fetch.resolutionProblems scope current).length ≤ 1 :=
    length_resolutionProblems_le staged
  cases told : fetch.resolutionProblems scope current with
  | nil => exact .inl rfl
  | cons problem rest =>
    obtain rfl : rest = [] := by simpa [told] using single
    exact .inr ⟨problem, rfl, field_of_mem_resolutionProblems (told ▸ List.mem_cons_self)⟩

end FetchTask

/-- Where a task stands shows in the words of its messages only, unless the task is a retrieval. -/
theorem Task.fields_problems {task : Task} (plain : task.fetch? = none) (left right : Scope) :
    (task.problems left).map Problem.field = (task.problems right).map Problem.field := by
  have directory : (task.directoryProblems left).map Problem.field =
      (task.directoryProblems right).map Problem.field := by
    rw [directoryProblems, directoryProblems]
    cases task.workingDirectory? with
    | none => rfl
    | some directory => exact Problem.fields_when _ rfl
  rw [problems, problems, List.map_append, List.map_append, directory]
  cases kind : task.kind with
  | fetch fetch => simp [fetch?, kind] at plain
  | _ => rfl

/-! ## Scopes -/

/-- The scopes of one node, in a template and in a pipeline that owns the stages of the template. -/
structure Scope.Counterparts (shared owned : Scope) : Prop where
  /-- A template encloses the node. -/
  template : shared.template?.isSome = true
  /-- No template encloses it in the pipeline. -/
  outside : owned.template? = none
  /-- The pipeline has stages of its own. -/
  pipeline : ∃ current, owned.pipeline? = some current ∧ current.template = none
  /-- The same stage encloses the node. -/
  stage : shared.stage? = owned.stage?

namespace Scope.Counterparts

variable {shared owned : Scope}

theorem within_stage (alike : shared.Counterparts owned) (stage : Stage) :
    (shared.within (.stage stage)).Counterparts (owned.within (.stage stage)) :=
  ⟨alike.template, alike.outside, alike.pipeline, rfl⟩

theorem within_job (alike : shared.Counterparts owned) (job : Job) :
    (shared.within (.job job)).Counterparts (owned.within (.job job)) :=
  ⟨alike.template, alike.outside, alike.pipeline, alike.stage⟩

/-- In a template only the form of a fetch task is checked; in a pipeline its target may be told
one thing more. -/
theorem fields_fetch (alike : shared.Counterparts owned) (fetch : FetchTask) :
    ∃ extra : List String, (extra = [] ∨ ∃ field ∈ FetchTask.targetFields, extra = [field]) ∧
      (fetch.problems owned).map Problem.field =
        (fetch.problems shared).map Problem.field ++ extra := by
  obtain ⟨current, own, staged⟩ := alike.pipeline
  have shared_eq : fetch.problems shared = fetch.formProblems shared := by
    simp [FetchTask.problems, alike.template]
  have selfStaged : owned.isTemplated = false := by
    simp [Scope.isTemplated, own, Pipeline.hasTemplate, staged]
  rw [shared_eq, FetchTask.problems, List.map_append, fetch.fields_formProblems owned shared,
    selfStaged, alike.outside, own]
  refine ⟨_, ?_, rfl⟩
  split
  · exact .inl rfl
  · dsimp only
    rcases fetch.resolutionProblems_told owned staged with resolved | ⟨problem, told, field⟩
    · exact .inl (List.map_eq_nil_iff.2 resolved)
    · exact .inr ⟨problem.field, field, congrArg (List.map Problem.field) told⟩

theorem problems_job (alike : shared.Counterparts owned) (job : Job) :
    job.problems shared = job.problems owned := by
  rw [Job.problems, Job.problems, alike.stage]

/-- Without fetch tasks, nothing is wrong with a stage of the template just when nothing is wrong
with it in the pipeline. -/
theorem stands_iff (alike : shared.Counterparts owned) {stage : Stage}
    (own : stage.problems shared = stage.problems owned)
    (plain : ∀ job ∈ stage.jobs, ∀ task ∈ job.tasks, task.fetch? = none) :
    stage.Stands shared ↔ stage.Stands owned := by
  have jobs (job : Job) : job.problems (shared.within (.stage stage)) =
      job.problems (owned.within (.stage stage)) := (alike.within_stage stage).problems_job job
  have tasks {job : Job} (in_jobs : job ∈ stage.jobs) {task : Task} (in_tasks : task ∈ job.tasks)
      (left right : Scope) : task.problems left = [] ↔ task.problems right = [] := by
    rw [← List.map_eq_nil_iff, Task.fields_problems (plain job in_jobs task in_tasks) left right,
      List.map_eq_nil_iff]
  constructor
  · rintro ⟨clean, clean_jobs, clean_tasks⟩
    exact ⟨own ▸ clean, fun job member => jobs job ▸ clean_jobs job member,
      fun job in_jobs task in_tasks =>
        (tasks in_jobs in_tasks _ _).1 (clean_tasks job in_jobs task in_tasks)⟩
  · rintro ⟨clean, clean_jobs, clean_tasks⟩
    exact ⟨own ▸ clean, fun job member => jobs job ▸ clean_jobs job member,
      fun job in_jobs task in_tasks =>
        (tasks in_jobs in_tasks _ _).1 (clean_tasks job in_jobs task in_tasks)⟩

end Scope.Counterparts

/-! ## What is recorded -/

/-- One task, checked in a template and in a pipeline, has as many messages for every field; a fetch
task in the pipeline may have one more for what it is after. -/
structure Task.ToldAlike (shared owned : Task) : Prop where
  /-- It is one task. -/
  kind : shared.kind = owned.kind
  /-- The messages of each field are counted. -/
  tally : (∀ field, owned.errors.tally field = shared.errors.tally field) ∨
    owned.fetch?.isSome = true ∧ ∃ target ∈ FetchTask.targetFields, ∀ field,
      owned.errors.tally field = shared.errors.tally field + if field = target then 1 else 0

/-- One job, checked in a template and in a pipeline, has the same messages, and its tasks are told
alike. -/
structure Job.ToldAlike (shared owned : Job) : Prop where
  /-- It is one job. -/
  name : shared.name = owned.name
  /-- The same is recorded on it. -/
  errors : shared.errors = owned.errors
  /-- Its tasks are told alike. -/
  tasks : List.Forall₂ Task.ToldAlike shared.tasks owned.tasks

/-- One stage, checked in a template and in a pipeline, has the same messages, and its jobs are told
alike. -/
structure Stage.ToldAlike (shared owned : Stage) : Prop where
  /-- It is one stage. -/
  name : shared.name = owned.name
  /-- The same is recorded on it. -/
  errors : shared.errors = owned.errors
  /-- Its jobs are told alike. -/
  jobs : List.Forall₂ Job.ToldAlike shared.jobs owned.jobs

/-- Members that are told alike one by one are told alike as lists. -/
theorem forall₂_map_map {α : Type} {relation : α → α → Prop} {left right : α → α} {members : List α}
    (alike : ∀ member ∈ members, relation (left member) (right member)) :
    List.Forall₂ relation (members.map left) (members.map right) := by
  rw [List.forall₂_map_left_iff, List.forall₂_map_right_iff]
  exact List.forall₂_same.2 alike

namespace Scope.Counterparts

variable {shared owned : Scope}

theorem task_toldAlike (alike : shared.Counterparts owned) (task : Task) :
    Task.ToldAlike { task with errors := .ofProblems (task.problems shared) }
      { task with errors := .ofProblems (task.problems owned) } := by
  refine ⟨rfl, ?_⟩
  simp only [FieldErrors.tally_ofProblems]
  cases retrieves : task.fetch? with
  | none => exact .inl fun field => by rw [Task.fields_problems retrieves owned shared]
  | some fetch =>
    obtain ⟨extra, single, told⟩ := alike.fields_fetch fetch
    rw [Task.problems_of_fetch? retrieves, Task.problems_of_fetch? retrieves, told]
    rcases single with rfl | ⟨target, member, rfl⟩
    · exact .inl fun field => by rw [List.append_nil]
    · refine .inr ⟨by simpa [Task.fetch?] using congrArg Option.isSome retrieves, target, member,
        fun field => ?_⟩
      rw [List.count_append, List.count_singleton]
      simp only [beq_iff_eq, @eq_comm _ target field]

theorem job_toldAlike (alike : shared.Counterparts owned) (job : Job) :
    ((job.review shared).apply job).ToldAlike ((job.review owned).apply job) where
  name := rfl
  errors := congrArg FieldErrors.ofProblems (alike.problems_job job)
  tasks := by
    rw [job.tasks_apply_review, job.tasks_apply_review]
    exact forall₂_map_map fun task _ => (alike.within_job job).task_toldAlike task

theorem stage_toldAlike (alike : shared.Counterparts owned) (stage : Stage)
    (own : stage.problems shared = stage.problems owned) :
    ((stage.review shared).apply stage).ToldAlike ((stage.review owned).apply stage) where
  name := rfl
  errors := congrArg FieldErrors.ofProblems own
  jobs := by
    rw [stage.jobs_apply_review, stage.jobs_apply_review]
    exact forall₂_map_map fun job _ => (alike.within_stage stage).job_toldAlike job

end Scope.Counterparts

/-! ## Templates -/

namespace Template

/-- The scope in which the stages of a template are checked. -/
def inside (catalog : Catalog) (template : Template) : Scope :=
  (Scope.mk catalog none []).within (.template template)

variable {template : Template} {pipeline : Pipeline}

theorem counterparts_inside (catalog : Catalog) (template : Template)
    (staged : pipeline.template = none) :
    (template.inside catalog).Counterparts (.inside catalog pipeline) :=
  ⟨rfl, rfl, ⟨pipeline, rfl, staged⟩, rfl⟩

/-- A stage has the same siblings in the template and in the pipeline. -/
theorem problems_stage_inside (catalog : Catalog) (shared : pipeline.stages = template.stages)
    (stage : Stage) :
    stage.problems (template.inside catalog) = stage.problems (.inside catalog pipeline) := by
  have siblings : Stage.siblings (template.inside catalog) =
      Stage.siblings (.inside catalog pipeline) := shared.symm
  rw [Stage.problems, Stage.problems, siblings]

/-- The stages of a template are told what they are told in a pipeline that owns them: each stage
and each job the same, each task as many things about every field. In the pipeline a fetch task may
be told one thing more, about what it is after. So a template without fetch tasks is valid just when
all stages of the pipeline are clean. -/
theorem stages_told_alike [Pattern.Engine] (catalog : Catalog) (template : Template)
    (pipeline : Pipeline) (shared : pipeline.stages = template.stages)
    (staged : pipeline.template = none) :
    List.Forall₂ Stage.ToldAlike (template.validate catalog).2.stages
        (pipeline.validate catalog).2.stages ∧
    ((∀ stage ∈ template.stages, ∀ job ∈ stage.jobs, ∀ task ∈ job.tasks, task.fetch? = none) →
      ((template.validate catalog).1 = true ↔
        (pipeline.review catalog).stages.all StageReport.isClean = true)) := by
  have alike := counterparts_inside catalog template staged
  have own (stage : Stage) := problems_stage_inside catalog shared stage
  constructor
  · have stages : (template.validate catalog).2.stages = template.stages.map fun stage =>
        (stage.review (template.inside catalog)).apply stage := applyEach_map_self _ _ template.stages
    rw [stages, pipeline.stages_validate, shared]
    exact forall₂_map_map fun stage _ => alike.stage_toldAlike stage (own stage)
  · intro plain
    have clean (stage : Stage) (member : stage ∈ template.stages) :
        (stage.review (template.inside catalog)).isClean = true ↔
          (stage.review (.inside catalog pipeline)).isClean = true := by
      rw [Stage.isClean_review_iff, Stage.isClean_review_iff,
        alike.stands_iff (own stage) (plain stage member)]
    simp only [Template.validate, Template.review, Pipeline.review, Pipeline.reviewIn, shared,
      List.all_map, List.all_eq_true, Function.comp_apply]
    exact forall₂_congr clean

/-- Two stages of one name; the first works outside its folder and runs nothing. -/
def crowdedStages : List Stage :=
  [singleTask "run" (.exec "" [] (some "../out")), singleTask "Run" (.exec "make" [] none)]

theorem stages_told_alike_crowded :
    let template : Template := ⟨⟨"shared"⟩, crowdedStages⟩
    let pipeline : Pipeline := { name := ⟨"build"⟩, stages := crowdedStages }
    List.Forall₂ Stage.ToldAlike (template.validate {}).2.stages (pipeline.validate {}).2.stages ∧
      (template.validate {}).1 = false ∧
      (pipeline.review {}).stages.all StageReport.isClean = false := by
  intro template pipeline
  obtain ⟨alike, clean_iff⟩ := stages_told_alike {} template pipeline rfl rfl
  have invalid : (template.validate {}).1 = false := by decide +kernel
  refine ⟨alike, invalid, ?_⟩
  rw [Bool.eq_false_iff, ne_eq, ← clean_iff (by decide), invalid]
  exact Bool.false_ne_true

end Template

end PipelineConfig
