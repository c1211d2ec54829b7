import PipelineConfig.Proofs.Proposals

/-!
# Verdicts and recorded messages

A review gives a verdict and a report, and the report is written into the pipeline. It has a part
for every node, so nothing recorded earlier is left; and each part is the record of a list of
problems, which is empty just when it holds no message. So a verdict is good just when no message is
found on the pipeline afterwards.
-/

namespace PipelineConfig

namespace FieldErrors

/-- The number of messages in several records. -/
def total (records : List FieldErrors) : Nat :=
  records.foldr (fun errors sum => errors.count + sum) 0

@[simp]
theorem total_nil : total [] = 0 := rfl

@[simp]
theorem total_cons (errors : FieldErrors) (records : List FieldErrors) :
    total (errors :: records) = errors.count + total records := rfl

@[simp]
theorem total_append (left right : List FieldErrors) :
    total (left ++ right) = total left + total right := by
  induction left with
  | nil => simp
  | cons errors rest ih => rw [List.cons_append, total_cons, total_cons, ih, Nat.add_assoc]

/-- Lists that are as long as the records of their nodes have messages make one such list. -/
theorem length_flatten_eq_total {α : Type} {lists : List (List α)} {records : List FieldErrors}
    (counted : lists.map List.length = records.map count) :
    lists.flatten.length = total records := by
  induction lists generalizing records with
  | nil =>
    obtain rfl := List.map_eq_nil_iff.1 counted.symm
    rfl
  | cons list rest ih =>
    obtain ⟨errors, others, rfl, first, later⟩ := List.map_eq_cons_iff.1 counted.symm
    rw [List.flatten_cons, List.length_append, ih later.symm, total_cons, first]

theorem sumOver_eq_total {α : Type} {size : α → Nat} {read : α → List FieldErrors}
    (counted : ∀ node, size node = total (read node)) (nodes : List α) :
    sumOver size nodes = total (nodes.flatMap read) := by
  induction nodes with
  | nil => rfl
  | cons node rest ih =>
    rw [sumOver, List.foldr_cons, ← sumOver, ih, counted, List.flatMap_cons, total_append]

theorem sumOver_count (records : List FieldErrors) : sumOver count records = total records := rfl

theorem length_flatMap_eq_total {α β : Type} {list : α → List β} {read : α → List FieldErrors}
    (counted : ∀ node, (list node).length = total (read node)) (nodes : List α) :
    (nodes.flatMap list).length = total (nodes.flatMap read) := by
  induction nodes with
  | nil => rfl
  | cons node rest ih =>
    rw [List.flatMap_cons, List.flatMap_cons, List.length_append, total_append, counted, ih]

theorem length_flatMap_findings {α : Type} (read : α → FieldErrors) (place : α → String)
    (nodes : List α) :
    (nodes.flatMap fun node => (read node).findings (place node)).length =
      total (nodes.map read) := by
  induction nodes with
  | nil => rfl
  | cons node rest ih =>
    rw [List.flatMap_cons, List.length_append, FieldErrors.length_findings, ih, List.map_cons,
      total_cons]

theorem isEmpty_ofProblems_iff_count (problems : List Problem) :
    (ofProblems problems).isEmpty = true ↔ (ofProblems problems).count = 0 := by
  rw [isEmpty_ofProblems, ofProblems, count_addProblems, count_none, Nat.zero_add,
    List.length_eq_zero_iff]

/-- The messages are those of some problems, in their order. Such a record opens no field without a
message. -/
def IsTold (errors : FieldErrors) : Prop := ∃ problems, errors = ofProblems problems

/-- Records of problems are all empty just when they hold no message. -/
theorem all_isEmpty_iff_total {records : List FieldErrors}
    (told : ∀ errors ∈ records, errors.IsTold) :
    records.all isEmpty = true ↔ total records = 0 := by
  induction records with
  | nil => simp
  | cons errors rest ih =>
    obtain ⟨⟨problems, rfl⟩, later⟩ := List.forall_mem_cons.1 told
    rw [List.all_cons, Bool.and_eq_true, isEmpty_ofProblems_iff_count, ih later, total_cons,
      Nat.add_eq_zero_iff]

end FieldErrors

/-- A report with one part for each node replaces the messages of all nodes. -/
theorem applyEach_map {α β : Type} (replace : β → α → α) (look : α → β) (clear : α → α)
    (nodes : List α) :
    applyEach replace (nodes.map look) (nodes.map clear) =
      nodes.map fun node => replace (look node) (clear node) := by
  induction nodes with
  | nil => rfl
  | cons node rest ih => rw [List.map_cons, List.map_cons, applyEach, ih, List.map_cons]

theorem applyEach_map_self {α β : Type} (replace : β → α → α) (look : α → β) (nodes : List α) :
    applyEach replace (nodes.map look) nodes = nodes.map fun node => replace (look node) node := by
  have written := applyEach_map replace look id nodes
  rwa [List.map_id] at written

/-! ## Jobs and stages -/

namespace Job

/-- What is recorded on a job and its tasks. -/
def records (job : Job) : List FieldErrors := job.errors :: job.tasks.map Task.errors

theorem length_findings (job : Job) (stage : String) :
    (job.findings stage).length = FieldErrors.total job.records := by
  have tasks (here : String) :
      (job.tasks.mapIdx fun position task => task.findings position here).map List.length =
        (job.tasks.map Task.errors).map FieldErrors.count := by
    refine List.ext_getElem (by simp) fun position _ _ => ?_
    simp [Task.findings, FieldErrors.length_findings]
  rw [findings, List.length_append, FieldErrors.length_findings,
    FieldErrors.length_flatten_eq_total (tasks _), records, FieldErrors.total_cons]

theorem tasks_apply_review (job : Job) (scope : Scope) :
    ((job.review scope).apply job).tasks = job.tasks.map fun task =>
      { task with errors := .ofProblems (task.problems (scope.within (.job job))) } :=
  applyEach_map_self _ _ job.tasks

theorem records_apply_review (job : Job) (scope : Scope) :
    ((job.review scope).apply job).records = (job.review scope).parts := by
  simp only [JobReport.apply, review, records, JobReport.parts, applyEach_map_self, List.map_map]
  rfl

theorem apply_review_clearErrors (job : Job) (scope : Scope) :
    (job.review scope).apply job.clearErrors = (job.review scope).apply job := by
  simp only [JobReport.apply, review, clearErrors, applyEach_map, applyEach_map_self]
  rfl

theorem told_of_mem_review {job : Job} {scope : Scope} {errors : FieldErrors}
    (member : errors ∈ (job.review scope).parts) : errors.IsTold := by
  rcases List.mem_cons.1 member with rfl | member
  · exact ⟨_, rfl⟩
  · obtain ⟨task, _, rfl⟩ := List.mem_map.1 member
    exact ⟨_, rfl⟩

end Job

namespace Stage

/-- What is recorded on a stage and everything in it. -/
def records (stage : Stage) : List FieldErrors := stage.errors :: stage.jobs.flatMap Job.records

theorem length_findings (stage : Stage) (owner : String) :
    (stage.findings owner).length = FieldErrors.total stage.records := by
  rw [findings, List.length_append, FieldErrors.length_findings,
    FieldErrors.length_flatMap_eq_total fun job => job.length_findings _, records,
    FieldErrors.total_cons]

theorem jobs_apply_review (stage : Stage) (scope : Scope) :
    ((stage.review scope).apply stage).jobs = stage.jobs.map fun job =>
      (job.review (scope.within (.stage stage))).apply job :=
  applyEach_map_self _ _ stage.jobs

theorem records_apply_review (stage : Stage) (scope : Scope) :
    ((stage.review scope).apply stage).records = (stage.review scope).parts := by
  simp only [StageReport.apply, review, records, StageReport.parts, applyEach_map_self,
    List.flatMap_map, Job.records_apply_review]

theorem apply_review_clearErrors (stage : Stage) (scope : Scope) :
    (stage.review scope).apply stage.clearErrors = (stage.review scope).apply stage := by
  simp only [StageReport.apply, review, clearErrors, applyEach_map, applyEach_map_self,
    Job.apply_review_clearErrors]

theorem told_of_mem_review {stage : Stage} {scope : Scope} {errors : FieldErrors}
    (member : errors ∈ (stage.review scope).parts) : errors.IsTold := by
  rcases List.mem_cons.1 member with rfl | member
  · exact ⟨_, rfl⟩
  · obtain ⟨report, listed, member⟩ := List.mem_flatMap.1 member
    obtain ⟨job, _, rfl⟩ := List.mem_map.1 listed
    exact Job.told_of_mem_review member

end Stage

theorem Template.isValid_iff (template : Template) (catalog : Catalog) :
    (template.validate catalog).1 = true ↔ (template.validate catalog).2.findings = [] := by
  have told : ∀ errors ∈ (template.review catalog).flatMap StageReport.parts, errors.IsTold := by
    intro errors member
    obtain ⟨report, listed, member⟩ := List.mem_flatMap.1 member
    obtain ⟨stage, _, rfl⟩ := List.mem_map.1 listed
    exact Stage.told_of_mem_review member
  have counted : (template.validate catalog).2.findings.length =
      FieldErrors.total ((template.review catalog).flatMap StageReport.parts) := by
    rw [findings, FieldErrors.length_flatMap_eq_total fun stage => stage.length_findings _]
    simp only [validate, review, applyEach_map_self, List.flatMap_map, Stage.records_apply_review]
  have verdict : (template.validate catalog).1 =
      ((template.review catalog).flatMap StageReport.parts).all FieldErrors.isEmpty := by
    simp only [validate, List.all_flatMap, ← StageReport.isClean_eq_parts]
  rw [verdict, FieldErrors.all_isEmpty_iff_total told, ← counted, List.length_eq_zero_iff]

/-! ## Pipelines -/

theorem StageReport.count_eq_total (report : StageReport) :
    report.count = FieldErrors.total report.parts := by
  have counted (job : JobReport) : job.errors.count + sumOver FieldErrors.count job.tasks =
      FieldErrors.total job.parts := by
    rw [FieldErrors.sumOver_count, JobReport.parts, FieldErrors.total_cons]
  rw [count, parts, FieldErrors.total_cons, FieldErrors.sumOver_eq_total counted]

/-- All messages of a report are counted. -/
theorem PipelineReport.count_eq_total (report : PipelineReport) :
    report.count = FieldErrors.total report.parts := by
  simp only [count, parts, FieldErrors.sumOver_count,
    FieldErrors.sumOver_eq_total StageReport.count_eq_total, FieldErrors.total_append,
    FieldErrors.total_cons, FieldErrors.total_nil]
  omega

namespace Pipeline

/-- What is recorded on a pipeline and everything in it. -/
def records (pipeline : Pipeline) : List FieldErrors :=
  [pipeline.errors, pipeline.materials.errors] ++ pipeline.materials.items.map Material.errors ++
    pipeline.stages.flatMap Stage.records ++ pipeline.params.map Parameter.errors ++
    pipeline.environmentVariables.map Variable.errors ++
    pipeline.trackingTool.toList.map TrackingTool.errors ++
    pipeline.mingle.toList.map Mingle.errors ++ pipeline.timer.toList.map Timer.errors

theorem length_findings (pipeline : Pipeline) :
    pipeline.findings.length = FieldErrors.total pipeline.records := by
  have stages (here : String) : (pipeline.stages.flatMap fun stage => stage.findings here).length =
      FieldErrors.total (pipeline.stages.flatMap Stage.records) :=
    FieldErrors.length_flatMap_eq_total (fun stage => stage.length_findings here) _
  simp only [findings, records, List.length_append, FieldErrors.length_findings, stages,
    FieldErrors.length_flatMap_findings, FieldErrors.total_append, FieldErrors.total_cons,
    FieldErrors.total_nil, Nat.add_zero]

/-- Where an integration is absent, its part of the report holds no message either. -/
theorem total_integration {α : Type} (node : Option α) (problems : α → List Problem)
    (write : FieldErrors → α → α) (read : α → FieldErrors)
    (written : ∀ errors node, read (write errors node) = errors) :
    FieldErrors.total ((node.map (write (.ofProblems ((node.map problems).getD [])))).toList.map
        read) =
      (FieldErrors.ofProblems ((node.map problems).getD [])).count := by
  cases node with
  | none => rfl
  | some node => simp [written]

section Validation

variable [Pattern.Engine]

theorem materials_validate (pipeline : Pipeline) (catalog : Catalog) :
    (pipeline.validate catalog).2.materials.items = pipeline.materials.items.map fun material =>
      { material with errors := .ofProblems (material.problems (.inside catalog pipeline)) } :=
  applyEach_map_self _ _ pipeline.materials.items

theorem stages_validate (pipeline : Pipeline) (catalog : Catalog) :
    (pipeline.validate catalog).2.stages = pipeline.stages.map fun stage =>
      (stage.review (.inside catalog pipeline)).apply stage :=
  applyEach_map_self _ _ pipeline.stages

theorem params_validate (pipeline : Pipeline) (catalog : Catalog) :
    (pipeline.validate catalog).2.params = pipeline.params.map fun parameter =>
      { parameter with errors := .ofProblems (parameter.problems (.inside catalog pipeline)) } :=
  applyEach_map_self _ _ pipeline.params

theorem environmentVariables_validate (pipeline : Pipeline) (catalog : Catalog) :
    (pipeline.validate catalog).2.environmentVariables =
      pipeline.environmentVariables.map fun binding =>
        { binding with errors := .ofProblems (binding.problems (.inside catalog pipeline)) } :=
  applyEach_map_self _ _ pipeline.environmentVariables

/-- All messages of a report are found on the pipeline it is written into. -/
theorem total_records_apply_review (pipeline : Pipeline) (catalog : Catalog) :
    FieldErrors.total ((pipeline.review catalog).apply pipeline).records =
      (pipeline.review catalog).count := by
  have tool := total_integration pipeline.trackingTool TrackingTool.problems
    (fun errors tool => { tool with errors }) TrackingTool.errors fun _ _ => rfl
  have mingle := total_integration pipeline.mingle Mingle.problems
    (fun errors mingle => { mingle with errors }) Mingle.errors fun _ _ => rfl
  have timer := total_integration pipeline.timer Timer.problems
    (fun errors timer => { timer with errors }) Timer.errors fun _ _ => rfl
  rw [PipelineReport.count_eq_total]
  simp only [PipelineReport.apply, review, reviewIn_eq, PipelineReport.judged, told, records,
    PipelineReport.parts,
    applyEach_map_self, List.flatMap_map, List.map_map, Stage.records_apply_review,
    FieldErrors.total_append, FieldErrors.total_cons, FieldErrors.total_nil, Function.comp_def,
    tool, mingle, timer]
  omega

theorem apply_review_clearErrors (pipeline : Pipeline) (catalog : Catalog) :
    (pipeline.review catalog).apply pipeline.clearErrors =
      (pipeline.review catalog).apply pipeline := by
  simp only [PipelineReport.apply, review, reviewIn_eq, PipelineReport.judged, told, clearErrors,
    Materials.clearErrors,
    applyEach_map, applyEach_map_self, Stage.apply_review_clearErrors, Option.map_map]
  rfl

theorem told_of_mem_review {pipeline : Pipeline} {catalog : Catalog} {errors : FieldErrors}
    (member : errors ∈ (pipeline.review catalog).parts) : errors.IsTold := by
  simp only [PipelineReport.parts, review, reviewIn_eq, PipelineReport.judged, told,
    List.mem_append, List.mem_map,
    List.mem_flatMap, List.mem_cons, List.not_mem_nil, or_false] at member
  rcases member with (((((rfl | rfl) | ⟨material, _, rfl⟩) | ⟨report, ⟨stage, _, rfl⟩, member⟩) |
    ⟨parameter, _, rfl⟩) | ⟨binding, _, rfl⟩) | rfl | rfl | rfl
  case inl.inl.inl.inr => exact Stage.told_of_mem_review member
  all_goals exact ⟨_, rfl⟩

theorem length_findings_validate (pipeline : Pipeline) (catalog : Catalog) :
    (pipeline.validate catalog).2.findings.length = (pipeline.review catalog).count :=
  (length_findings _).trans (pipeline.total_records_apply_review catalog)

theorem isValid_iff (pipeline : Pipeline) (catalog : Catalog) :
    (pipeline.validate catalog).1 = true ↔ (pipeline.validate catalog).2.findings = [] := by
  have told : ∀ errors ∈ (pipeline.review catalog).parts, errors.IsTold :=
    fun _ => told_of_mem_review
  rw [validate_fst, PipelineReport.isClean, FieldErrors.all_isEmpty_iff_total told,
    ← PipelineReport.count_eq_total, ← length_findings_validate, List.length_eq_zero_iff]

/-- What was recorded earlier has no influence on a verdict or on what is recorded next. -/
theorem validate_clearErrors (pipeline : Pipeline) (catalog : Catalog) :
    pipeline.clearErrors.validate catalog = pipeline.validate catalog := by
  rw [validate, review_clearErrors, apply_review_clearErrors]
  rfl

theorem validate_validate (pipeline : Pipeline) (catalog : Catalog) :
    (pipeline.validate catalog).2.validate catalog = pipeline.validate catalog := by
  have cleared : (pipeline.validate catalog).2.clearErrors = pipeline.clearErrors :=
    (pipeline.review catalog).clearErrors_apply pipeline
  rw [← validate_clearErrors, cleared, validate_clearErrors]

end Validation

end Pipeline

namespace Catalog

section Verdict

variable [Pattern.Engine]

/-- A commit that fails for what its review found tells how many messages are on the pipeline. -/
theorem commit_refusal {catalog : Catalog} {pipeline : Pipeline} {group name : String} {count : Nat}
    (refused : (catalog.commit pipeline group).refusal = some (.validationFailed name count)) :
    1 ≤ count ∧ count = (catalog.commit pipeline group).pipeline.findings.length := by
  have verdict := pipeline.isValid_iff catalog
  rw [commit] at refused ⊢
  cases reviewed : pipeline.validate catalog with
  | mk valid saved =>
    rw [reviewed] at refused verdict
    cases valid with
    | true => simp at refused
    | false =>
      have told : saved.findings ≠ [] := fun none => Bool.false_ne_true (verdict.2 none)
      have counted : saved.findings.length = count := by
        simp only [Option.some.injEq, Failure.validationFailed.injEq] at refused
        exact refused.2
      exact ⟨counted ▸ List.length_pos_of_ne_nil told, counted.symm⟩

/-- The same for a proposal, which can also be refused before any review. -/
theorem propose_refusal {catalog : Catalog} {proposal : Proposal} {name : String} {count : Nat}
    (refused : (catalog.propose proposal).refusal = some (.validationFailed name count)) :
    1 ≤ count ∧ count = (catalog.propose proposal).pipeline.findings.length := by
  cases proposal with
  | create pipeline group =>
    rw [propose, create] at refused ⊢
    split at refused
    · simp at refused
    · rename_i fresh
      rw [if_neg fresh]
      exact commit_refusal refused
  | update pipeline group =>
    rw [propose, update] at refused ⊢
    split at refused
    · rename_i taken
      rw [if_pos taken]
      exact commit_refusal refused
    · simp at refused

/-- A verdict agrees with what a review records, and neither depends on what was recorded before.
The report has as many messages as are found on the pipeline afterwards, there are none just when
the verdict is good, and nothing but recorded messages changes; so a second review adds nothing. The
verdict on a template agrees with its messages too, and a proposal that is refused for its review
tells how many messages there are. -/
theorem verdict_told (catalog : Catalog) (pipeline : Pipeline) (template : Template) :
    ((pipeline.validate catalog).1 = true ↔ (pipeline.validate catalog).2.findings = []) ∧
    (pipeline.review catalog).count = (pipeline.validate catalog).2.findings.length ∧
    (pipeline.validate catalog).2.clearErrors = pipeline.clearErrors ∧
    pipeline.clearErrors.validate catalog = pipeline.validate catalog ∧
    (pipeline.validate catalog).2.validate catalog = pipeline.validate catalog ∧
    ((template.validate catalog).1 = true ↔ (template.validate catalog).2.findings = []) ∧
    ∀ proposal name count,
      (catalog.propose proposal).refusal = some (.validationFailed name count) →
        1 ≤ count ∧ count = (catalog.propose proposal).pipeline.findings.length :=
  ⟨pipeline.isValid_iff catalog, (pipeline.length_findings_validate catalog).symm,
    (pipeline.review catalog).clearErrors_apply pipeline, pipeline.validate_clearErrors catalog,
    pipeline.validate_validate catalog, template.isValid_iff catalog,
    fun _ _ _ refused => propose_refusal refused⟩

end Verdict

/-- A pipeline with nothing to run. -/
def idle : Pipeline := { name := ⟨"idle"⟩ }

theorem verdict_idle :
    ∃ count, (propose {} (.create idle "first")).refusal = some (.validationFailed "idle" count) ∧
      1 ≤ count ∧ count = (propose {} (.create idle "first")).pipeline.findings.length := by
  have invalid : (idle.validate {}).1 = false := by
    rw [Bool.eq_false_iff]
    intro valid
    exact absurd (Pipeline.validate_fst_iff.1 valid).1.source (by decide)
  obtain ⟨count, refused⟩ : ∃ count,
      (propose {} (.create idle "first")).refusal = some (.validationFailed "idle" count) := by
    rw [propose, create, if_neg (by decide), commit]
    cases reviewed : idle.validate {} with
    | mk valid saved =>
      rw [reviewed] at invalid
      cases valid with
      | true => simp at invalid
      | false => exact ⟨_, rfl⟩
  exact ⟨count, refused, (verdict_told {} idle ⟨⟨"unused"⟩, []⟩).2.2.2.2.2.2 _ _ _ refused⟩

end Catalog

end PipelineConfig
