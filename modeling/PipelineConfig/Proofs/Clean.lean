import PipelineConfig.Proofs.FetchPaths
import PipelineConfig.Proofs.Overlay

/-!
# Clean reports

A report is clean when no check found a problem. This comes apart into what the pipeline's own
nodes are told, which `Pipeline.Stands` collects, and what other pipelines have to say.
-/

namespace PipelineConfig

namespace FieldErrors

/-- The messages of a field are those of the problems on it, in their order. -/
theorem on_ofProblems (problems : List Problem) (field : String) :
    (ofProblems problems).on field =
      (problems.filter fun problem => problem.field = field).map Problem.message := by
  rw [ofProblems, on_addProblems]
  rfl

end FieldErrors

theorem Review.messages_eq_nil {problems : List Problem} :
    Review.messages problems = [] ↔ problems = [] := by
  rw [← List.length_eq_zero_iff, messages, FieldErrors.length_all, FieldErrors.ofProblems,
    FieldErrors.count_addProblems, FieldErrors.count_none, Nat.zero_add, List.length_eq_zero_iff]

theorem Problem.when_eq_nil {condition : Bool} {problem : Problem} :
    Problem.when condition problem = [] ↔ condition = false := by
  cases condition <;> simp [Problem.when]

theorem Problem.eq_of_mem_when {condition : Bool} {problem told : Problem}
    (member : told ∈ Problem.when condition problem) : told = problem := by
  cases condition with
  | false => simp [Problem.when] at member
  | true => exact List.mem_singleton.1 member

theorem Material.pollingProblems_eq_nil_iff {material : Material} {scope : Scope}
    {pipeline : Pipeline} (own : scope.pipeline? = some pipeline) :
    material.pollingProblems scope = [] ↔
      (material.isScm = true → ∀ use ∈ scope.catalog.usesAt material.fingerprint,
        use.pipeline.name.same pipeline.name = false →
          use.material.autoUpdate = material.autoUpdate) := by
  rw [pollingProblems, isScm, own]
  cases material.source.url? with
  | none => simp
  | some address =>
    rw [Problem.when_eq_nil, List.any_eq_false]
    simp [conflictsWith]

/-! ## Stages -/

/-- Nothing is wrong with a stage, its jobs and their tasks. -/
structure Stage.Stands (stage : Stage) (scope : Scope) : Prop where
  /-- Nothing is wrong with the stage itself. -/
  own : stage.problems scope = []
  /-- Nothing is wrong with its jobs. -/
  jobs : ∀ job ∈ stage.jobs, job.problems (scope.within (.stage stage)) = []
  /-- Nothing is wrong with the tasks of its jobs. -/
  tasks : ∀ job ∈ stage.jobs, ∀ task ∈ job.tasks,
    task.problems ((scope.within (.stage stage)).within (.job job)) = []

theorem Stage.isClean_review_iff {stage : Stage} {scope : Scope} :
    (stage.review scope).isClean = true ↔ stage.Stands scope := by
  have parts : (stage.review scope).isClean = true ↔
      stage.problems scope = [] ∧ ∀ job ∈ stage.jobs,
        job.problems (scope.within (.stage stage)) = [] ∧ ∀ task ∈ job.tasks,
          task.problems ((scope.within (.stage stage)).within (.job job)) = [] := by
    simp [StageReport.isClean, review, Job.review, FieldErrors.isEmpty_ofProblems]
  rw [parts]
  constructor
  · rintro ⟨own, jobs⟩
    exact ⟨own, fun job member => (jobs job member).1, fun job member => (jobs job member).2⟩
  · rintro ⟨own, jobs, tasks⟩
    exact ⟨own, fun job member => ⟨jobs job member, tasks job member⟩⟩

/-! ## Pipelines -/

/-- The scope in which a review checks the nodes of a pipeline. -/
def Scope.inside (catalog : Catalog) (pipeline : Pipeline) : Scope :=
  (ofEdit catalog pipeline).within (.pipeline pipeline)

section Standing

variable [Pattern.Engine]

/-- Nothing is wrong with a pipeline and its nodes, whatever others say of it. -/
structure Pipeline.Stands (pipeline : Pipeline) (catalog : Catalog) : Prop where
  /-- Its name and its label are in order. -/
  own : pipeline.ownProblems = []
  /-- It has either stages or a template that exists. -/
  source : pipeline.stageSourceProblems catalog = []
  /-- Its dependencies can be followed. -/
  dependencies : pipeline.dependencyProblems (.ofEdit catalog pipeline) = []
  /-- Nothing is wrong with its materials. -/
  materials : ∀ material ∈ pipeline.materials.items,
    material.problems (.inside catalog pipeline) = []
  /-- Nothing is wrong with its stages. -/
  stages : ∀ stage ∈ pipeline.stages, stage.Stands (.inside catalog pipeline)
  /-- Nothing is wrong with its parameters. -/
  params : ∀ parameter ∈ pipeline.params, parameter.problems (.inside catalog pipeline) = []
  /-- Nothing is wrong with its environment variables. -/
  bindings : ∀ binding ∈ pipeline.environmentVariables,
    binding.problems (.inside catalog pipeline) = []
  /-- Nothing is wrong with its issue tracker. -/
  trackingTool : (pipeline.trackingTool.map TrackingTool.problems).getD [] = []
  /-- Nothing is wrong with its planning tool. -/
  mingle : (pipeline.mingle.map Mingle.problems).getD [] = []
  /-- Nothing is wrong with its start by the clock. -/
  timer : (pipeline.timer.map Timer.problems).getD [] = []

/-- The repositories of a pipeline that stands are polled as other pipelines poll them. -/
theorem Pipeline.Stands.autoUpdate_eq {pipeline : Pipeline} {catalog : Catalog}
    (stands : pipeline.Stands catalog) {material : Material}
    (member : material ∈ pipeline.materials.items) (scm : material.isScm = true) {use : Use}
    (used : use ∈ catalog.usesAt material.fingerprint)
    (apart : use.pipeline.name.same pipeline.name = false) :
    use.material.autoUpdate = material.autoUpdate := by
  have checked := stands.materials material member
  rw [Material.problems, List.append_eq_nil_iff, Material.pollingProblems_eq_nil_iff rfl] at checked
  exact checked.2 scm use used apart

/-- A report is clean just when the pipeline stands and no other pipeline complains. -/
theorem Pipeline.isClean_review_iff {pipeline : Pipeline} {catalog : Catalog} :
    (pipeline.review catalog).isClean = true ↔
      pipeline.Stands catalog ∧
        Review.downstreamDependencyProblems pipeline (.ofEdit catalog pipeline) = [] ∧
          Review.downstreamFetchProblems pipeline (.ofEdit catalog pipeline) = [] := by
  have stages : ((pipeline.review catalog).stages.flatMap StageReport.parts).all
      FieldErrors.isEmpty = true ↔
        ∀ stage ∈ pipeline.stages, stage.Stands (.inside catalog pipeline) := by
    simp only [List.all_flatMap, ← StageReport.isClean_eq_parts, review, reviewIn_eq,
      PipelineReport.judged, told, List.all_map, List.all_eq_true, Function.comp_def,
      ← Stage.isClean_review_iff]
    rfl
  rw [PipelineReport.isClean, PipelineReport.parts]
  simp only [List.all_append, Bool.and_eq_true, stages]
  simp only [review, reviewIn_eq, PipelineReport.judged, told, List.all_map, List.all_cons,
    List.all_nil, List.all_eq_true, Bool.and_eq_true, Function.comp_def,
    FieldErrors.isEmpty_ofProblems, Pipeline.problems, List.append_eq_nil_iff]
  constructor
  · rintro ⟨⟨⟨⟨⟨⟨⟨⟨⟨own, others⟩, source⟩, fetches⟩, dependencies, -⟩, materials⟩, stages⟩, params⟩,
      bindings⟩, tool, mingle, timer, -⟩
    exact ⟨⟨own, source, dependencies, materials, stages, params, bindings, tool, mingle, timer⟩,
      others, fetches⟩
  · rintro ⟨⟨own, source, dependencies, materials, stages, params, bindings, tool, mingle, timer⟩,
      others, fetches⟩
    exact ⟨⟨⟨⟨⟨⟨⟨⟨⟨own, others⟩, source⟩, fetches⟩, dependencies, trivial⟩, materials⟩, stages⟩,
      params⟩, bindings⟩, tool, mingle, timer, trivial⟩

theorem Pipeline.validate_fst_iff {pipeline : Pipeline} {catalog : Catalog} :
    (pipeline.validate catalog).1 = true ↔
      pipeline.Stands catalog ∧
        Review.downstreamDependencyProblems pipeline (.ofEdit catalog pipeline) = [] ∧
          Review.downstreamFetchProblems pipeline (.ofEdit catalog pipeline) = [] := by
  rw [validate_fst, isClean_review_iff]

/-- A pipeline that stands in one catalog stands in another with the same templates as soon as its
dependencies, materials and tasks do: the other checks do not ask what is committed. -/
theorem Pipeline.Stands.transfer {pipeline : Pipeline} {left right : Catalog}
    (before : pipeline.Stands left) (templates : right.templates = left.templates)
    (dependencies : pipeline.dependencyProblems (.ofEdit right pipeline) = [])
    (materials : ∀ material ∈ pipeline.materials.items,
      material.problems (.inside right pipeline) = [])
    (tasks : ∀ stage ∈ pipeline.stages, ∀ job ∈ stage.jobs, ∀ task ∈ job.tasks,
      task.problems (((Scope.inside right pipeline).within (.stage stage)).within
        (.job job)) = []) :
    pipeline.Stands right := by
  have alike : (Scope.inside right pipeline).Alike (.inside left pipeline) :=
    ⟨rfl, rfl, rfl, rfl, rfl, templates⟩
  have source : pipeline.stageSourceProblems right = pipeline.stageSourceProblems left := by
    simp only [stageSourceProblems, Catalog.hasTemplate, templates]
  exact
    { own := before.own
      source := source.trans before.source
      dependencies := dependencies
      materials := materials
      stages := fun stage in_stages =>
        { own := (stage.problems_congr alike).trans (before.stages stage in_stages).own
          jobs := fun job in_jobs => (job.problems_congr (alike.within _ _ rfl)).trans
            ((before.stages stage in_stages).jobs job in_jobs)
          tasks := tasks stage in_stages }
      params := fun parameter member =>
        (parameter.problems_congr alike).trans (before.params parameter member)
      bindings := fun binding member =>
        (binding.problems_congr alike).trans (before.bindings binding member)
      trackingTool := before.trackingTool
      mingle := before.mingle
      timer := before.timer }

end Standing

/-- A fetch task that was in order stays so, unless it went along a path that it could follow. -/
theorem FetchTask.problems_eq_nil_or_follow {before after : Scope} (alike : after.Alike before)
    {kept : Pipeline} (own_before : before.pipeline? = some kept)
    (own_after : after.pipeline? = some kept) (fetch : FetchTask)
    (clean : fetch.problems before = []) :
    fetch.problems after = [] ∨
      ∃ target, Follows before kept fetch.path.reverse target := by
  rw [problems, List.append_eq_nil_iff, own_before] at clean
  rw [problems, List.append_eq_nil_iff, own_after, fetch.formProblems_congr alike,
    alike.isTemplated, alike.isSome_template]
  obtain ⟨form, resolution⟩ := clean
  split at resolution
  · rename_i unresolved
    exact .inl ⟨form, if_pos unresolved⟩
  · rename_i resolved
    rw [if_neg resolved]
    dsimp only at resolution ⊢
    rw [resolutionProblems] at resolution ⊢
    split at resolution
    · rename_i near
      rw [if_pos near, fetch.localProblems_congr alike rfl]
      exact .inl ⟨form, resolution⟩
    · split at resolution
      · simp at resolution
      · rename_i target followed
        exact .inr ⟨target, follow_eq_ok_iff.1 followed⟩

/-! ## What others say -/

namespace Review

theorem mem_committed {catalog : Catalog} {names : List Name} {pipeline : Pipeline} :
    pipeline ∈ committed catalog names ↔
      ∃ name ∈ names, catalog.pipeline? name = some pipeline :=
  List.mem_filterMap

theorem brokenReferences_eq_nil {edited : Name} {scope : Scope} {downstream : Pipeline} :
    brokenReferences edited scope downstream = [] ↔
      ∀ material ∈ downstream.materials.items, material.dependsOn edited = true →
        material.problems (scope.outermost.within (.pipeline downstream)) = [] := by
  simp [brokenReferences, messages_eq_nil]

theorem brokenFetches_eq_nil {edited : Name} {scope : Scope} {downstream : Pipeline} :
    brokenFetches edited scope downstream = [] ↔
      ∀ stage ∈ downstream.stages, ∀ job ∈ stage.jobs, ∀ task ∈ job.tasks,
        fetchesThrough edited task = true →
          task.problems (((scope.outermost.within (.pipeline downstream)).within
            (.stage stage)).within (.job job)) = [] := by
  simp [brokenFetches, messages_eq_nil]

end Review

/-! ## Pipelines without dependencies -/

/-- Nothing is wrong with a pipeline and its nodes, as far as no dependency has to be followed. All
of this can be decided by evaluation. -/
def Pipeline.Passes [Pattern.Engine] (pipeline : Pipeline) (catalog : Catalog) : Prop :=
  pipeline.ownProblems = [] ∧ pipeline.stageSourceProblems catalog = [] ∧
    (∀ material ∈ pipeline.materials.items, material.problems (.inside catalog pipeline) = []) ∧
    (∀ stage ∈ pipeline.stages, (stage.review (.inside catalog pipeline)).isClean = true) ∧
    (∀ parameter ∈ pipeline.params, parameter.problems (.inside catalog pipeline) = []) ∧
    (∀ binding ∈ pipeline.environmentVariables,
      binding.problems (.inside catalog pipeline) = []) ∧
    (pipeline.trackingTool.map TrackingTool.problems).getD [] = [] ∧
    (pipeline.mingle.map Mingle.problems).getD [] = [] ∧
    (pipeline.timer.map Timer.problems).getD [] = []

instance [Pattern.Engine] (pipeline : Pipeline) (catalog : Catalog) :
    Decidable (pipeline.Passes catalog) :=
  inferInstanceAs (Decidable (_ ∧ _))

theorem Pipeline.Passes.stands [Pattern.Engine] {pipeline : Pipeline} {catalog : Catalog}
    (passes : pipeline.Passes catalog)
    (dependencies : pipeline.dependencyProblems (.ofEdit catalog pipeline) = []) :
    pipeline.Stands catalog := by
  obtain ⟨own, source, materials, stages, params, bindings, trackingTool, mingle, timer⟩ := passes
  have stages : ∀ stage ∈ pipeline.stages, stage.Stands (.inside catalog pipeline) :=
    fun stage member => Stage.isClean_review_iff.1 (stages stage member)
  exact ⟨own, source, dependencies, materials, stages, params, bindings, trackingTool, mingle,
    timer⟩

theorem Pipeline.dependencyProblems_of_idle {pipeline : Pipeline}
    (idle : pipeline.upstreams.toList = []) (catalog : Catalog) :
    pipeline.dependencyProblems (.ofEdit catalog pipeline) = [] := by
  have upstreams : ((Scope.ofEdit catalog pipeline).proposedView pipeline).upstreamsOf
      pipeline.name = pipeline.upstreams := by
    simp [Scope.proposedView]
  rw [dependencyProblems, DependencyView.findCycle, upstreams, idle, DependencyView.explore]
  rfl

/-- A pipeline that no other waits for hears nothing from others. -/
theorem Review.silent_of_unawaited {pipeline : Pipeline} {catalog : Catalog}
    (unawaited : (catalog.downstreamsOf pipeline.name).toList = []) :
    downstreamDependencyProblems pipeline (.ofEdit catalog pipeline) = [] ∧
      downstreamFetchProblems pipeline (.ofEdit catalog pipeline) = [] := by
  have nowhere : (catalog.transitiveDownstreamsOf pipeline.name).toList = [] := by
    rw [Catalog.transitiveDownstreamsOf, unawaited, Catalog.exploreDownstream]
    rfl
  constructor
  · simp [downstreamDependencyProblems, Scope.ofEdit, unawaited, committed]
  · simp [downstreamFetchProblems, Scope.ofEdit, nowhere, committed]

theorem Pipeline.Passes.isClean_review [Pattern.Engine] {pipeline : Pipeline} {catalog : Catalog}
    (passes : pipeline.Passes catalog) (idle : pipeline.upstreams.toList = [])
    (unawaited : (catalog.downstreamsOf pipeline.name).toList = []) :
    (pipeline.review catalog).isClean = true :=
  isClean_review_iff.2 ⟨passes.stands (dependencyProblems_of_idle idle catalog),
    Review.silent_of_unawaited unawaited⟩

end PipelineConfig
