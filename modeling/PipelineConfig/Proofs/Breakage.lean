import PipelineConfig.Proofs.Messages
import PipelineConfig.Proofs.Removal

/-!
# What an edit breaks elsewhere

An edit of a sound catalog is told of the other pipelines it breaks: of every dependency material
whose stage it does not run, and of every fetch task on a path through it that does not resolve any
more. Nothing else comes up when these materials and tasks are checked again, because all that does
not depend on the edit was in order before.
-/

namespace PipelineConfig

namespace Pipeline

/-- The upstream pipelines and stages that a pipeline waits for under one name, as declared. -/
def awaited (pipeline : Pipeline) (upstream : Name) : List (Name × Name) :=
  (pipeline.materials.items.filterMap Material.target?).filter fun target => target.1.same upstream

/-- The retrievals of a pipeline's own stages on paths through a name, in the order of the tasks. -/
def fetchesThrough (pipeline : Pipeline) (name : Name) : List FetchTask :=
  pipeline.stages.flatMap fun stage => stage.jobs.flatMap fun job =>
    (job.tasks.filterMap Task.fetch?).filter fun fetch => fetch.passesThrough name

end Pipeline

/-- A list holds the committed pipelines whose names meet a condition, in the order of the names. -/
structure Catalog.Lists (catalog : Catalog) (pipelines : List Pipeline) (meets : Name → Prop) :
    Prop where
  /-- These pipelines are listed, and no others. -/
  mem_iff : ∀ pipeline, pipeline ∈ pipelines ↔
    catalog.pipeline? pipeline.name = some pipeline ∧ meets pipeline.name
  /-- Their names stand in order. -/
  sorted : pipelines.Pairwise fun left right => compare left.name right.name = .lt

/-! ## Messages for the edit as a whole -/

namespace Problem

variable {problems : List Problem} {field : String}

theorem filter_field_eq_nil (elsewhere : ∀ problem ∈ problems, problem.field ≠ field) :
    (problems.filter fun problem => problem.field = field) = [] :=
  List.filter_eq_nil_iff.2 fun problem member => by simp [elsewhere problem member]

theorem filter_field_eq_self (here : ∀ problem ∈ problems, problem.field = field) :
    (problems.filter fun problem => problem.field = field) = problems :=
  List.filter_eq_self.2 fun problem member => by simp [here problem member]

end Problem

namespace Pipeline

theorem field_of_mem_label {pipeline : Pipeline} {problem : Problem}
    (member : problem ∈ Label.problems pipeline) : problem.field = "labelTemplate" := by
  rw [Label.problems] at member
  split at member
  · obtain rfl := Problem.eq_of_mem_when member
    rfl
  · obtain ⟨reference, _, told⟩ := List.mem_filterMap.1 member
    split at told
    · simp at told
    · obtain rfl := Option.some.inj told
      rfl

theorem field_of_mem_own {pipeline : Pipeline} {problem : Problem}
    (member : problem ∈ pipeline.ownProblems) :
    problem.field = "name" ∨ problem.field = "labelTemplate" := by
  rw [ownProblems, List.mem_append] at member
  rcases member with member | member
  · obtain rfl := Problem.eq_of_mem_when member
    exact .inl rfl
  · exact .inr (field_of_mem_label member)

theorem field_of_mem_source {pipeline : Pipeline} {catalog : Catalog} {problem : Problem}
    (member : problem ∈ pipeline.stageSourceProblems catalog) :
    problem.field = "stages" ∨ problem.field = "template" := by
  rw [stageSourceProblems] at member
  split at member
  · obtain rfl := Problem.eq_of_mem_when member
    exact .inl rfl
  · rcases List.mem_append.1 member with member | member
    · split at member
      · simp at member
      · simp only [List.mem_cons, List.not_mem_nil, or_false] at member
        rcases member with rfl | rfl
        · exact .inl rfl
        · exact .inr rfl
    · obtain rfl := Problem.eq_of_mem_when member
      exact .inr rfl

theorem field_eq_base_of_mem_references {edited : Pipeline} {scope : Scope} {problem : Problem}
    (member : problem ∈ Review.downstreamDependencyProblems edited scope) :
    problem.field = FieldErrors.base := by
  obtain ⟨downstream, _, member⟩ := List.mem_flatMap.1 member
  obtain ⟨material, _, member⟩ := List.mem_flatMap.1 member
  obtain ⟨message, _, rfl⟩ := List.mem_map.1 member
  rfl

theorem field_eq_base_of_mem_fetches {edited : Pipeline} {scope : Scope} {problem : Problem}
    (member : problem ∈ Review.downstreamFetchProblems edited scope) :
    problem.field = FieldErrors.base := by
  obtain ⟨downstream, _, member⟩ := List.mem_flatMap.1 member
  obtain ⟨stage, _, member⟩ := List.mem_flatMap.1 member
  obtain ⟨job, _, member⟩ := List.mem_flatMap.1 member
  obtain ⟨task, _, member⟩ := List.mem_flatMap.1 member
  obtain ⟨message, _, rfl⟩ := List.mem_map.1 member
  rfl

/-- The messages of a field are those of the problems on it. -/
theorem on_validate [Pattern.Engine] (edited : Pipeline) (catalog : Catalog) (field : String) :
    (edited.validate catalog).2.errors.on field =
      ((edited.problems (.ofEdit catalog edited)).filter fun problem =>
        problem.field = field).map Problem.message :=
  FieldErrors.on_ofProblems _ field

/-- The messages for the edit as a whole are what other pipelines have to say. -/
theorem on_base_validate [Pattern.Engine] (edited : Pipeline) (catalog : Catalog) :
    (edited.validate catalog).2.errors.on FieldErrors.base =
      (Review.downstreamDependencyProblems edited (.ofEdit catalog edited) ++
        Review.downstreamFetchProblems edited (.ofEdit catalog edited)).map Problem.message := by
  have own : ∀ problem ∈ edited.ownProblems, problem.field ≠ FieldErrors.base := by
    intro problem member
    rcases field_of_mem_own member with field | field <;> simp [field, FieldErrors.base]
  have source : ∀ problem ∈ edited.stageSourceProblems (Scope.ofEdit catalog edited).catalog,
      problem.field ≠ FieldErrors.base := by
    intro problem member
    rcases field_of_mem_source member with field | field <;> simp [field, FieldErrors.base]
  rw [on_validate, problems, List.filter_append, List.filter_append, List.filter_append,
    Problem.filter_field_eq_nil own, Problem.filter_field_eq_nil source,
    Problem.filter_field_eq_self fun _ => field_eq_base_of_mem_references,
    Problem.filter_field_eq_self fun _ => field_eq_base_of_mem_fetches, List.nil_append,
    List.append_nil]

end Pipeline

/-- Checking the members that concern an edit gives what there is to tell of each of their targets,
if the others have no target or one that does not concern it. -/
theorem flatMap_filter_eq_filterMap {α β γ : Type} {members : List α} {concerns : α → Bool}
    {view : α → Option β} {kept : β → Bool} {check : α → List γ} {told : β → Option γ}
    (aside : ∀ member ∈ members, view member = none → concerns member = false)
    (agrees : ∀ member ∈ members, ∀ target, view member = some target →
      concerns member = kept target ∧ (kept target = true → check member = (told target).toList)) :
    (members.filter concerns).flatMap check =
      ((members.filterMap view).filter kept).filterMap told := by
  induction members with
  | nil => rfl
  | cons member rest ih =>
    have onward := ih (fun other later => aside other (List.mem_cons_of_mem _ later))
      fun other later => agrees other (List.mem_cons_of_mem _ later)
    cases seen : view member with
    | none =>
      have dropped := aside member List.mem_cons_self seen
      rw [List.filter_cons_of_neg (by simp [dropped]), onward, List.filterMap_cons_none seen]
    | some target =>
      obtain ⟨same, checked⟩ := agrees member List.mem_cons_self target seen
      rw [List.filterMap_cons_some seen]
      cases keep : kept target with
      | false =>
        rw [List.filter_cons_of_neg (by simp [same, keep]), onward,
          List.filter_cons_of_neg (by simp [keep])]
      | true =>
        rw [List.filter_cons_of_pos (by simp [same, keep]), List.flatMap_cons, checked keep, onward,
          List.filter_cons_of_pos (by simp [keep])]
        cases message : told target <;> simp [message]

theorem map_filter_eq_filterMap {α β : Type} (kept : α → Bool) (tell : α → β) (members : List α) :
    (members.filter kept).map tell =
      members.filterMap fun member => if kept member then some (tell member) else none := by
  rw [← List.filterMap_eq_map, List.filterMap_filter]
  rfl

/-! ## Dependency materials -/

theorem Material.sourceProblems_of_target? {material : Material} {target : Name × Name}
    (waits : material.target? = some target) (scope : Scope) :
    material.sourceProblems scope = dependencyProblems target.1 target.2 scope := by
  obtain ⟨source, name, destination, autoUpdate, errors⟩ := material
  cases source with
  | dependency upstream stage =>
    obtain rfl := Option.some.inj waits
    rfl
  | _ => simp [target?, Source.target?] at waits

namespace Catalog

variable {catalog : Catalog} {edited downstream : Pipeline}

/-- Of a dependency material that was in order only the stage can be missing from an edit, because
all else about it is checked without a look at the edit. -/
theorem problems_recheck_dependency {material : Material}
    (before : material.problems (.inside catalog downstream) = []) {target : Name × Name}
    (waits : material.target? = some target) (named : target.1.same edited.name = true) :
    material.problems (catalog.recheck edited downstream) =
      Problem.when (!(catalog.stagesOf edited).any fun stage => stage.name.same target.2)
        (.unknownUpstreamStage target.2 target.1) := by
  have depends : material.dependsOn edited.name = true := by
    simp [Material.dependsOn, Material.upstream?, waits, named]
  have polling := Material.pollingProblems_of_dependsOn depends (catalog.recheck edited downstream)
  have shared := material.sharedNameProblems_congr (catalog.alike_recheck edited downstream)
  have found : (catalog.recheck edited downstream).lookup? target.1 = some edited := by
    have same := Name.same_symm named
    simp [Scope.lookup?, recheck, Scope.ofEdit, Scope.outermost, Scope.within, same]
  have source : material.sourceProblems (catalog.recheck edited downstream) =
      Problem.when (!(catalog.stagesOf edited).any fun stage => stage.name.same target.2)
        (.unknownUpstreamStage target.2 target.1) := by
    rw [Material.sourceProblems_of_target? waits, Material.dependencyProblems, found]
    rfl
  simp only [Material.problems, List.append_eq_nil_iff] at before
  obtain ⟨⟨⟨⟨name, distinct⟩, folder⟩, -⟩, -⟩ := before
  rw [Material.problems, name, shared, distinct, folder, source, polling]
  simp

/-- The stages that an edit was to run and does not run. -/
theorem brokenReferences_eq
    (before : ∀ material ∈ downstream.materials.items,
      material.problems (.inside catalog downstream) = []) :
    Review.brokenReferences edited.name (.ofEdit catalog edited) downstream =
      ((downstream.awaited edited.name).filter fun target =>
        !(catalog.stagesOf edited).any fun stage => stage.name.same target.2).map fun target =>
          .brokenReference (Problem.unknownUpstreamStage target.2 target.1).message
            downstream.name := by
  rw [Review.brokenReferences, Pipeline.awaited, map_filter_eq_filterMap]
  refine flatMap_filter_eq_filterMap (fun material _ aside => ?_)
    fun material member target waits => ?_
  · simp [Material.dependsOn, Material.upstream?, aside]
  · have depends : material.dependsOn edited.name = target.1.same edited.name := by
      simp [Material.dependsOn, Material.upstream?, waits]
    refine ⟨depends, fun named => ?_⟩
    have told : material.problems (catalog.recheck edited downstream) = _ :=
      problems_recheck_dependency (before material member) waits named
    rw [recheck] at told
    rw [told]
    cases (catalog.stagesOf edited).any fun stage => stage.name.same target.2 <;> rfl

end Catalog

/-! ## Fetch tasks -/

/-- A pipeline in order that has stages of its own references no template. -/
theorem Pipeline.Stands.selfStaged [Pattern.Engine] {pipeline : Pipeline} {catalog : Catalog}
    (stands : pipeline.Stands catalog) (staged : pipeline.stages ≠ []) :
    pipeline.template = none := by
  have source := stands.source
  rw [stageSourceProblems] at source
  cases template : pipeline.template with
  | none => rfl
  | some name => simp [template, staged] at source

theorem FetchTask.isLocal_eq_false {fetch : FetchTask} {current : Pipeline} {name : Name}
    (passes : fetch.passesThrough name = true) (apart : name.same current.name = false) :
    fetch.isLocal current = false := by
  rw [passesThrough] at passes
  rw [isLocal]
  split
  · rename_i path
    simp [path] at passes
  · rename_i segment path
    have same : segment.same name = true := by simpa [path] using passes
    rw [Name.same_congr_left _ same, apart]
  · rfl

theorem Task.problems_of_fetch? {task : Task} {fetch : FetchTask}
    (retrieves : task.fetch? = some fetch) (scope : Scope) :
    task.problems scope = fetch.problems scope := by
  obtain ⟨kind, errors⟩ := task
  cases kind with
  | fetch other =>
    obtain rfl := Option.some.inj retrieves
    rfl
  | _ => simp [fetch?] at retrieves

namespace Catalog

variable {catalog : Catalog} {edited downstream : Pipeline}

/-- Of a fetch task that was in order only the target can be missing after an edit. -/
theorem problems_recheck_fetch {stage : Stage} {job : Job} {task : Task} {fetch : FetchTask}
    (before : task.problems (((Scope.inside catalog downstream).within (.stage stage)).within
      (.job job)) = [])
    (retrieves : task.fetch? = some fetch) (staged : downstream.template = none)
    (elsewhere : fetch.isLocal downstream = false) :
    task.problems (((catalog.recheck edited downstream).within (.stage stage)).within
        (.job job)) =
      fetch.resolutionProblems (.ofEdit catalog edited) downstream := by
  have alike := ((catalog.alike_recheck edited downstream).within (.stage stage) (.stage stage)
    rfl).within (.job job) (.job job) rfl
  rw [Task.problems_of_fetch? retrieves, FetchTask.problems, List.append_eq_nil_iff] at before
  have form : fetch.formProblems (((catalog.recheck edited downstream).within
      (.stage stage)).within (.job job)) = [] :=
    (fetch.formProblems_congr alike).trans before.1
  have outside : fetch.resolutionProblems (Scope.ofEdit catalog edited).outermost downstream =
      fetch.resolutionProblems (.ofEdit catalog edited) downstream :=
    (FetchTask.resolutionProblems_within elsewhere (.pipeline edited)).symm
  rw [Task.problems_of_fetch? retrieves,
    FetchTask.problems_eq_resolutionProblems form rfl staged rfl,
    FetchTask.resolutionProblems_within elsewhere, FetchTask.resolutionProblems_within elsewhere,
    recheck, FetchTask.resolutionProblems_within elsewhere, outside]

/-- What keeps a retrieval of another pipeline from its target if an edit is made. -/
def shortfall? (catalog : Catalog) (edited downstream : Pipeline) (fetch : FetchTask) :
    Option Problem :=
  (fetch.resolutionProblems (.ofEdit catalog edited) downstream).head?

theorem messages_resolutionProblems {fetch : FetchTask}
    (elsewhere : fetch.isLocal downstream = false) :
    Review.messages (fetch.resolutionProblems (.ofEdit catalog edited) downstream) =
      ((catalog.shortfall? edited downstream fetch).map Problem.message).toList := by
  rw [shortfall?]
  rcases FetchTask.resolutionProblems_cases elsewhere with resolved | ⟨problem, told, _⟩
  · rw [resolved]
    rfl
  · rw [told]
    rfl

/-- The retrievals on paths through an edit that do not resolve any more. -/
theorem brokenFetches_eq (apart : edited.name.same downstream.name = false)
    (staged : downstream.stages ≠ [] → downstream.template = none)
    (before : ∀ stage ∈ downstream.stages, ∀ job ∈ stage.jobs, ∀ task ∈ job.tasks,
      task.problems (((Scope.inside catalog downstream).within (.stage stage)).within
        (.job job)) = []) :
    Review.brokenFetches edited.name (.ofEdit catalog edited) downstream =
      (downstream.fetchesThrough edited.name).filterMap fun fetch =>
        (catalog.shortfall? edited downstream fetch).map fun problem =>
          .brokenFetch problem.message := by
  rw [Review.brokenFetches, Pipeline.fetchesThrough, List.filterMap_flatMap]
  refine List.flatMap_congr fun stage in_stages => ?_
  rw [List.filterMap_flatMap]
  refine List.flatMap_congr fun job in_jobs => ?_
  refine flatMap_filter_eq_filterMap (fun task _ aside => ?_) fun task member fetch retrieves => ?_
  · simp [Review.fetchesThrough, aside]
  · have through : Review.fetchesThrough edited.name task = fetch.passesThrough edited.name := by
      simp [Review.fetchesThrough, retrieves]
    refine ⟨through, fun passes => ?_⟩
    have elsewhere := FetchTask.isLocal_eq_false passes apart
    have told : task.problems (((catalog.recheck edited downstream).within
        (.stage stage)).within (.job job)) = _ :=
      problems_recheck_fetch (before stage in_stages job in_jobs task member) retrieves
        (staged (List.ne_nil_of_mem in_stages)) elsewhere
    rw [recheck] at told
    dsimp only
    rw [told, messages_resolutionProblems elsewhere]
    cases catalog.shortfall? edited downstream fetch <;> rfl

/-! ## What an edit is told -/

theorem Consistent.lists_committed (consistent : catalog.Consistent) {names : List Name}
    (sorted : names.Pairwise fun left right => compare left right = .lt) {meets : Name → Prop}
    (listed : ∀ name, (∃ spelled ∈ names, spelled.same name = true) ↔ meets name) :
    catalog.Lists (Review.committed catalog names) meets where
  mem_iff pipeline := by
    rw [← listed]
    constructor
    · intro member
      obtain ⟨name, listed, found⟩ := Review.mem_committed.1 member
      exact ⟨consistent.found_self found, name, listed, Name.same_symm (consistent.named found)⟩
    · rintro ⟨found, spelled, listed, same⟩
      exact mem_committed_of_found found listed same
  sorted := by
    refine List.pairwise_filterMap.2 (sorted.imp ?_)
    intro left right before first first_found second second_found
    have first_same := Name.compare_eq_iff_same.2 (consistent.named first_found)
    have second_same := Name.compare_eq_iff_same.2 (consistent.named second_found)
    rw [Std.TransCmp.congr_left first_same, Std.TransCmp.congr_right second_same, before]

theorem Consistent.lists_downstreams (consistent : catalog.Consistent) (edited : Name) :
    catalog.Lists (Review.committed catalog
        ((catalog.downstreamsOf edited).toList.filter fun name => !name.same edited))
      fun name => (catalog.downstreamsOf edited).has name = true ∧ name.same edited = false := by
  refine consistent.lists_committed ((Table.pairwise_keys _).filter _) fun name => ?_
  rw [NameSet.has_iff]
  constructor
  · rintro ⟨spelled, listed, same⟩
    obtain ⟨listed, apart⟩ := List.mem_filter.1 listed
    rw [Name.same_congr_left _ same] at apart
    exact ⟨⟨spelled, listed, same⟩, by simpa using apart⟩
  · rintro ⟨⟨spelled, listed, same⟩, apart⟩
    rw [← Name.same_congr_left _ same] at apart
    exact ⟨spelled, List.mem_filter.2 ⟨listed, by simp [apart]⟩, same⟩

theorem Consistent.lists_transitiveDownstreams (consistent : catalog.Consistent) (edited : Name) :
    catalog.Lists (Review.committed catalog (catalog.transitiveDownstreamsOf edited).toList)
      fun name => (catalog.transitiveDownstreamsOf edited).has name = true :=
  consistent.lists_committed (Table.pairwise_keys _) fun _ => NameSet.has_iff.symm

/-- An edit of a sound catalog is told exactly of what it breaks elsewhere: for each pipeline that
is directly downstream, of every stage that it waits for and the edit does not run, then for each
pipeline downstream at any distance, of every fetch on a path through the edit that does not
resolve. A fetch is told with the names of the pipelines, the stage and the job it is about. -/
theorem Reachable.breakage_told [Pattern.Engine] (reachable : catalog.Reachable)
    (sound : catalog.Sound) (edited : Pipeline) :
    ∃ direct farther : List Pipeline,
      catalog.Lists direct (fun name =>
        (catalog.downstreamsOf edited.name).has name = true ∧ name.same edited.name = false) ∧
      catalog.Lists farther (fun name =>
        (catalog.transitiveDownstreamsOf edited.name).has name = true) ∧
      (∀ downstream ∈ farther, ∀ fetch ∈ downstream.fetchesThrough edited.name,
        (catalog.shortfall? edited downstream fetch = none ↔
          fetch.Resolves (.ofEdit catalog edited) downstream) ∧
        ∀ problem, catalog.shortfall? edited downstream fetch = some problem →
          fetch.Misses (.ofEdit catalog edited) downstream problem ∧
            ∀ text ∈ problem.subjects, Text.Within text problem.message) ∧
      (edited.validate catalog).2.errors.on FieldErrors.base =
        (direct.flatMap fun downstream =>
          ((downstream.awaited edited.name).filter fun target =>
            !(catalog.stagesOf edited).any fun stage => stage.name.same target.2).map fun target =>
              s!"Stage with name '{target.2.text}' does not exist on pipeline '{target.1.text}'" ++
                s!", it is being referred to from pipeline '{downstream.name.text}'") ++
        farther.flatMap fun downstream =>
          (downstream.fetchesThrough edited.name).filterMap fun fetch =>
            (catalog.shortfall? edited downstream fetch).map Problem.message := by
  have consistent := reachable.consistent
  have stands := (sound_iff consistent).1 sound
  have direct := consistent.lists_downstreams edited.name
  have farther := consistent.lists_transitiveDownstreams edited.name
  have apart {downstream : Pipeline}
      (reached : (catalog.transitiveDownstreamsOf edited.name).has downstream.name = true) :
      edited.name.same downstream.name = false := by
    rw [Name.same_comm]
    exact ((catalog.has_transitiveDownstreamsOf_iff _ _).1 reached).1
  refine ⟨_, _, direct, farther, ?resolves, ?told⟩
  case resolves =>
    intro downstream listed fetch through
    obtain ⟨found, reached⟩ := (farther.mem_iff downstream).1 listed
    have passes : fetch.passesThrough edited.name = true := by
      obtain ⟨stage, _, through⟩ := List.mem_flatMap.1 through
      obtain ⟨job, _, through⟩ := List.mem_flatMap.1 through
      exact (List.mem_filter.1 through).2
    have elsewhere := FetchTask.isLocal_eq_false passes (apart reached)
    rw [← FetchTask.resolutionProblems_eq_nil_iff elsewhere, shortfall?, List.head?_eq_none_iff]
    refine ⟨.rfl, fun problem short => ?_⟩
    rcases FetchTask.resolutionProblems_cases elsewhere with resolved | ⟨other, told, misses⟩
    · rw [resolved] at short
      simp at short
    · rw [told, List.head?_cons, Option.some.injEq] at short
      exact short ▸ ⟨misses, fun _ => Problem.within_message⟩
  case told =>
    rw [Pipeline.on_base_validate, List.map_append]
    congr 1
    · rw [Review.downstreamDependencyProblems, List.map_flatMap]
      refine List.flatMap_congr fun downstream listed => ?_
      obtain ⟨found, _⟩ := (direct.mem_iff downstream).1 listed
      rw [brokenReferences_eq (stands downstream found).materials, List.map_map]
      exact List.map_congr_left fun target _ => Problem.message_brokenReference _ _ _
    · rw [Review.downstreamFetchProblems, List.map_flatMap]
      refine List.flatMap_congr fun downstream listed => ?_
      obtain ⟨found, reached⟩ := (farther.mem_iff downstream).1 listed
      have stands := stands downstream found
      rw [brokenFetches_eq (apart reached) stands.selfStaged
        fun stage member => (stands.stages stage member).tasks, List.map_filterMap]
      simp only [Option.map_map]
      rfl

/-- A version of `build` whose stage goes by another name. -/
def renamedBuild : Pipeline :=
  { name := ⟨"build"⟩,
    materials.items := [⟨.git "https://host/a" "main", none, none, true, .none⟩],
    stages := [⟨⟨"compile"⟩, [⟨⟨"all"⟩, [⟨.exec "make" [] none, .none⟩], .none⟩], .none⟩] }

theorem breakage_renamedBuild :
    "Stage with name 'run' does not exist on pipeline 'build', it is being referred to from " ++
        "pipeline 'deploy'" ∈
      (renamedBuild.validate (initial (some declaredTogether))).2.errors.on FieldErrors.base := by
  have reachable : (initial (some declaredTogether)).Reachable := ⟨some declaredTogether, [], rfl⟩
  have sound : (initial (some declaredTogether)).Sound :=
    (sound_ofConfiguration_iff declaredTogether_distinct).2 declaredTogether_allValid
  obtain ⟨direct, farther, lists, _, _, told⟩ :=
    Reachable.breakage_told reachable sound renamedBuild
  have listed : twoProposals[1].pipeline ∈ direct := (lists.mem_iff _).2 (by decide +kernel)
  have awaited : twoProposals[1].pipeline.awaited renamedBuild.name = [(⟨"build"⟩, ⟨"run"⟩)] := by
    decide +kernel
  have missing : ((initial (some declaredTogether)).stagesOf renamedBuild).any
      (fun stage => stage.name.same ⟨"run"⟩) = false := by
    decide +kernel
  rw [told]
  refine List.mem_append_left _ (List.mem_flatMap.2 ⟨_, listed, ?_⟩)
  rw [awaited, List.filter_cons_of_pos (by simp [missing])]
  exact List.mem_cons_self

end Catalog

end PipelineConfig
