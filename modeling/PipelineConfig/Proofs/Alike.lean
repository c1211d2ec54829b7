import PipelineConfig.Proofs.Tables
import PipelineConfig.Review

/-!
# Scopes that look alike

The checks of a node look at their scope through a few questions: what encloses the node, which
stages a template has, which pipeline goes by a name. Scopes that answer these questions alike,
recorded messages apart, give the same problems.
-/

namespace PipelineConfig

/-- Optional values that look alike are both absent or both present. -/
theorem alike_cases {α : Type} {clear : α → α} {left right : Option α}
    (alike : left.map clear = right.map clear) :
    left = none ∧ right = none ∨
      ∃ here there, left = some here ∧ right = some there ∧ clear here = clear there := by
  cases left with
  | none => exact .inl ⟨rfl, by simpa [eq_comm] using alike⟩
  | some here =>
    obtain ⟨there, found, same⟩ := Option.map_eq_some_iff.1 alike.symm
    exact .inr ⟨here, there, rfl, found, same.symm⟩

/-- What does not look at recorded messages sees the same of values that look alike. -/
theorem map_eq_of_alike {α β : Type} {clear : α → α} {see : α → β} {left right : Option α}
    (alike : left.map clear = right.map clear) (blind : ∀ value, see (clear value) = see value) :
    left.map see = right.map see := by
  have seen := congrArg (Option.map see) alike
  simpa only [Option.map_map, Function.comp_def, blind] using seen

theorem any_eq_of_alike {α : Type} {clear : α → α} {meets : α → Bool} {left right : Option α}
    (alike : left.map clear = right.map clear)
    (blind : ∀ value, meets (clear value) = meets value) : left.any meets = right.any meets := by
  have seen := congrArg (Option.any id) (map_eq_of_alike alike blind)
  simpa only [Option.any_map, Function.comp_def, id] using seen

theorem occursTwice_map {α : Type} (clear : α → α) {meets : α → Bool}
    (blind : ∀ value, meets (clear value) = meets value) (members : List α) :
    occursTwice (members.map clear) meets = occursTwice members meets := by
  rw [occursTwice, List.countP_map, occursTwice]
  simp only [Function.comp_def, blind]

theorem occursTwice_eq_of_alike {α : Type} {clear : α → α} {meets : α → Bool} {left right : List α}
    (alike : left.map clear = right.map clear)
    (blind : ∀ value, meets (clear value) = meets value) :
    occursTwice left meets = occursTwice right meets := by
  rw [← occursTwice_map clear blind left, alike, occursTwice_map clear blind right]

/-- A member that meets a condition is one of several just when another one meets it, too. -/
theorem occursTwice_iff {α : Type} {members : List α} {meets : α → Bool} {position : Nat}
    {member : α} (placed : members[position]? = some member) (fits : meets member = true) :
    occursTwice members meets = true ↔
      ∃ other sibling, other ≠ position ∧ members[other]? = some sibling ∧
        meets sibling = true := by
  rw [occursTwice, decide_eq_true_iff]
  induction members generalizing position with
  | nil => simp at placed
  | cons first rest ih =>
    cases position with
    | zero =>
      obtain rfl := Option.some.inj placed
      rw [List.countP_cons_of_pos fits, Nat.lt_add_left_iff_pos, List.countP_pos_iff]
      constructor
      · rintro ⟨sibling, member, also⟩
        obtain ⟨other, placed⟩ := List.getElem?_of_mem member
        exact ⟨other + 1, sibling, Nat.succ_ne_zero other, placed, also⟩
      · rintro ⟨_ | other, sibling, apart, placed, also⟩
        · exact absurd rfl apart
        · exact ⟨sibling, List.mem_of_getElem? placed, also⟩
    | succ position =>
      have member_rest : member ∈ rest := List.mem_of_getElem? placed
      cases meets_first : meets first with
      | true =>
        have later : 0 < rest.countP meets := List.countP_pos_iff.2 ⟨member, member_rest, fits⟩
        rw [List.countP_cons_of_pos meets_first]
        exact iff_of_true (by omega) ⟨0, first, (Nat.succ_ne_zero position).symm, rfl, meets_first⟩
      | false =>
        rw [List.countP_cons_of_neg (by simp [meets_first]), ih placed]
        constructor
        · rintro ⟨other, sibling, apart, placed, also⟩
          exact ⟨other + 1, sibling, by omega, placed, also⟩
        · rintro ⟨_ | other, sibling, apart, placed, also⟩
          · obtain rfl := Option.some.inj placed
            exact absurd also (by simp [meets_first])
          · exact ⟨other, sibling, by omega, placed, also⟩

/-! ## Nodes without recorded messages -/

@[simp]
theorem Stage.hasJob_clearErrors (stage : Stage) (name : Name) :
    stage.clearErrors.hasJob name = stage.hasJob name := by
  simp [hasJob, clearErrors, Function.comp_def, Job.clearErrors]

theorem findStage?_map_clearErrors (stages : List Stage) (name : Name) :
    findStage? (stages.map Stage.clearErrors) name =
      (findStage? stages name).map Stage.clearErrors := by
  rw [findStage?, List.find?_map]
  rfl

theorem stagePosition?_map_clearErrors (stages : List Stage) (name : Name) :
    stagePosition? (stages.map Stage.clearErrors) name = stagePosition? stages name := by
  rw [stagePosition?, List.findIdx?_map]
  rfl

@[simp]
theorem Pipeline.upstreams_clearErrors (pipeline : Pipeline) :
    pipeline.clearErrors.upstreams = pipeline.upstreams := by
  simp only [upstreams, clearErrors, Materials.clearErrors, Materials.upstreams,
    List.filterMap_map]
  rfl

@[simp]
theorem Pipeline.name_clearErrors (pipeline : Pipeline) :
    pipeline.clearErrors.name = pipeline.name := rfl

@[simp]
theorem Pipeline.clearErrors_clearErrors (pipeline : Pipeline) :
    pipeline.clearErrors.clearErrors = pipeline.clearErrors := by
  simp [clearErrors, Materials.clearErrors, Material.clearErrors, Stage.clearErrors,
    Job.clearErrors, Task.clearErrors, Parameter.clearErrors, Variable.clearErrors,
    TrackingTool.clearErrors, Mingle.clearErrors, Timer.clearErrors, Function.comp_def]
  exact ⟨rfl, rfl, rfl⟩

namespace Pipeline

variable {left right : Pipeline}

theorem name_eq_of_alike (alike : left.clearErrors = right.clearErrors) :
    left.name = right.name :=
  (congrArg Pipeline.name alike :)

theorem upstreams_eq_of_alike (alike : left.clearErrors = right.clearErrors) :
    left.upstreams = right.upstreams := by
  rw [← upstreams_clearErrors left, alike, upstreams_clearErrors]

end Pipeline

/-- The node without recorded messages. -/
def ScopeNode.clearErrors : ScopeNode → ScopeNode
  | pipeline node => pipeline node.clearErrors
  | template node => template node.clearErrors
  | stage node => stage node.clearErrors
  | job node => job node.clearErrors
  | task node => task node.clearErrors
  | material node => material node.clearErrors

namespace Scope

/-- Scopes in which a node has the same surroundings, recorded messages apart. -/
structure Alike (left right : Scope) : Prop where
  /-- The same pipeline encloses the node. -/
  pipeline : left.pipeline?.map Pipeline.clearErrors = right.pipeline?.map Pipeline.clearErrors
  /-- A template encloses the node in both scopes or in none. -/
  template : left.template?.map Template.clearErrors = right.template?.map Template.clearErrors
  /-- The same stage encloses the node. -/
  stage : left.stage?.map Stage.clearErrors = right.stage?.map Stage.clearErrors
  /-- The same job encloses the node. -/
  job : left.job?.map Job.clearErrors = right.job?.map Job.clearErrors
  /-- The node has the same parent. -/
  parent : left.parent?.map ScopeNode.clearErrors = right.parent?.map ScopeNode.clearErrors
  /-- Templates have the same stages. -/
  templates : left.catalog.templates = right.catalog.templates

/-- A name leads to the same pipeline in two scopes, recorded messages apart. -/
def FindAlike (left right : Scope) (name : Name) : Prop :=
  (left.lookup? name).map Pipeline.clearErrors = (right.lookup? name).map Pipeline.clearErrors

variable {left right : Scope}

theorem FindAlike.within {name : Name} (found : left.FindAlike right name)
    (here there : ScopeNode) : (left.within here).FindAlike (right.within there) name :=
  found

namespace Alike

/-- Going into nodes that look alike leads to scopes that look alike. -/
theorem within (alike : left.Alike right) (here there : ScopeNode)
    (node : here.clearErrors = there.clearErrors) :
    (left.within here).Alike (right.within there) := by
  obtain ⟨pipeline, template, stage, job, _, templates⟩ := alike
  have parent : (left.within here).parent?.map ScopeNode.clearErrors =
      (right.within there).parent?.map ScopeNode.clearErrors := congrArg some node
  cases here <;> cases there <;> simp only [ScopeNode.clearErrors, reduceCtorEq,
    ScopeNode.pipeline.injEq, ScopeNode.template.injEq, ScopeNode.stage.injEq,
    ScopeNode.job.injEq] at node
  · exact ⟨congrArg some node, template, stage, job, parent, templates⟩
  · exact ⟨pipeline, congrArg some node, stage, job, parent, templates⟩
  · exact ⟨pipeline, template, congrArg some node, job, parent, templates⟩
  · exact ⟨pipeline, template, stage, congrArg some node, parent, templates⟩
  · exact ⟨pipeline, template, stage, job, parent, templates⟩
  · exact ⟨pipeline, template, stage, job, parent, templates⟩

theorem isTemplated (alike : left.Alike right) : left.isTemplated = right.isTemplated :=
  any_eq_of_alike alike.pipeline fun _ => rfl

theorem isSome_template (alike : left.Alike right) :
    left.template?.isSome = right.template?.isSome := by
  simpa using congrArg Option.isSome alike.template

theorem stagesOf (alike : left.Alike right) {here there : Pipeline}
    (same : here.clearErrors = there.clearErrors) :
    (left.stagesOf here).map Stage.clearErrors = (right.stagesOf there).map Stage.clearErrors := by
  have template : here.template = there.template := (congrArg Pipeline.template same :)
  have stages : here.stages.map Stage.clearErrors = there.stages.map Stage.clearErrors :=
    (congrArg Pipeline.stages same :)
  simp only [Scope.stagesOf, Catalog.stagesOf, Catalog.template?, template, alike.templates]
  split
  · rfl
  · exact stages

theorem taskPlace (alike : left.Alike right) : left.taskPlace = right.taskPlace := by
  have job : (left.job?.map fun job => job.name.text) = right.job?.map fun job => job.name.text :=
    map_eq_of_alike alike.job fun _ => rfl
  have stage : (left.stage?.map fun stage => stage.name.text) =
      right.stage?.map fun stage => stage.name.text := map_eq_of_alike alike.stage fun _ => rfl
  have pipeline : (left.pipeline?.map fun pipeline => pipeline.name.text) =
      right.pipeline?.map fun pipeline => pipeline.name.text :=
    map_eq_of_alike alike.pipeline fun _ => rfl
  simp only [Scope.taskPlace, job, stage, pipeline]

end Alike

end Scope

/-! ## Tasks -/

variable {left right : Scope}

namespace FetchTask

theorem targetProblems_congr (fetch : FetchTask) {stages stages' : List Stage}
    (stages_alike : stages.map Stage.clearErrors = stages'.map Stage.clearErrors)
    {current current' target target' : Pipeline} (current_same : current.name = current'.name)
    (target_same : target.name = target'.name) :
    fetch.targetProblems stages current target =
      fetch.targetProblems stages' current' target' := by
  have found : (findStage? stages fetch.stage).map Stage.clearErrors =
      (findStage? stages' fetch.stage).map Stage.clearErrors := by
    rw [← findStage?_map_clearErrors, stages_alike, findStage?_map_clearErrors]
  rw [targetProblems, targetProblems, current_same, target_same]
  rcases alike_cases found with ⟨absent, absent'⟩ | ⟨here, there, found, found', alike⟩
  · rw [absent, absent']
  · have job : here.hasJob fetch.job = there.hasJob fetch.job := by
      rw [← Stage.hasJob_clearErrors here, alike, Stage.hasJob_clearErrors]
    rw [found, found']
    dsimp only
    rw [job]

theorem localProblems_congr (fetch : FetchTask) (alike : left.Alike right)
    {current current' : Pipeline} (same : current.clearErrors = current'.clearErrors) :
    fetch.localProblems left current = fetch.localProblems right current' := by
  have name : current.name = current'.name := Pipeline.name_eq_of_alike same
  have stages := alike.stagesOf same
  have position (wanted : Name) : stagePosition? (left.stagesOf current) wanted =
      stagePosition? (right.stagesOf current') wanted := by
    rw [← stagePosition?_map_clearErrors, stages, stagePosition?_map_clearErrors]
  have here : (left.stage?.bind fun stage => findStage? (left.stagesOf current) stage.name).map
      Stage.clearErrors =
        (right.stage?.bind fun stage => findStage? (right.stagesOf current') stage.name).map
          Stage.clearErrors := by
    rcases alike_cases alike.stage with ⟨absent, absent'⟩ | ⟨stage, stage', found, found', equal⟩
    · rw [absent, absent']
      rfl
    · have stage_name : stage.name = stage'.name := (congrArg Stage.name equal :)
      simp only [found, found', Option.bind_some, stage_name, ← findStage?_map_clearErrors, stages]
  simp only [localProblems, position]
  rcases alike_cases here with ⟨absent, absent'⟩ | ⟨stage, stage', found, found', equal⟩
  · simp only [absent, absent']
    exact fetch.targetProblems_congr stages name name
  · have stage_name : stage.name = stage'.name := (congrArg Stage.name equal :)
    have target : fetch.targetProblems (left.stagesOf current) current current =
        fetch.targetProblems (right.stagesOf current') current' current' :=
      fetch.targetProblems_congr stages name name
    simp only [found, found', Option.bind_some, stage_name, name, target]
    cases stagePosition? (right.stagesOf current') stage'.name <;>
      cases stagePosition? (right.stagesOf current') fetch.stage <;> simp only [stage_name]

/-- A path whose names lead to the same pipelines ends at the same pipeline, or breaks at the same
step. -/
theorem follow_congr {current current' : Pipeline} (same : current.name = current'.name)
    (path : List Name) (found : ∀ name ∈ path, left.FindAlike right name)
    {previous previous' : Pipeline} (alike : previous.clearErrors = previous'.clearErrors) :
    (follow left current previous path).map Pipeline.clearErrors =
      (follow right current' previous' path).map Pipeline.clearErrors := by
  induction path generalizing previous previous' with
  | nil => exact congrArg Except.ok alike
  | cons segment rest ih =>
    obtain ⟨here, later⟩ := List.forall_mem_cons.1 found
    rw [follow, follow, Pipeline.upstreams_eq_of_alike alike, Pipeline.name_eq_of_alike alike, same]
    split
    · rfl
    · rcases alike_cases here with ⟨absent, absent'⟩ | ⟨next, next', found, found', equal⟩
      · rw [absent, absent']
      · rw [found, found']
        exact ih later equal

theorem resolutionProblems_congr (fetch : FetchTask) (alike : left.Alike right)
    (found : ∀ name ∈ fetch.path, left.FindAlike right name) {current current' : Pipeline}
    (same : current.clearErrors = current'.clearErrors) :
    fetch.resolutionProblems left current = fetch.resolutionProblems right current' := by
  have name : current.name = current'.name := Pipeline.name_eq_of_alike same
  have followed := follow_congr name fetch.path.reverse (by simpa using found) same
  have local_same : fetch.isLocal current = fetch.isLocal current' := by
    rw [isLocal, isLocal, name]
  rw [resolutionProblems, resolutionProblems, local_same, fetch.localProblems_congr alike same]
  split
  · rfl
  · revert followed
    cases follow left current current fetch.path.reverse <;>
      cases follow right current' current' fetch.path.reverse <;> intro followed
    · rw [Except.error.inj followed]
    · simp [Except.map] at followed
    · simp [Except.map] at followed
    · have target := Except.ok.inj followed
      exact fetch.targetProblems_congr (alike.stagesOf target) name
        (Pipeline.name_eq_of_alike target)

theorem formProblems_congr (fetch : FetchTask) (alike : left.Alike right) :
    fetch.formProblems left = fetch.formProblems right := by
  rw [formProblems, formProblems, alike.taskPlace]

theorem problems_congr (fetch : FetchTask) (alike : left.Alike right)
    (found : ∀ name ∈ fetch.path, left.FindAlike right name) :
    fetch.problems left = fetch.problems right := by
  rw [problems, problems, fetch.formProblems_congr alike, alike.isTemplated, alike.isSome_template]
  rcases alike_cases alike.pipeline with ⟨absent, absent'⟩ | ⟨current, current', here, there, same⟩
  · rw [absent, absent']
  · simp only [here, there, fetch.resolutionProblems_congr alike found same]

end FetchTask

/-- A task has the same problems in scopes that look alike, if the names on its fetch path lead to
the same pipelines. -/
theorem Task.problems_congr (task : Task) (alike : left.Alike right)
    (found : ∀ fetch, task.fetch? = some fetch →
      ∀ name ∈ fetch.path, left.FindAlike right name) :
    task.problems left = task.problems right := by
  obtain ⟨kind, errors⟩ := task
  have directory : (Task.mk kind errors).directoryProblems left =
      (Task.mk kind errors).directoryProblems right := by
    rw [directoryProblems, directoryProblems, alike.taskPlace]
  rw [problems, problems, directory]
  cases kind with
  | fetch fetch => simp only [fetch.problems_congr alike (found fetch rfl)]
  | exec | ant | nant | rake | pluggable => rfl

/-! ## Materials -/

namespace Material

theorem sharedNameProblems_congr (material : Material) (alike : left.Alike right) :
    material.sharedNameProblems left = material.sharedNameProblems right := by
  rw [sharedNameProblems, sharedNameProblems]
  rcases alike_cases alike.pipeline with ⟨absent, absent'⟩ | ⟨here, there, found, found', same⟩
  · rw [absent, absent']
  · have items : here.materials.items.map clearErrors = there.materials.items.map clearErrors :=
      (congrArg (fun pipeline => pipeline.materials.items) same :)
    have twice (name : Name) :
        (occursTwice here.materials.items fun other => other.goesBy name) =
          occursTwice there.materials.items fun other => other.goesBy name :=
      occursTwice_eq_of_alike items fun _ => rfl
    rw [found, found']
    cases material.effectiveName? with
    | none => rfl
    | some name => simp only [twice]

theorem dependencyProblems_congr (alike : left.Alike right) {upstream : Name} (stage : Name)
    (found : left.FindAlike right upstream) :
    dependencyProblems upstream stage left = dependencyProblems upstream stage right := by
  have place : (left.pipeline?.map fun pipeline => pipeline.name.text) =
      right.pipeline?.map fun pipeline => pipeline.name.text :=
    map_eq_of_alike alike.pipeline fun _ => rfl
  rw [dependencyProblems, dependencyProblems, place]
  rcases alike_cases found with ⟨absent, absent'⟩ | ⟨here, there, found, found', same⟩
  · rw [absent, absent']
  · have offered := congrArg (List.any · fun other => other.name.same stage)
      (alike.stagesOf same)
    simp only [List.any_map, Function.comp_def, Stage.clearErrors] at offered
    simp only [found, found', offered]

/-- A dependency is not polled from a repository. -/
theorem pollingProblems_of_dependsOn {material : Material} {upstream : Name}
    (waits : material.dependsOn upstream = true) (scope : Scope) :
    material.pollingProblems scope = [] := by
  obtain ⟨source, name, destination, autoUpdate, errors⟩ := material
  cases source <;>
    first | rfl | simp [dependsOn, upstream?, target?, Source.target?] at waits

/-- A material has the same problems in scopes that look alike, if its upstream name leads to the
same pipeline and the other uses of its repository agree with it alike. -/
theorem problems_congr (material : Material) (alike : left.Alike right)
    (found : ∀ upstream, material.upstream? = some upstream → left.FindAlike right upstream)
    (polling : material.pollingProblems left = material.pollingProblems right) :
    material.problems left = material.problems right := by
  have source : material.sourceProblems left = material.sourceProblems right := by
    obtain ⟨source, name, destination, autoUpdate, errors⟩ := material
    cases source with
    | dependency upstream stage => exact dependencyProblems_congr alike stage (found upstream rfl)
    | git | svn | hg | p4 | tfs | package | pluggableScm => rfl
  rw [problems, problems, material.sharedNameProblems_congr alike, source, polling]

end Material

/-! ## Stages and jobs -/

theorem Stage.siblings_congr (alike : left.Alike right) :
    (siblings left).map Stage.clearErrors = (siblings right).map Stage.clearErrors := by
  have enclosing : ((left.pipeline?.map Pipeline.stages).getD []).map Stage.clearErrors =
      ((right.pipeline?.map Pipeline.stages).getD []).map Stage.clearErrors := by
    rcases alike_cases alike.pipeline with ⟨absent, absent'⟩ | ⟨here, there, found, found', same⟩
    · rw [absent, absent']
    · rw [found, found']
      exact (congrArg Pipeline.stages same :)
  rw [siblings, siblings]
  rcases alike_cases alike.parent with ⟨absent, absent'⟩ | ⟨here, there, found, found', same⟩
  · rw [absent, absent']
    exact enclosing
  · rw [found, found']
    cases here <;> cases there <;> simp only [ScopeNode.clearErrors, reduceCtorEq,
      ScopeNode.template.injEq] at same <;> try exact enclosing
    exact (congrArg Template.stages same :)

theorem Stage.problems_congr (stage : Stage) (alike : left.Alike right) :
    stage.problems left = stage.problems right := by
  have twice : (occursTwice (siblings left) fun other => other.name.same stage.name) =
      occursTwice (siblings right) fun other => other.name.same stage.name :=
    occursTwice_eq_of_alike (siblings_congr alike) fun _ => rfl
  rw [problems, problems, twice]

theorem Stage.problems_clearErrors (stage : Stage) (scope : Scope) :
    stage.clearErrors.problems scope = stage.problems scope := by
  simp only [problems, clearErrors, List.isEmpty_map]

theorem Job.problems_congr (job : Job) (alike : left.Alike right) :
    job.problems left = job.problems right := by
  have twice :
      (left.stage?.any fun stage => occursTwice stage.jobs fun other =>
        other.name.same job.name) =
      right.stage?.any fun stage => occursTwice stage.jobs fun other =>
        other.name.same job.name :=
    any_eq_of_alike alike.stage fun stage =>
      occursTwice_map Job.clearErrors (fun _ => rfl) stage.jobs
  rw [problems, problems, twice]

theorem Job.problems_clearErrors (job : Job) (scope : Scope) :
    job.clearErrors.problems scope = job.problems scope := by
  simp only [problems, clearErrors, List.isEmpty_map]

theorem Job.review_congr (job : Job) (alike : left.Alike right)
    (found : ∀ name, left.FindAlike right name) :
    job.clearErrors.review left = job.review right := by
  have inside : (left.within (.job job.clearErrors)).Alike (right.within (.job job)) :=
    alike.within _ _ (by simp [ScopeNode.clearErrors, clearErrors, Task.clearErrors])
  have tasks (task : Task) : task.clearErrors.problems (left.within (.job job.clearErrors)) =
      task.problems (right.within (.job job)) :=
    task.problems_congr inside fun _ _ name _ => (found name).within _ _
  rw [review, review, problems_clearErrors, job.problems_congr alike]
  simp only [clearErrors, List.map_map, Function.comp_def] at tasks ⊢
  simp only [tasks]

/-- A stage gets the same report in scopes that look alike, whatever is recorded on its nodes. -/
theorem Stage.review_congr (stage : Stage) (alike : left.Alike right)
    (found : ∀ name, left.FindAlike right name) :
    stage.clearErrors.review left = stage.review right := by
  have inside : (left.within (.stage stage.clearErrors)).Alike (right.within (.stage stage)) :=
    alike.within _ _
      (by simp [ScopeNode.clearErrors, clearErrors, Job.clearErrors, Task.clearErrors])
  have jobs (job : Job) : job.clearErrors.review (left.within (.stage stage.clearErrors)) =
      job.review (right.within (.stage stage)) :=
    job.review_congr inside fun name => (found name).within _ _
  rw [review, review, problems_clearErrors, stage.problems_congr alike]
  simp only [clearErrors, List.map_map, Function.comp_def] at jobs ⊢
  simp only [jobs]

/-! ## Parameters and variables -/

theorem Parameter.problems_congr (parameter : Parameter) (alike : left.Alike right) :
    parameter.problems left = parameter.problems right := by
  have twice :
      (left.pipeline?.any fun pipeline => occursTwice pipeline.params fun other =>
        (Name.mk other.name).same ⟨parameter.name⟩) =
      right.pipeline?.any fun pipeline => occursTwice pipeline.params fun other =>
        (Name.mk other.name).same ⟨parameter.name⟩ :=
    any_eq_of_alike alike.pipeline fun pipeline =>
      occursTwice_map Parameter.clearErrors (fun _ => rfl) pipeline.params
  rw [problems, problems, twice]

theorem Variable.problems_congr (binding : Variable) (alike : left.Alike right) :
    binding.problems left = binding.problems right := by
  rw [problems, problems]
  rcases alike_cases alike.pipeline with ⟨absent, absent'⟩ | ⟨here, there, found, found', same⟩
  · rw [absent, absent']
  · have name : here.name = there.name := Pipeline.name_eq_of_alike same
    have bindings : here.environmentVariables.map Variable.clearErrors =
        there.environmentVariables.map Variable.clearErrors :=
      (congrArg Pipeline.environmentVariables same :)
    have twice : (occursTwice here.environmentVariables fun other => other.name == binding.name) =
        occursTwice there.environmentVariables fun other => other.name == binding.name :=
      occursTwice_eq_of_alike bindings fun _ => rfl
    simp only [found, found', name, twice]

end PipelineConfig
