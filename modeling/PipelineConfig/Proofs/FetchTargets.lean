import PipelineConfig.Proofs.Breakage

/-!
# What fetch tasks are after

A fetch task is after a stage of its own pipeline or, along its path, of a pipeline upstream. Of
stages with one name the first counts. A task with nothing else wrong about it is accepted just when
it finds this stage with the wanted job in it, in its own pipeline before the stage that the task is
in. In a valid pipeline, every fetch task is therefore after something that is over before it runs.
-/

namespace PipelineConfig

/-! ## Stages by position -/

section Positions

variable {stages : List Stage} {name : Name} {stage : Stage} {position : Nat}

theorem stagePosition?_congr (stages : List Stage) {left right : Name}
    (same : left.same right = true) : stagePosition? stages left = stagePosition? stages right := by
  simp only [stagePosition?, fun name => Name.same_congr_right name same]

theorem findStage?_eq_bind (stages : List Stage) (name : Name) :
    findStage? stages name = (stagePosition? stages name).bind (stages[·]?) :=
  List.find?_eq_bind_findIdx?_getElem?

theorem findStage?_eq_some_iff :
    findStage? stages name = some stage ↔
      ∃ position, stagePosition? stages name = some position ∧
        stages[position]? = some stage := by
  rw [findStage?_eq_bind, Option.bind_eq_some_iff]

theorem findStage?_eq_none_iff :
    findStage? stages name = none ↔ stagePosition? stages name = none := by
  rw [findStage?, stagePosition?, List.find?_eq_none, List.findIdx?_eq_none_iff]
  simp

theorem same_of_findStage? (found : findStage? stages name = some stage) :
    stage.name.same name = true := by
  rw [findStage?] at found
  simpa using List.find?_some found

/-- A stage that shares its name with no other is the first of its name. -/
theorem stagePosition?_of_single
    (single : occursTwice stages (fun other => other.name.same name) = false)
    (placed : stages[position]? = some stage) (named : stage.name.same name = true) :
    stagePosition? stages name = some position := by
  obtain ⟨bound, rfl⟩ := List.getElem?_eq_some_iff.1 placed
  refine List.findIdx?_eq_some_iff_getElem.2 ⟨bound, named, fun other before same => ?_⟩
  have twice : occursTwice stages (fun other => other.name.same name) = true :=
    (occursTwice_iff placed named).2 ⟨other, _, Nat.ne_of_lt before,
      List.getElem?_eq_getElem (Nat.lt_trans before bound), same⟩
  exact Bool.false_ne_true (single.symm.trans twice)

end Positions

/-- Seen from a scope, a pipeline has a dependency material on another. -/
def Scope.Awaits (scope : Scope) (name upstream : Name) : Prop :=
  ∃ pipeline, scope.lookup? name = some pipeline ∧
    ∃ material ∈ pipeline.materials.items, material.dependsOn upstream = true

namespace FetchTask

/-- Nothing is wrong with a task but, perhaps, with what it is after. -/
structure WellFormed (fetch : FetchTask) : Prop where
  /-- It names a stage. -/
  stage : fetch.stage.isBlank = false
  /-- It names a job. -/
  job : fetch.job.isBlank = false
  /-- It names what it fetches. -/
  source : Text.isBlank fetch.source = false
  /-- It puts that into the folder of its job. -/
  inside : ∀ destination ∈ fetch.destination, Sandbox.isInside destination = true

/-- The path is empty, or it is the pipeline alone. -/
def StaysIn (fetch : FetchTask) (current : Pipeline) : Prop :=
  fetch.path = [] ∨ ∃ segment, fetch.path = [segment] ∧ segment.same current.name = true

/-- The first stage of the wanted name in the pipeline itself has the wanted job, and it stands
before the first one with the name of the enclosing stage, if there is any. -/
def FindsEarlier (fetch : FetchTask) (scope : Scope) (current : Pipeline) : Prop :=
  ∃ position stage, stagePosition? current.stages fetch.stage = some position ∧
    current.stages[position]? = some stage ∧ stage.hasJob fetch.job = true ∧
      ∀ enclosing ∈ scope.stage?, ∀ here ∈ stagePosition? current.stages enclosing.name,
        position < here

/-- What a task is after: a stage, and the pipeline that runs it. -/
inductive Targets (fetch : FetchTask) (scope : Scope) (current : Pipeline) :
    Pipeline → Stage → Prop
  /-- A stage of the pipeline itself. -/
  | own {stage : Stage} (stays : fetch.StaysIn current)
      (found : findStage? (scope.stagesOf current) fetch.stage = some stage) :
      Targets fetch scope current current stage
  /-- A stage of the pipeline that the path leads to. -/
  | upstream {target : Pipeline} {stage : Stage} (leaves : ¬fetch.StaysIn current)
      (walk : Follows scope current fetch.path.reverse target)
      (found : findStage? (scope.stagesOf target) fetch.stage = some stage) :
      Targets fetch scope current target stage

variable {fetch : FetchTask} {scope : Scope} {current previous target : Pipeline}

theorem isLocal_iff : fetch.isLocal current = true ↔ fetch.StaysIn current := by
  rw [isLocal, StaysIn]
  cases path : fetch.path with
  | nil => simp
  | cons segment rest => cases rest <;> simp

theorem WellFormed.formProblems_eq (wellFormed : fetch.WellFormed) (scope : Scope) :
    fetch.formProblems scope = [] := by
  obtain ⟨stage, job, source, inside⟩ := wellFormed
  rw [formProblems, stage, job, source]
  cases destination : fetch.destination with
  | none => rfl
  | some folder => simp [Problem.when, inside folder destination]

/-! ## In the pipeline itself -/

theorem stagesOf_of_selfStaged (scope : Scope) (staged : current.template = none) :
    scope.stagesOf current = current.stages := by
  rw [Scope.stagesOf, Catalog.stagesOf, staged]

theorem length_targetProblems_le (fetch : FetchTask) (stages : List Stage)
    (current target : Pipeline) : (fetch.targetProblems stages current target).length ≤ 1 := by
  rw [targetProblems]
  cases findStage? stages fetch.stage with
  | none => exact Nat.le_refl 1
  | some stage => cases has : stage.hasJob fetch.job <;> simp [Problem.when, has]

/-- Either the wanted stage comes too late, and nothing else is told, or it does not, and it is
looked for. -/
theorem localProblems_cases (fetch : FetchTask) (scope : Scope)
    (staged : current.template = none) :
    (∃ problem, fetch.localProblems scope current = [problem] ∧
      ∃ enclosing ∈ scope.stage?, ∃ here ∈ stagePosition? current.stages enclosing.name,
        ∃ wanted ∈ stagePosition? current.stages fetch.stage, here ≤ wanted) ∨
    (fetch.localProblems scope current = fetch.targetProblems current.stages current current ∧
      ∀ enclosing ∈ scope.stage?, ∀ here ∈ stagePosition? current.stages enclosing.name,
        ∀ wanted ∈ stagePosition? current.stages fetch.stage, wanted < here) := by
  rw [localProblems, stagesOf_of_selfStaged scope staged]
  cases around : scope.stage? with
  | none => exact .inr ⟨rfl, by simp⟩
  | some enclosing =>
    cases found : findStage? current.stages enclosing.name with
    | none =>
      have absent := findStage?_eq_none_iff.1 found
      exact .inr ⟨by simp [found], by simp [absent]⟩
    | some stage =>
      obtain ⟨here, at_here, _⟩ := findStage?_eq_some_iff.1 found
      have at_stage :=
        (stagePosition?_congr current.stages (same_of_findStage? found)).trans at_here
      cases at_wanted : stagePosition? current.stages fetch.stage with
      | none => exact .inr ⟨by simp [found, at_stage], by simp⟩
      | some wanted =>
        rcases Nat.lt_or_ge wanted here with before | late
        · refine .inr ⟨?_, by simpa [at_here] using before⟩
          simp [found, at_stage, Nat.not_le.2 before]
        · refine .inl ⟨.fetchTooEarly current.name stage.name fetch.stage, ?_, enclosing, rfl, here,
            at_here, wanted, rfl, late⟩
          simp [found, at_stage, late]

theorem length_localProblems_le (staged : current.template = none) :
    (fetch.localProblems scope current).length ≤ 1 := by
  rcases fetch.localProblems_cases scope staged with ⟨problem, told, _⟩ | ⟨told, _⟩
  · rw [told]
    exact Nat.le_refl 1
  · rw [told]
    exact fetch.length_targetProblems_le current.stages current current

/-- A target is told one thing at most. -/
theorem length_resolutionProblems_le (staged : current.template = none) :
    (fetch.resolutionProblems scope current).length ≤ 1 := by
  cases near : fetch.isLocal current with
  | true =>
    rw [resolutionProblems, near, if_pos rfl]
    exact length_localProblems_le staged
  | false =>
    have told : fetch.resolutionProblems scope current = [] ∨
        ∃ problem, fetch.resolutionProblems scope current = [problem] ∧
          fetch.Misses scope current problem := resolutionProblems_cases near
    rcases told with resolved | ⟨problem, told, _⟩
    · simp [resolved]
    · simp [told]

theorem localProblems_eq_nil_iff (staged : current.template = none) :
    fetch.localProblems scope current = [] ↔ fetch.FindsEarlier scope current := by
  rcases fetch.localProblems_cases scope staged with
    ⟨problem, told, enclosing, around, here, at_here, wanted, at_wanted, late⟩ | ⟨told, early⟩
  · refine iff_of_false (by simp [told]) ?_
    rintro ⟨position, stage, at_position, _, _, before⟩
    obtain rfl := Option.some.inj (at_wanted.symm.trans at_position)
    have := before enclosing around here at_here
    omega
  · rw [told, targetProblems_eq_nil_iff]
    constructor
    · rintro ⟨stage, found, has⟩
      obtain ⟨position, at_position, placed⟩ := findStage?_eq_some_iff.1 found
      exact ⟨position, stage, at_position, placed, has, fun enclosing around here at_here =>
        early enclosing around here at_here position at_position⟩
    · rintro ⟨position, stage, at_position, placed, has, _⟩
      exact ⟨stage, findStage?_eq_some_iff.2 ⟨position, at_position, placed⟩, has⟩

/-! ## Acceptance -/

/-- A well-formed task in a pipeline with stages of its own is told one thing at most, and nothing
just when it finds what it is after. -/
theorem WellFormed.problems_told (wellFormed : fetch.WellFormed)
    (own : scope.pipeline? = some current) (staged : current.template = none)
    (outside : scope.template? = none) :
    (fetch.problems scope).length ≤ 1 ∧
      (fetch.problems scope = [] ↔
        fetch.StaysIn current ∧ fetch.FindsEarlier scope current ∨
          ¬fetch.StaysIn current ∧ fetch.Resolves scope current) := by
  rw [problems_eq_resolutionProblems (wellFormed.formProblems_eq scope) own staged outside,
    ← isLocal_iff]
  refine ⟨length_resolutionProblems_le staged, ?_⟩
  cases near : fetch.isLocal current with
  | true =>
    rw [resolutionProblems, near, if_pos rfl]
    simp [localProblems_eq_nil_iff staged]
  | false => simp [resolutionProblems_eq_nil_iff near]

theorem wellFormed_of_problems (clean : fetch.problems scope = []) : fetch.WellFormed := by
  rw [problems, List.append_eq_nil_iff] at clean
  have form := clean.1
  simp only [formProblems, List.append_eq_nil_iff, Problem.when_eq_nil] at form
  obtain ⟨⟨⟨stage, job⟩, source⟩, destination⟩ := form
  refine ⟨stage, job, source, fun folder named => ?_⟩
  rw [Option.mem_def.1 named] at destination
  simpa [Problem.when_eq_nil] using destination

/-! ## What accepted tasks are after -/

/-- A task that finds what it is after in its own pipeline is after nothing else. -/
theorem FindsEarlier.targets (finds : fetch.FindsEarlier scope current)
    (stays : fetch.StaysIn current) (staged : current.template = none) :
    (∃ target wanted, fetch.Targets scope current target wanted) ∧
      ∀ target wanted, fetch.Targets scope current target wanted →
        wanted.hasJob fetch.job = true ∧ target = current ∧
          ∃ position, current.stages[position]? = some wanted ∧
            ∀ enclosing ∈ scope.stage?, ∀ here ∈ stagePosition? current.stages enclosing.name,
              position < here := by
  obtain ⟨position, stage, at_position, placed, has, before⟩ := finds
  have found := findStage?_eq_some_iff.2 ⟨position, at_position, placed⟩
  rw [← stagesOf_of_selfStaged scope staged] at found
  refine ⟨⟨current, stage, .own stays found⟩, ?_⟩
  rintro target wanted (⟨_, also_found⟩ | ⟨leaves, _, _⟩)
  · obtain rfl := Option.some.inj (found.symm.trans also_found)
    exact ⟨has, rfl, position, placed, before⟩
  · exact absurd stays leaves

/-- A task that finds what it is after along its path is after nothing else. -/
theorem Resolves.targets (resolves : fetch.Resolves scope current)
    (leaves : ¬fetch.StaysIn current) :
    (∃ target wanted, fetch.Targets scope current target wanted) ∧
      ∀ target wanted, fetch.Targets scope current target wanted →
        wanted.hasJob fetch.job = true ∧
          Follows scope current fetch.path.reverse target := by
  obtain ⟨reached, stage, walk, found, has⟩ := resolves
  refine ⟨⟨reached, stage, .upstream leaves walk found⟩, ?_⟩
  rintro target wanted (⟨stays, _⟩ | ⟨_, also_walk, also_found⟩)
  · exact absurd stays leaves
  · have ends : follow scope current current fetch.path.reverse = .ok target :=
      follow_eq_ok_iff.2 also_walk
    rw [follow_eq_ok_iff.2 walk, Except.ok.injEq] at ends
    obtain rfl := ends
    obtain rfl := Option.some.inj (found.symm.trans also_found)
    exact ⟨has, walk⟩

/-- A path leads to the last pipeline that it names. -/
theorem Follows.same_last {catalog : Catalog} (consistent : catalog.Consistent)
    (sees : ∀ name, scope.lookup? name = catalog.pipeline? name) {path : List Name}
    (walk : Follows scope previous path target) (named : path ≠ []) :
    ∃ name ∈ path, name.same target.name = true := by
  induction walk with
  | arrived => exact absurd rfl named
  | @step previous next target segment rest _ next_found onward ih =>
    by_cases last : rest = []
    · subst last
      cases onward
      rw [sees] at next_found
      exact ⟨segment, List.mem_cons_self, Name.same_symm (consistent.named next_found)⟩
    · obtain ⟨name, member, same⟩ := ih last
      exact ⟨name, List.mem_cons_of_mem _ member, same⟩

end FetchTask

/-! ## In a valid pipeline -/

/-- No two stages of a pipeline in order have one name. -/
theorem Pipeline.Stands.stagePosition?_eq [Pattern.Engine] {pipeline : Pipeline} {catalog : Catalog}
    (stands : pipeline.Stands catalog) {position : Nat} {stage : Stage}
    (placed : pipeline.stages[position]? = some stage) :
    stagePosition? pipeline.stages stage.name = some position := by
  have told := (stands.stages stage (List.mem_of_getElem? placed)).own
  simp only [Stage.problems, List.append_eq_nil_iff, Problem.when_eq_nil] at told
  exact stagePosition?_of_single told.1.2 placed (Name.same_self _)

namespace Catalog

variable {catalog : Catalog} {pipeline : Pipeline} {scope : Scope}

/-- Seen from an edit, pipelines wait for each other as they will once the edit is made. -/
theorem Consistent.awaits_iff_leads (consistent : catalog.Consistent)
    (sees : ∀ name, scope.lookup? name = catalog.pipeline? name) {name upstream : Name} :
    Relation.TransGen scope.Awaits name upstream ↔ catalog.Leads upstream name := by
  have edges : scope.Awaits = catalog.dependencyView.Waits := by
    funext name upstream
    rw [consistent.waits_iff, Scope.Awaits, sees]
  rw [consistent.leads_iff, edges]

/-- An edit whose dependencies can be followed is not upstream of itself. -/
theorem Consistent.not_leads_insert (consistent : catalog.Consistent)
    (clean : pipeline.dependencyProblems (.ofEdit catalog pipeline) = []) (group : String) :
    ¬(catalog.insert pipeline group).Leads pipeline.name pipeline.name := by
  rw [Pipeline.dependencyProblems,
    pipeline.findCycle_proposedView catalog group rfl (.inr rfl) pipeline.name] at clean
  rw [(consistent.insert pipeline group).leads_iff]
  cases searched : (catalog.insert pipeline group).dependencyView.findCycle pipeline.name with
  | error failure => simp [searched] at clean
  | ok =>
    exact ((DependencyView.findCycle_eq_ok_iff (regular_dependencyView _)).1 searched).not_loop

/-- Along its path, an edit in order fetches from other pipelines only, and these are upstream. -/
theorem Consistent.upstream_of_follows (consistent : catalog.Consistent)
    (clean : pipeline.dependencyProblems (.ofEdit catalog pipeline) = [])
    (sees : ∀ name, scope.lookup? name = (Scope.ofEdit catalog pipeline).lookup? name)
    {path : List Name} {target : Pipeline}
    (walk : FetchTask.Follows scope pipeline path target) (named : path ≠ []) :
    Relation.TransGen scope.Awaits pipeline.name target.name ∧
      target.name.same pipeline.name = false := by
  have now := consistent.insert pipeline ""
  have sees (name : Name) : scope.lookup? name = (catalog.insert pipeline "").pipeline? name := by
    rw [sees, Scope.lookup?_ofEdit, pipeline?_insert]
  obtain ⟨last, member, same⟩ := walk.same_last now sees named
  have found := found_insert_self catalog pipeline ""
  have leads := (now.leads_of_follows sees found walk last member).congr_left same
  refine ⟨(now.awaits_iff_leads sees).2 leads, ?_⟩
  rw [Bool.eq_false_iff]
  exact fun own => consistent.not_leads_insert clean "" (leads.congr_left own)

end Catalog

/-- A fetch task with nothing else wrong about it is told one thing at most, in a pipeline with
stages of its own. It is told nothing just when it finds what it is after: in the pipeline itself if
its path stays there, else along the path. So every fetch task of a valid pipeline is after the
wanted job in an earlier stage of the pipeline or in a stage of another one upstream. -/
theorem FetchTask.acceptance_told [Pattern.Engine] {task : Task} {fetch : FetchTask}
    (retrieves : task.fetch? = some fetch) :
    (∀ (scope : Scope) (current : Pipeline), fetch.WellFormed →
      scope.pipeline? = some current → current.template = none → scope.template? = none →
        (FieldErrors.ofProblems (task.problems scope)).count ≤ 1 ∧
        ((FieldErrors.ofProblems (task.problems scope)).isEmpty = true ↔
          fetch.StaysIn current ∧ fetch.FindsEarlier scope current ∨
            ¬fetch.StaysIn current ∧ fetch.Resolves scope current)) ∧
    ∀ (catalog : Catalog) (pipeline : Pipeline), catalog.Reachable →
      (pipeline.validate catalog).1 = true →
        ∀ (position : Nat) (stage : Stage) (job : Job),
          pipeline.stages[position]? = some stage → job ∈ stage.jobs → task ∈ job.tasks →
            let scope := ((Scope.inside catalog pipeline).within (.stage stage)).within (.job job)
            (∃ target wanted, fetch.Targets scope pipeline target wanted) ∧
            ∀ target wanted, fetch.Targets scope pipeline target wanted →
              wanted.hasJob fetch.job = true ∧
              (target = pipeline ∧
                  (∃ earlier < position, pipeline.stages[earlier]? = some wanted) ∨
                Relation.TransGen scope.Awaits pipeline.name target.name ∧
                  target.name.same pipeline.name = false) := by
  refine ⟨fun scope current wellFormed own staged outside => ?accepted,
    fun catalog pipeline reachable valid position stage job placed in_jobs in_tasks => ?valid⟩
  case accepted =>
    rw [FieldErrors.isEmpty_ofProblems, FieldErrors.ofProblems, FieldErrors.count_addProblems,
      FieldErrors.count_none, Nat.zero_add, Task.problems_of_fetch? retrieves]
    exact wellFormed.problems_told own staged outside
  case valid =>
    intro scope
    have stands := (Pipeline.validate_fst_iff.1 valid).1
    have in_stages := List.mem_of_getElem? placed
    have staged := stands.selfStaged (List.ne_nil_of_mem in_stages)
    have clean : fetch.problems scope = [] := by
      rw [← Task.problems_of_fetch? retrieves]
      exact (stands.stages stage in_stages).tasks job in_jobs task in_tasks
    have accepted := ((wellFormed_of_problems clean).problems_told rfl staged rfl).2.1 clean
    rcases accepted with ⟨stays, finds⟩ | ⟨leaves, resolves⟩
    · obtain ⟨found, told⟩ := finds.targets stays staged
      refine ⟨found, fun target wanted targets => ?_⟩
      obtain ⟨has, own, earlier, wanted_placed, before⟩ := told target wanted targets
      have sooner := before stage rfl position (stands.stagePosition?_eq placed)
      exact ⟨has, .inl ⟨own, earlier, sooner, wanted_placed⟩⟩
    · obtain ⟨found, told⟩ := resolves.targets leaves
      refine ⟨found, fun target wanted targets => ?_⟩
      obtain ⟨has, walk⟩ := told target wanted targets
      have named : fetch.path.reverse ≠ [] :=
        fun empty => leaves (.inl (List.reverse_eq_nil_iff.1 empty))
      have sees (name : Name) :
          scope.lookup? name = (Scope.ofEdit catalog pipeline).lookup? name := rfl
      exact ⟨has, .inr
        (reachable.consistent.upstream_of_follows stands.dependencies sees walk named)⟩

/-- A task that fetches what a job has published in a stage. -/
def retrieval (path : Option String) (stage : String) : FetchTask :=
  { pipeline := path, stage := ⟨stage⟩, job := ⟨"all"⟩, source := "out" }

theorem wellFormed_retrieval (path : Option String) (stage : String)
    (named : Name.isBlank ⟨stage⟩ = false) : (retrieval path stage).WellFormed :=
  have all : Name.isBlank ⟨"all"⟩ = false := by decide
  have out : Text.isBlank "out" = false := by decide +kernel
  ⟨named, all, out, by simp [retrieval]⟩

/-- A stage with one job, and one task in it. -/
def singleTask (stage : String) (kind : TaskKind) : Stage :=
  ⟨⟨stage⟩, [⟨⟨"all"⟩, [⟨kind, .none⟩], .none⟩], .none⟩

/-- A pipeline that fetches what its first stage has published. -/
def packaging : Pipeline :=
  { name := ⟨"build"⟩
    stages := [singleTask "compile" (.exec "make" [] none),
      singleTask "package" (.fetch (retrieval none "Compile"))] }

theorem acceptance_packaging :
    let fetch := retrieval none "Compile"
    let job : Job := ⟨⟨"all"⟩, [⟨.fetch fetch, .none⟩], .none⟩
    let scope := ((Scope.inside {} packaging).within
      (.stage (singleTask "package" (.fetch fetch)))).within (.job job)
    fetch.FindsEarlier scope packaging ∧
      ∃ target wanted, fetch.Targets scope packaging target wanted ∧
        wanted.hasJob ⟨"all"⟩ = true ∧ target.name.same packaging.name = true := by
  intro fetch job scope
  have retrieves : (⟨.fetch fetch, .none⟩ : Task).fetch? = some fetch := rfl
  obtain ⟨accepted, after⟩ := FetchTask.acceptance_told retrieves
  have passes : packaging.Passes {} := by decide +kernel
  have valid : (packaging.validate {}).1 = true := by
    rw [packaging.validate_fst, passes.isClean_review (by decide +kernel) (by decide +kernel)]
  have stays : fetch.StaysIn packaging := .inl (by decide +kernel)
  have silent : (FieldErrors.ofProblems ((⟨.fetch fetch, .none⟩ : Task).problems scope)).isEmpty =
      true := by decide +kernel
  have wellFormed := wellFormed_retrieval none "Compile" (by decide)
  constructor
  · have found := (accepted scope packaging wellFormed rfl rfl rfl).2.1 silent
    rcases found with ⟨_, finds⟩ | ⟨leaves, _⟩
    · exact finds
    · exact absurd stays leaves
  · obtain ⟨⟨target, wanted, targets⟩, told⟩ := after {} packaging ⟨none, [], rfl⟩ valid 1 _ job rfl
      List.mem_cons_self List.mem_cons_self
    refine ⟨target, wanted, targets, (told target wanted targets).1, ?_⟩
    cases targets with
    | own => exact Name.same_self _
    | upstream leaves => exact absurd stays leaves

/-- A pipeline that waits for itself, and whose first stage fetches what its second publishes. -/
def anticipating : Pipeline :=
  { name := ⟨"build"⟩
    materials.items := [⟨.dependency ⟨"build"⟩ ⟨"late"⟩, none, none, true, .none⟩]
    stages := [singleTask "early" (.fetch (retrieval (some "build") "late")),
      singleTask "late" (.exec "make" [] none)] }

/-- On a path that is the pipeline alone, nothing but the pipeline's own earlier stages is looked
at, even if the pipeline waits for itself and the path could be followed. -/
theorem refused_anticipating :
    let fetch := retrieval (some "build") "late"
    let task : Task := ⟨.fetch fetch, .none⟩
    let scope := ((Scope.ofEdit {} anticipating).within
      (.stage (singleTask "early" (.fetch fetch)))).within (.job ⟨⟨"all"⟩, [task], .none⟩)
    fetch.WellFormed ∧ scope.pipeline? = some anticipating ∧ anticipating.template = none ∧
      scope.template? = none ∧
      task.problems scope = [.fetchTooEarly ⟨"build"⟩ ⟨"early"⟩ ⟨"late"⟩] ∧
      ¬((FieldErrors.ofProblems (task.problems scope)).isEmpty = true ↔
        fetch.StaysIn anticipating ∧ fetch.FindsEarlier scope anticipating ∨
          fetch.Resolves scope anticipating) := by
  intro fetch task scope
  have told : task.problems scope = [.fetchTooEarly ⟨"build"⟩ ⟨"early"⟩ ⟨"late"⟩] := by
    decide +kernel
  have path : fetch.path.reverse = [⟨"build"⟩] := by decide +kernel
  have walk : FetchTask.Follows scope anticipating fetch.path.reverse anticipating := by
    rw [path]
    exact .step (by decide +kernel) (by decide +kernel) .arrived
  have resolves : fetch.Resolves scope anticipating :=
    ⟨anticipating, singleTask "late" (.exec "make" [] none), walk, by decide +kernel, by decide⟩
  refine ⟨wellFormed_retrieval _ _ (by decide), rfl, rfl, rfl, told, fun exactly => ?_⟩
  have silent := exactly.2 (.inr resolves)
  rw [FieldErrors.isEmpty_ofProblems, told] at silent
  simp at silent

end PipelineConfig
