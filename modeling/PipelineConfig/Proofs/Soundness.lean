import PipelineConfig.Proofs.Elsewhere
import PipelineConfig.Proofs.Identity

/-!
# What a clean edit leaves in order

A catalog is sound when every committed pipeline passes its own review. A clean edit was reviewed
together with what it can break: dependency materials and fetch tasks further downstream, and
repositories that others poll. Whatever else a committed pipeline is checked for is not touched by
the edit, so a sound catalog stays sound.
-/

namespace PipelineConfig

/-- Different byte sequences of a list have different digests. -/
def Blake3.CollisionFree (inputs : List (List UInt8)) : Prop :=
  ∀ left ∈ inputs, ∀ right ∈ inputs, hex left = hex right → left = right

theorem Blake3.CollisionFree.mono {inputs others : List (List UInt8)}
    (free : CollisionFree others) (part : ∀ bytes ∈ inputs, bytes ∈ others) :
    CollisionFree inputs :=
  fun left left_in right right_in equal =>
    free left (part left left_in) right (part right right_in) equal

/-- What is digested for the materials of a pipeline. -/
def Pipeline.identities (pipeline : Pipeline) : List (List UInt8) :=
  pipeline.materials.items.map Material.identityBytes

namespace Catalog

/-- Every committed pipeline passes its own review. -/
def Sound [Pattern.Engine] (catalog : Catalog) : Prop :=
  ∀ entry ∈ catalog.entries.values, (entry.pipeline.validate catalog).1 = true

/-- What is digested for the materials of the committed pipelines. -/
def identities (catalog : Catalog) : List (List UInt8) :=
  catalog.entries.values.flatMap fun entry => entry.pipeline.identities

/-! ## Checks made from another pipeline -/

/-- The scope in which an edit checks the nodes of another pipeline again. -/
def recheck (catalog : Catalog) (edited downstream : Pipeline) : Scope :=
  (Scope.ofEdit catalog edited).outermost.within (.pipeline downstream)

variable {catalog : Catalog}

theorem alike_recheck (catalog : Catalog) (edited downstream : Pipeline) :
    (catalog.recheck edited downstream).Alike (.inside catalog downstream) :=
  ⟨rfl, rfl, rfl, rfl, rfl, rfl⟩

theorem findAlike_recheck {edited downstream : Pipeline}
    (edited_found : catalog.pipeline? edited.name = some edited)
    (downstream_found : catalog.pipeline? downstream.name = some downstream) (name : Name) :
    (catalog.recheck edited downstream).FindAlike (.inside catalog downstream) name := by
  have edited_view : (catalog.recheck edited downstream).lookup? name = catalog.pipeline? name :=
    lookup?_of_committed edited_found name
  have downstream_view : (Scope.inside catalog downstream).lookup? name = catalog.pipeline? name :=
    lookup?_of_committed downstream_found name
  rw [Scope.FindAlike, edited_view, downstream_view]

/-- A dependency material is told the same by its own pipeline and by a committed upstream one. -/
theorem problems_recheck_material {edited downstream : Pipeline}
    (edited_found : catalog.pipeline? edited.name = some edited)
    (downstream_found : catalog.pipeline? downstream.name = some downstream)
    {material : Material} {upstream : Name} (waits : material.dependsOn upstream = true) :
    material.problems (catalog.recheck edited downstream) =
      material.problems (.inside catalog downstream) := by
  have polling := Material.pollingProblems_of_dependsOn waits
  exact material.problems_congr (catalog.alike_recheck edited downstream)
    (fun name _ => findAlike_recheck edited_found downstream_found name) (by rw [polling, polling])

theorem problems_recheck_task {edited downstream : Pipeline}
    (edited_found : catalog.pipeline? edited.name = some edited)
    (downstream_found : catalog.pipeline? downstream.name = some downstream)
    (stage : Stage) (job : Job) (task : Task) :
    task.problems (((catalog.recheck edited downstream).within (.stage stage)).within (.job job)) =
      task.problems (((Scope.inside catalog downstream).within (.stage stage)).within
        (.job job)) := by
  have alike := ((catalog.alike_recheck edited downstream).within (.stage stage) (.stage stage)
    rfl).within (.job job) (.job job) rfl
  exact task.problems_congr alike
    fun _ _ name _ => findAlike_recheck edited_found downstream_found name

theorem found_of_mem_committed (consistent : catalog.Consistent) {names : List Name}
    {pipeline : Pipeline} (member : pipeline ∈ Review.committed catalog names) :
    catalog.pipeline? pipeline.name = some pipeline := by
  obtain ⟨name, _, found⟩ := Review.mem_committed.1 member
  exact consistent.found_self found

/-- A catalog is sound just when all committed pipelines stand: then none has a reason to complain
of another. -/
theorem sound_iff [Pattern.Engine] (consistent : catalog.Consistent) :
    catalog.Sound ↔ ∀ pipeline, catalog.pipeline? pipeline.name = some pipeline →
      pipeline.Stands catalog := by
  constructor
  · intro sound pipeline found
    obtain ⟨group, found⟩ := pipeline?_eq_some_iff.1 found
    have valid := sound _ (Table.mem_values_iff.2 ⟨pipeline.name, found⟩)
    exact (Pipeline.validate_fst_iff.1 valid).1
  · intro stand entry member
    obtain ⟨name, found⟩ := Table.mem_values_iff.1 member
    have own : catalog.pipeline? entry.pipeline.name = some entry.pipeline :=
      consistent.found_self (pipeline?_eq_some_iff.2 ⟨entry.group, found⟩)
    refine Pipeline.validate_fst_iff.2 ⟨stand _ own, ?_, ?_⟩
    · refine List.flatMap_eq_nil_iff.2 fun downstream member => ?_
      have there := found_of_mem_committed consistent member
      refine Review.brokenReferences_eq_nil.2 fun material listed waits => ?_
      exact (problems_recheck_material own there waits).trans
        ((stand downstream there).materials material listed)
    · refine List.flatMap_eq_nil_iff.2 fun downstream member => ?_
      have there := found_of_mem_committed consistent member
      refine Review.brokenFetches_eq_nil.2 fun stage in_stages job in_jobs task in_tasks _ => ?_
      exact (problems_recheck_task own there stage job task).trans
        (((stand downstream there).stages stage in_stages).tasks job in_jobs task in_tasks)

/-- In a sound catalog all dependencies settle; a name that is not committed has none. -/
theorem Sound.settles [Pattern.Engine] (sound : catalog.Sound) (consistent : catalog.Consistent)
    (name : Name) : catalog.dependencyView.Settles name := by
  cases found : catalog.pipeline? name with
  | none =>
    have idle {upstream : Name} : ¬catalog.dependencyView.Waits name upstream := by
      intro waits
      obtain ⟨pipeline, committed, _⟩ := consistent.waits_iff.1 waits
      simp [found] at committed
    exact ⟨fun upstream waits => absurd waits idle, fun upstream waits => absurd waits idle⟩
  | some pipeline =>
    have committed := consistent.found_self found
    have stands := (sound_iff consistent).1 sound pipeline committed
    have settles := (consistent.dependencyProblems_eq_nil_iff committed).1 stands.dependencies
    exact settles.congr catalog.regular_dependencyView (consistent.named found)

/-! ## What a clean review has checked again -/

theorem mem_committed_of_found {pipeline : Pipeline}
    (found : catalog.pipeline? pipeline.name = some pipeline) {names : List Name} {spelled : Name}
    (listed : spelled ∈ names) (same : spelled.same pipeline.name = true) :
    pipeline ∈ Review.committed catalog names :=
  Review.mem_committed.2 ⟨spelled, listed, by rw [pipeline?_congr _ same, found]⟩

/-- A committed edit was told of every dependency material of another pipeline that names it. -/
theorem Consistent.rechecked_material (consistent : catalog.Consistent)
    {edited downstream : Pipeline}
    (silent : Review.downstreamDependencyProblems edited (.ofEdit catalog edited) = [])
    (found : catalog.pipeline? downstream.name = some downstream)
    (apart : edited.name.same downstream.name = false) {material : Material}
    (member : material ∈ downstream.materials.items)
    (waits : material.dependsOn edited.name = true) :
    material.problems (catalog.recheck edited downstream) = [] := by
  have feeds : catalog.Feeds edited.name downstream.name :=
    consistent.feeds_iff.2 (consistent.waits_iff.2 ⟨downstream, found, material, member, waits⟩)
  obtain ⟨spelled, listed, same⟩ := NameSet.has_iff.1 feeds
  have other : (!spelled.same edited.name) = true := by
    rw [Name.same_congr_left _ same, Name.same_comm, apart]
    rfl
  have told := List.flatMap_eq_nil_iff.1 silent downstream
    (mem_committed_of_found found (List.mem_filter.2 ⟨listed, other⟩) same)
  exact Review.brokenReferences_eq_nil.1 told material member waits

/-- An edit was told of every fetch task downstream that fetches through it. -/
theorem rechecked_task {edited downstream : Pipeline}
    (silent : Review.downstreamFetchProblems edited (.ofEdit catalog edited) = [])
    (found : catalog.pipeline? downstream.name = some downstream)
    (reached : (catalog.transitiveDownstreamsOf edited.name).has downstream.name = true)
    {stage : Stage} (in_stages : stage ∈ downstream.stages) {job : Job} (in_jobs : job ∈ stage.jobs)
    {task : Task} (in_tasks : task ∈ job.tasks)
    (through : Review.fetchesThrough edited.name task = true) :
    task.problems (((catalog.recheck edited downstream).within (.stage stage)).within
      (.job job)) = [] := by
  obtain ⟨spelled, listed, same⟩ := NameSet.has_iff.1 reached
  have told := List.flatMap_eq_nil_iff.1 silent downstream
    (mem_committed_of_found found listed same)
  exact Review.brokenFetches_eq_nil.1 told stage in_stages job in_jobs task in_tasks through

/-! ## What an insertion leaves in order -/

section Insertion

variable {edited kept : Pipeline} {group : String}

theorem found_insert_self (catalog : Catalog) (edited : Pipeline) (group : String) :
    (catalog.insert edited group).pipeline? edited.name = some edited := by
  rw [pipeline?_insert, Name.same_self, if_pos rfl]

/-- A task that fetches through the edit was checked again, and the others see nothing of it. -/
theorem tasks_insert (consistent : catalog.Consistent)
    (clean : Review.downstreamFetchProblems edited
      (.ofEdit (catalog.insert edited group) edited) = [])
    (found : catalog.pipeline? kept.name = some kept)
    (apart : edited.name.same kept.name = false) {stage : Stage}
    (in_stages : stage ∈ kept.stages) {job : Job} (in_jobs : job ∈ stage.jobs) {task : Task}
    (in_tasks : task ∈ job.tasks)
    (before : task.problems (((Scope.inside catalog kept).within (.stage stage)).within
      (.job job)) = []) :
    task.problems (((Scope.inside (catalog.insert edited group) kept).within
      (.stage stage)).within (.job job)) = [] := by
  have same := catalog.sameBut_insert edited group
  rcases same.task_or_follow apart found before with clear | ⟨fetch, target, is_fetch, passes, along⟩
  · exact clear
  · have leads : catalog.Leads edited.name kept.name :=
      consistent.leads_of_passesThrough (lookup?_inside_job found) found along passes
    have reached : ((catalog.insert edited group).transitiveDownstreamsOf edited.name).has
        kept.name = true := by
      rw [transitiveDownstreamsOf_insert]
      exact (leads_iff_has_transitiveDownstreamsOf (by rw [Name.same_comm, apart])).1 leads
    have through : Review.fetchesThrough edited.name task = true := by
      simp [Review.fetchesThrough, is_fetch, passes]
    have told := rechecked_task clean (same.found apart found) reached in_stages in_jobs in_tasks
      through
    rwa [problems_recheck_task (found_insert_self catalog edited group)
      (same.found apart found)] at told

/-- A repository that the edit polls was compared with all others that poll it. -/
theorem polling_insert [Pattern.Engine] (consistent : catalog.Consistent)
    (free : Blake3.CollisionFree (catalog.identities ++ edited.identities))
    (stands : edited.Stands (catalog.insert edited group))
    (found : catalog.pipeline? kept.name = some kept)
    (apart : edited.name.same kept.name = false) {material : Material}
    (member : material ∈ kept.materials.items)
    (before : material.pollingProblems (.inside catalog kept) = []) :
    material.pollingProblems (.inside (catalog.insert edited group) kept) = [] := by
  have now := consistent.insert edited group
  have kept_found := (catalog.sameBut_insert edited group).found apart found
  rw [Material.pollingProblems_eq_nil_iff rfl] at before ⊢
  intro scm use used other
  by_cases own : edited.name.same use.pipeline.name = true
  · obtain ⟨owner, declared, source⟩ := now.of_mem_usesAt used
    rw [pipeline?_insert, if_pos own, Option.some.injEq] at owner
    rw [← owner] at declared
    have same_bytes : use.material.identityBytes = material.identityBytes := by
      obtain ⟨group, committed⟩ := pipeline?_eq_some_iff.1 found
      refine free _ (List.mem_append_right _ (List.mem_map_of_mem declared)) _
        (List.mem_append_left _ (List.mem_flatMap.2 ⟨_, Table.mem_values_iff.2 ⟨_, committed⟩,
          List.mem_map_of_mem member⟩)) source
    obtain ⟨back, listed, back_owner, back_material⟩ :=
      now.use_of_mem kept_found member
    have settled := stands.autoUpdate_eq declared
      (by rwa [Material.isScm_eq_of_bytes same_bytes]) (by rw [source]; exact listed)
      (by rw [back_owner, Name.same_comm, apart])
    rw [← settled, back_material]
  · have use_apart : use.pipeline.name.same edited.name = false := by
      simpa [Name.same_comm] using own
    exact before scm use ((catalog.mem_usesAt_insert_iff edited group use_apart).1 used) other

/-- Dependencies that settled still do, if those of the edit settle. Only at the edit can a chain of
them turn elsewhere than before. -/
theorem settles_insert {name : Name} (settles : catalog.dependencyView.Settles name)
    (edited_settles : (catalog.insert edited group).dependencyView.Settles edited.name) :
    (catalog.insert edited group).dependencyView.Settles name := by
  induction settles with
  | @intro name known _ ih =>
    by_cases own : edited.name.same name = true
    · exact edited_settles.congr (regular_dependencyView _) own
    · have unchanged :
          (catalog.insert edited group).upstreamsOf name = catalog.upstreamsOf name := by
        rw [upstreamsOf_insert, if_neg own]
      have back {upstream : Name}
          (waits : (catalog.insert edited group).dependencyView.Waits name upstream) :
          catalog.dependencyView.Waits name upstream := by
        have waits : ((catalog.insert edited group).upstreamsOf name).has upstream = true := waits
        rwa [unchanged] at waits
      refine ⟨fun upstream waits => ?_, fun upstream waits => ih upstream (back waits)⟩
      have was_known := known upstream (back waits)
      rw [knows_dependencyView] at was_known ⊢
      rw [pipeline?_insert]
      split
      · rfl
      · exact was_known

theorem materials_insert [Pattern.Engine] (consistent : catalog.Consistent)
    (free : Blake3.CollisionFree (catalog.identities ++ edited.identities))
    (stands : edited.Stands (catalog.insert edited group))
    (clean : Review.downstreamDependencyProblems edited
      (.ofEdit (catalog.insert edited group) edited) = [])
    (found : catalog.pipeline? kept.name = some kept)
    (apart : edited.name.same kept.name = false) {material : Material}
    (member : material ∈ kept.materials.items)
    (before : material.problems (.inside catalog kept) = []) :
    material.problems (.inside (catalog.insert edited group) kept) = [] := by
  have same := catalog.sameBut_insert edited group
  have kept_found := same.found apart found
  by_cases waits : material.dependsOn edited.name = true
  · have told := (consistent.insert edited group).rechecked_material clean kept_found apart member
      waits
    rwa [problems_recheck_material (found_insert_self catalog edited group) kept_found waits]
      at told
  · have polled_before : material.pollingProblems (.inside catalog kept) = [] := by
      rw [Material.problems, List.append_eq_nil_iff] at before
      exact before.2
    have polled := polling_insert consistent free stands found apart member polled_before
    rw [material.problems_congr (same.alike kept) ?_ (polled.trans polled_before.symm), before]
    intro upstream named
    refine same.findAlike apart found ?_
    rw [Name.same_comm]
    simpa [Material.dependsOn, named] using waits

/-- A pipeline that stood before still stands after an edit that is clean. -/
theorem stands_insert [Pattern.Engine] (consistent : catalog.Consistent)
    (free : Blake3.CollisionFree (catalog.identities ++ edited.identities))
    (clean : (edited.review (catalog.insert edited group)).isClean = true)
    (found : catalog.pipeline? kept.name = some kept)
    (apart : edited.name.same kept.name = false) (before : kept.Stands catalog) :
    kept.Stands (catalog.insert edited group) := by
  obtain ⟨stands, silent_references, silent_fetches⟩ := Pipeline.isClean_review_iff.1 clean
  have now := consistent.insert edited group
  have edited_settles := (now.dependencyProblems_eq_nil_iff
    (found_insert_self catalog edited group)).1 stands.dependencies
  have kept_settles := (consistent.dependencyProblems_eq_nil_iff found).1 before.dependencies
  refine before.transfer rfl ?dependencies ?materials ?tasks
  case dependencies =>
    have kept_found := (catalog.sameBut_insert edited group).found apart found
    exact (now.dependencyProblems_eq_nil_iff kept_found).2
      (settles_insert kept_settles edited_settles)
  case materials =>
    exact fun material member => materials_insert consistent free stands silent_references found
      apart member (before.materials material member)
  case tasks =>
    exact fun stage in_stages job in_jobs task in_tasks => tasks_insert consistent silent_fetches
      found apart in_stages in_jobs in_tasks ((before.stages stage in_stages).tasks job in_jobs
        task in_tasks)

/-- A clean edit of a sound catalog leaves it sound. -/
theorem Sound.insert [Pattern.Engine] (sound : catalog.Sound) (consistent : catalog.Consistent)
    (free : Blake3.CollisionFree (catalog.identities ++ edited.identities))
    (clean : (edited.review catalog).isClean = true) : (catalog.insert edited group).Sound := by
  rw [← edited.review_insert catalog group] at clean
  rw [sound_iff (consistent.insert edited group)]
  intro pipeline found
  by_cases own : edited.name.same pipeline.name = true
  · rw [pipeline?_insert, if_pos own, Option.some.injEq] at found
    rw [← found]
    exact (Pipeline.isClean_review_iff.1 clean).1
  · rw [pipeline?_insert, if_neg own] at found
    exact stands_insert consistent free clean found (by simpa using own)
      ((sound_iff consistent).1 sound pipeline found)

/-- An edit that nobody waits for is clean if it passes and its dependencies settle. -/
theorem Consistent.isClean_review_of_passes [Pattern.Engine] (consistent : catalog.Consistent)
    (passes : edited.Passes (catalog.insert edited group))
    (settles : (catalog.insert edited group).dependencyView.Settles edited.name)
    (unawaited : ((catalog.insert edited group).downstreamsOf edited.name).toList = []) :
    (edited.review catalog).isClean = true := by
  have now := consistent.insert edited group
  have found := found_insert_self catalog edited group
  rw [← edited.review_insert catalog group, Pipeline.isClean_review_iff]
  exact ⟨passes.stands ((now.dependencyProblems_eq_nil_iff found).2 settles),
    Review.silent_of_unawaited unawaited⟩

end Insertion

end Catalog

end PipelineConfig
