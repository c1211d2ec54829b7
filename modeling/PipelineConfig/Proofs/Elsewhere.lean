import PipelineConfig.Proofs.Clean
import PipelineConfig.Proofs.Committed

/-!
# Changes elsewhere

Two catalogs may differ in what they hold under one name and in nothing else. Such a difference
concerns the pipelines downstream of the name, and those that poll a repository of its materials.
Any other pipeline stands in both catalogs or in none.
-/

namespace PipelineConfig

namespace Catalog

/-- Catalogs with the same templates and, but for one name, the same pipelines. -/
structure SameBut (name : Name) (left right : Catalog) : Prop where
  /-- Other names lead to the same pipelines. -/
  pipeline : ∀ other, name.same other = false → left.pipeline? other = right.pipeline? other
  /-- Templates have the same stages. -/
  templates : left.templates = right.templates

/-- There is a chain of downstream edges from one pipeline to another. -/
def Leads (catalog : Catalog) (upstream name : Name) : Prop :=
  Relation.TransGen catalog.Feeds upstream name

theorem Leads.congr_left {catalog : Catalog} {left right name : Name}
    (leads : catalog.Leads left name) (same : left.same right = true) :
    catalog.Leads right name := by
  obtain ⟨next, feeds, onward⟩ := Relation.TransGen.head'_iff.1 leads
  exact .head' (feeds.congr_left same) onward

theorem Leads.congr_right {catalog : Catalog} {upstream left right : Name}
    (leads : catalog.Leads upstream left) (same : left.same right = true) :
    catalog.Leads upstream right := by
  obtain ⟨before, onward, feeds⟩ := Relation.TransGen.tail'_iff.1 leads
  have last : catalog.Feeds before right := by rwa [Feeds, ← NameSet.has_eq_of_same _ same]
  exact .tail' onward last

/-- What leads to a pipeline is what the pipeline waits for, at any distance. -/
theorem Consistent.leads_iff {catalog : Catalog} (consistent : catalog.Consistent)
    {upstream name : Name} :
    catalog.Leads upstream name ↔
      Relation.TransGen catalog.dependencyView.Waits name upstream := by
  have edges : catalog.Feeds = Function.swap catalog.dependencyView.Waits := by
    funext upstream name
    exact propext consistent.feeds_iff
  rw [Leads, edges, Relation.transGen_swap]

theorem leads_iff_has_transitiveDownstreamsOf {catalog : Catalog} {upstream name : Name}
    (apart : name.same upstream = false) :
    catalog.Leads upstream name ↔
      (catalog.transitiveDownstreamsOf upstream).has name = true := by
  rw [has_transitiveDownstreamsOf_iff, Leads]
  exact ⟨fun leads => ⟨apart, leads⟩, fun found => found.2⟩

/-- A path that can be followed leads upstream. -/
theorem Consistent.leads_of_follows {catalog : Catalog} (consistent : catalog.Consistent)
    {scope : Scope} (sees : ∀ name, scope.lookup? name = catalog.pipeline? name)
    {previous target : Pipeline} {path : List Name}
    (found : catalog.pipeline? previous.name = some previous)
    (walk : FetchTask.Follows scope previous path target) :
    ∀ name ∈ path, catalog.Leads name previous.name := by
  induction walk with
  | arrived => simp
  | @step previous next target segment rest waits next_found _ ih =>
    rw [sees] at next_found
    have feeds : catalog.Feeds segment previous.name := consistent.feeds_iff.2
      (consistent.waits_iff.2 ⟨previous, found, Pipeline.has_upstreams_iff.1 waits⟩)
    have last : catalog.Feeds next.name previous.name :=
      feeds.congr_left (Name.same_symm (consistent.named next_found))
    have farther : ∀ name ∈ rest, catalog.Leads name previous.name :=
      fun name member => (ih (consistent.found_self next_found) name member).tail last
    exact List.forall_mem_cons.2 ⟨.single feeds, farther⟩

theorem Consistent.leads_of_passesThrough {catalog : Catalog} (consistent : catalog.Consistent)
    {scope : Scope} (sees : ∀ name, scope.lookup? name = catalog.pipeline? name)
    {current target : Pipeline} {fetch : FetchTask} {name : Name}
    (found : catalog.pipeline? current.name = some current)
    (walk : FetchTask.Follows scope current fetch.path.reverse target)
    (passes : fetch.passesThrough name = true) : catalog.Leads name current.name := by
  obtain ⟨segment, member, same⟩ := List.any_eq_true.1 passes
  have leads := consistent.leads_of_follows sees found walk segment (List.mem_reverse.2 member)
  exact leads.congr_left same

/-- A committed pipeline's tasks look other pipelines up among the committed ones. -/
theorem lookup?_inside_job {catalog : Catalog} {pipeline : Pipeline} {stage : Stage} {job : Job}
    (found : catalog.pipeline? pipeline.name = some pipeline) (name : Name) :
    (((Scope.inside catalog pipeline).within (.stage stage)).within (.job job)).lookup? name =
      catalog.pipeline? name :=
  lookup?_of_committed found name

/-- The names on a fetch path that can be followed lie upstream of each other in their order. -/
theorem Consistent.pairwise_leads_of_follows {catalog : Catalog} (consistent : catalog.Consistent)
    {scope : Scope} (sees : ∀ name, scope.lookup? name = catalog.pipeline? name)
    {previous target : Pipeline} {path : List Name}
    (walk : FetchTask.Follows scope previous path target) :
    path.Pairwise fun nearer farther => catalog.Leads farther nearer := by
  induction walk with
  | arrived => exact .nil
  | @step previous next target segment rest _ next_found onward ih =>
    rw [sees] at next_found
    have leads := consistent.leads_of_follows sees (consistent.found_self next_found) onward
    have farther : ∀ name ∈ rest, catalog.Leads name segment := fun name member =>
      (leads name member).congr_right (consistent.named next_found)
    exact .cons farther ih

/-- An insertion is a change under one name. -/
theorem sameBut_insert (catalog : Catalog) (edited : Pipeline) (group : String) :
    SameBut edited.name catalog (catalog.insert edited group) where
  pipeline other apart := by rw [pipeline?_insert, apart, if_neg Bool.false_ne_true]
  templates := rfl

namespace SameBut

variable {name : Name} {left right : Catalog}

theorem symm (same : SameBut name left right) : SameBut name right left :=
  ⟨fun other apart => (same.pipeline other apart).symm, same.templates.symm⟩

theorem feeds (same : SameBut name left right) (left_consistent : left.Consistent)
    (right_consistent : right.Consistent) {upstream other : Name}
    (apart : name.same other = false) (feeds : left.Feeds upstream other) :
    right.Feeds upstream other := by
  rw [right_consistent.feeds_iff, right_consistent.waits_iff, ← same.pipeline other apart]
  exact left_consistent.waits_iff.1 (left_consistent.feeds_iff.1 feeds)

/-- A chain stays, unless it leads to the name. -/
theorem leads (same : SameBut name left right) (left_consistent : left.Consistent)
    (right_consistent : right.Consistent) {upstream other : Name}
    (leads : left.Leads upstream other) (unreached : ¬left.Leads upstream name) :
    right.Leads upstream other := by
  have reached_apart {reached : Name} (here : left.Leads upstream reached) :
      name.same reached = false := by
    rw [Bool.eq_false_iff]
    exact fun spelled => unreached (here.congr_right (Name.same_symm spelled))
  induction leads with
  | single feeds =>
    have apart := reached_apart (.single feeds)
    exact .single (same.feeds left_consistent right_consistent apart feeds)
  | @tail before last onward feeds ih =>
    have apart := reached_apart (onward.tail feeds)
    exact ih.tail (same.feeds left_consistent right_consistent apart feeds)

/-- Dependencies that settle without the name do so whatever the name stands for. -/
theorem settles (same : SameBut name left right) (left_consistent : left.Consistent)
    (right_consistent : right.Consistent) {other : Name}
    (settles : left.dependencyView.Settles other) (apart : name.same other = false)
    (unreached : ¬left.Leads name other) : right.dependencyView.Settles other := by
  induction settles with
  | @intro other known _ ih =>
    have back {upstream : Name} (waits : right.dependencyView.Waits other upstream) :
        left.Feeds upstream other :=
      same.symm.feeds right_consistent left_consistent apart (right_consistent.feeds_iff.2 waits)
    have upstream_apart {upstream : Name} (feeds : left.Feeds upstream other) :
        name.same upstream = false := by
      rw [Bool.eq_false_iff]
      exact fun here => unreached (.single (feeds.congr_left (Name.same_symm here)))
    refine ⟨fun upstream waits => ?_, fun upstream waits => ?_⟩
    · have was_known := known upstream (left_consistent.feeds_iff.1 (back waits))
      rwa [knows_dependencyView, same.pipeline upstream (upstream_apart (back waits)),
        ← knows_dependencyView] at was_known
    · have feeds := back waits
      exact ih upstream (left_consistent.feeds_iff.1 feeds) (upstream_apart feeds)
        fun reached => unreached (reached.tail feeds)

section Kept

variable {kept : Pipeline}

theorem found (same : SameBut name left right) (apart : name.same kept.name = false)
    (found : left.pipeline? kept.name = some kept) : right.pipeline? kept.name = some kept := by
  rwa [← same.pipeline kept.name apart]

theorem alike (same : SameBut name left right) (kept : Pipeline) :
    (Scope.inside right kept).Alike (.inside left kept) :=
  ⟨rfl, rfl, rfl, rfl, rfl, same.templates.symm⟩

theorem findAlike (same : SameBut name left right) (apart : name.same kept.name = false)
    (found : left.pipeline? kept.name = some kept) {other : Name}
    (other_apart : name.same other = false) :
    (Scope.inside right kept).FindAlike (.inside left kept) other := by
  have after : (Scope.inside right kept).lookup? other = right.pipeline? other :=
    lookup?_of_committed (same.found apart found) other
  have before : (Scope.inside left kept).lookup? other = left.pipeline? other :=
    lookup?_of_committed found other
  rw [Scope.FindAlike, after, before, same.pipeline other other_apart]

/-- A task in order stays so, unless it fetches along a path that comes by the name. -/
theorem task_or_follow (same : SameBut name left right) (apart : name.same kept.name = false)
    (found : left.pipeline? kept.name = some kept) {stage : Stage} {job : Job} {task : Task}
    (before : task.problems (((Scope.inside left kept).within (.stage stage)).within
      (.job job)) = []) :
    task.problems (((Scope.inside right kept).within (.stage stage)).within (.job job)) = [] ∨
      ∃ fetch target, task.fetch? = some fetch ∧ fetch.passesThrough name = true ∧
        FetchTask.Follows (((Scope.inside left kept).within (.stage stage)).within (.job job)) kept
          fetch.path.reverse target := by
  have alike := ((same.alike kept).within (.stage stage) (.stage stage) rfl).within (.job job)
    (.job job) rfl
  have unchanged (around : ∀ fetch, task.fetch? = some fetch → fetch.passesThrough name = false) :
      task.problems (((Scope.inside right kept).within (.stage stage)).within (.job job)) = [] := by
    rw [task.problems_congr alike ?_, before]
    intro fetch is_fetch other member
    have other_apart := List.any_eq_false.1 (around fetch is_fetch) other member
    exact same.findAlike apart found (by rw [Name.same_comm]; simpa using other_apart)
  obtain ⟨kind, errors⟩ := task
  cases kind with
  | fetch fetch =>
    rcases fetch.problems_eq_nil_or_follow alike rfl rfl before with clear | ⟨target, followed⟩
    · exact .inl clear
    · cases passes : fetch.passesThrough name with
      | true => exact .inr ⟨fetch, target, rfl, passes, followed⟩
      | false =>
        refine .inl (unchanged fun other is_fetch => ?_)
        obtain rfl := Option.some.inj is_fetch
        exact passes
  | exec | ant | nant | rake | pluggable =>
    exact .inl (unchanged fun fetch is_fetch => by simp [Task.fetch?] at is_fetch)

/-- A pipeline with nothing of the name upstream stands in both catalogs, if whoever goes by the
name polls the pipeline's repositories as the pipeline does. What any other pipeline polls is found
in both catalogs. -/
theorem stands [Pattern.Engine] (same : SameBut name left right) (left_consistent : left.Consistent)
    (right_consistent : right.Consistent) (apart : name.same kept.name = false)
    (found : left.pipeline? kept.name = some kept) (unreached : ¬left.Leads name kept.name)
    (polled : ∀ material ∈ kept.materials.items, material.isScm = true →
      ∀ use ∈ right.usesAt material.fingerprint, name.same use.pipeline.name = true →
        use.material.autoUpdate = material.autoUpdate)
    (before : kept.Stands left) : kept.Stands right := by
  have kept_found := same.found apart found
  refine before.transfer same.templates.symm ?dependencies ?materials ?tasks
  case dependencies =>
    have settled := (left_consistent.dependencyProblems_eq_nil_iff found).1 before.dependencies
    exact (right_consistent.dependencyProblems_eq_nil_iff kept_found).2
      (same.settles left_consistent right_consistent settled apart unreached)
  case materials =>
    intro material member
    have in_order := before.materials material member
    have polling : material.pollingProblems (.inside right kept) = [] := by
      have polled_before := (List.append_eq_nil_iff.1 in_order).2
      rw [Material.pollingProblems_eq_nil_iff rfl] at polled_before ⊢
      intro scm use used other
      by_cases here : name.same use.pipeline.name = true
      · exact polled material member scm use used here
      · obtain ⟨owner, declared, source⟩ := right_consistent.of_mem_usesAt used
        rw [← same.pipeline _ (by simpa using here)] at owner
        obtain ⟨back, listed, back_owner, back_material⟩ :=
          left_consistent.use_of_mem owner declared
        have agreed := polled_before scm back (by rwa [source] at listed) (by rwa [back_owner])
        rwa [back_material] at agreed
    have polled_before := (List.append_eq_nil_iff.1 in_order).2
    rw [material.problems_congr (same.alike kept) ?_ (polling.trans polled_before.symm), in_order]
    intro upstream named
    refine same.findAlike apart found ?_
    rw [Bool.eq_false_iff]
    intro here
    have waits : material.dependsOn name = true := by
      simp [Material.dependsOn, named, Name.same_symm here]
    exact unreached (.single (left_consistent.feeds_iff.2
      (left_consistent.waits_iff.2 ⟨kept, found, material, member, waits⟩)))
  case tasks =>
    intro stage in_stages job in_jobs task in_tasks
    have in_order := (before.stages stage in_stages).tasks job in_jobs task in_tasks
    rcases same.task_or_follow apart found in_order with clear | ⟨fetch, target, _, passes, along⟩
    · exact clear
    · exact absurd (left_consistent.leads_of_passesThrough (lookup?_inside_job found) found along
        passes) unreached

end Kept

end SameBut

end Catalog

end PipelineConfig
