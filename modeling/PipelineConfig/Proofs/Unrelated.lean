import Mathlib.Data.List.Pairwise
import PipelineConfig.Proofs.Removal

/-!
# Pipelines that do not matter to a review

A review of a pipeline looks upstream along its dependencies, at others that poll its repositories,
and downstream for what refers to it. Even a fetch path of a downstream pipeline that can be
followed through the reviewed one has only pipelines up- or downstream of it. What goes by any other
name may change without changing the verdict.
-/

namespace PipelineConfig

namespace Catalog

/-- With an edit made, another pipeline lies neither upstream nor downstream of the edited one. -/
structure Unrelated (catalog : Catalog) (edited : Pipeline) (other : Name) : Prop where
  /-- The edited pipeline does not wait for it, at any distance. -/
  upstream : ¬Relation.TransGen ((Scope.ofEdit catalog edited).proposedView edited).Waits
    edited.name other
  /-- It does not wait for the edited pipeline, at any distance. -/
  downstream : (catalog.transitiveDownstreamsOf edited.name).has other = false

/-- Neither of two names leads to the other. -/
def Apart (catalog : Catalog) (left right : Name) : Prop :=
  ¬catalog.Leads left right ∧ ¬catalog.Leads right left

variable {catalog : Catalog} {edited : Pipeline} {other : Name}

theorem Unrelated.apart_insert (unrelated : catalog.Unrelated edited other)
    (consistent : catalog.Consistent) (group : String)
    (other_apart : other.same edited.name = false) :
    (catalog.insert edited group).Apart other edited.name := by
  have now := consistent.insert edited group
  have edges : (catalog.insert edited group).dependencyView.Waits =
      ((Scope.ofEdit catalog edited).proposedView edited).Waits := by
    funext name upstream
    have upstreams := catalog.upstreamsOf_insert edited group name
    exact congrArg (fun names => NameSet.has names upstream = true) upstreams
  constructor
  · rw [now.leads_iff, edges]
    exact unrelated.upstream
  · rw [leads_iff_has_transitiveDownstreamsOf other_apart, transitiveDownstreamsOf_insert,
      unrelated.downstream]
    exact Bool.false_ne_true

/-- If a fetch path can be followed by a pipeline, nothing on it lies apart from what it goes
through. -/
theorem Consistent.avoids_of_apart (consistent : catalog.Consistent) {scope : Scope}
    (sees : ∀ name, scope.lookup? name = catalog.pipeline? name)
    {current target : Pipeline} {fetch : FetchTask} {name through : Name}
    (apart : catalog.Apart name through) (names_apart : name.same through = false)
    (walk : FetchTask.Follows scope current fetch.path.reverse target)
    (passes : fetch.passesThrough through = true) : fetch.passesThrough name = false := by
  rw [Bool.eq_false_iff]
  intro passes_name
  obtain ⟨first, first_mem, first_same⟩ := List.any_eq_true.1 passes_name
  obtain ⟨second, second_mem, second_same⟩ := List.any_eq_true.1 passes
  have different : first ≠ second := by
    rintro rfl
    have same := Name.same_trans (Name.same_symm first_same) second_same
    simp [names_apart] at same
  have related : catalog.Leads second first ∨ catalog.Leads first second := by
    let Related (left right : Name) : Prop := catalog.Leads right left ∨ catalog.Leads left right
    have symmetric : Std.Symm Related := ⟨fun _ _ leads => leads.symm⟩
    have ordered : fetch.path.reverse.Pairwise Related :=
      (consistent.pairwise_leads_of_follows sees walk).imp Or.inl
    exact ordered.forall (List.mem_reverse.2 first_mem) (List.mem_reverse.2 second_mem) different
  rcases related with leads | leads
  · exact apart.2 ((leads.congr_left second_same).congr_right first_same)
  · exact apart.1 ((leads.congr_left first_same).congr_right second_same)

/-- A pipeline is committed in two catalogs that differ under one name only, and that name lies
apart from the pipeline in both. -/
structure Sheltered (edited : Pipeline) (name : Name) (left right : Catalog) : Prop where
  /-- The catalogs differ under the name only. -/
  same : SameBut name left right
  /-- The tables of one catalog follow from its entries. -/
  left_consistent : left.Consistent
  /-- So do those of the other. -/
  right_consistent : right.Consistent
  /-- The pipeline goes by another name. -/
  names_apart : name.same edited.name = false
  /-- The pipeline is committed. -/
  found : left.pipeline? edited.name = some edited
  /-- The name lies apart from it in one catalog. -/
  left_apart : left.Apart name edited.name
  /-- The name lies apart from it in the other. -/
  right_apart : right.Apart name edited.name

namespace Sheltered

variable {name : Name} {left right : Catalog}

theorem symm (sheltered : Sheltered edited name left right) :
    Sheltered edited name right left where
  same := sheltered.same.symm
  left_consistent := sheltered.right_consistent
  right_consistent := sheltered.left_consistent
  names_apart := sheltered.names_apart
  found := sheltered.same.found sheltered.names_apart sheltered.found
  left_apart := sheltered.right_apart
  right_apart := sheltered.left_apart

/-- What is downstream of the pipeline in one catalog is so in the other. -/
theorem downstream (sheltered : Sheltered edited name left right) {downstream : Pipeline}
    (committed : right.pipeline? downstream.name = some downstream)
    (leads : right.Leads edited.name downstream.name) :
    name.same downstream.name = false ∧ left.pipeline? downstream.name = some downstream ∧
      left.Leads edited.name downstream.name := by
  have apart : name.same downstream.name = false := by
    rw [Bool.eq_false_iff]
    exact fun here => sheltered.right_apart.2 (leads.congr_right (Name.same_symm here))
  refine ⟨apart, by rwa [sheltered.same.pipeline _ apart], ?_⟩
  exact sheltered.same.symm.leads sheltered.right_consistent sheltered.left_consistent leads
    sheltered.right_apart.2

theorem downstreamDependencyProblems (sheltered : Sheltered edited name left right)
    (before : Review.downstreamDependencyProblems edited (.ofEdit left edited) = []) :
    Review.downstreamDependencyProblems edited (.ofEdit right edited) = [] := by
  refine List.flatMap_eq_nil_iff.2 fun downstream member => ?_
  obtain ⟨spelled, listed, found⟩ := Review.mem_committed.1 member
  have committed := sheltered.right_consistent.found_self found
  have other : edited.name.same downstream.name = false := by
    have kept := (List.mem_filter.1 listed).2
    rw [Name.same_comm, Name.same_congr_left _ (sheltered.right_consistent.named found)]
    simpa using kept
  refine Review.brokenReferences_eq_nil.2 fun material declared waits => ?_
  have feeds : right.Feeds edited.name downstream.name := sheltered.right_consistent.feeds_iff.2
    (sheltered.right_consistent.waits_iff.2 ⟨downstream, committed, material, declared, waits⟩)
  obtain ⟨apart, committed_before, _⟩ := sheltered.downstream committed (.single feeds)
  have in_order : material.problems (.inside left downstream) = [] := by
    rw [← problems_recheck_material sheltered.found committed_before waits]
    exact sheltered.left_consistent.rechecked_material before committed_before other declared waits
  have polling := Material.pollingProblems_of_dependsOn waits
  have unchanged : material.problems (.inside right downstream) =
      material.problems (.inside left downstream) := by
    refine material.problems_congr (sheltered.same.alike downstream) (fun upstream named => ?_)
      (by rw [polling, polling])
    have edited_named : upstream.same edited.name = true := by
      simpa [Material.dependsOn, named] using waits
    refine sheltered.same.findAlike apart committed_before ?_
    rw [Name.same_congr_right _ edited_named, sheltered.names_apart]
  exact (problems_recheck_material sheltered.symm.found committed waits).trans
    (unchanged.trans in_order)

theorem downstreamFetchProblems (sheltered : Sheltered edited name left right)
    (before : Review.downstreamFetchProblems edited (.ofEdit left edited) = []) :
    Review.downstreamFetchProblems edited (.ofEdit right edited) = [] := by
  refine List.flatMap_eq_nil_iff.2 fun downstream member => ?_
  obtain ⟨spelled, listed, found⟩ := Review.mem_committed.1 member
  have committed := sheltered.right_consistent.found_self found
  have same := sheltered.right_consistent.named found
  obtain ⟨spelled_apart, spelled_leads⟩ :=
    (right.has_transitiveDownstreamsOf_iff _ _).1 (NameSet.has_of_mem listed)
  have leads : right.Leads edited.name downstream.name :=
    Leads.congr_right spelled_leads (Name.same_symm same)
  obtain ⟨apart, committed_before, leads_before⟩ := sheltered.downstream committed leads
  have reached : (left.transitiveDownstreamsOf edited.name).has downstream.name = true := by
    refine (leads_iff_has_transitiveDownstreamsOf ?_).1 leads_before
    rw [Name.same_congr_left _ same, spelled_apart]
  refine Review.brokenFetches_eq_nil.2 fun stage in_stages job in_jobs task in_tasks through => ?_
  have in_order : task.problems (((Scope.inside left downstream).within (.stage stage)).within
      (.job job)) = [] := by
    rw [← problems_recheck_task sheltered.found committed_before]
    exact rechecked_task before committed_before reached in_stages in_jobs in_tasks through
  have passes_edited (fetch : FetchTask) (is_fetch : task.fetch? = some fetch) :
      fetch.passesThrough edited.name = true := by
    simpa [Review.fetchesThrough, is_fetch] using through
  refine (problems_recheck_task sheltered.symm.found committed stage job task).trans ?_
  rcases sheltered.same.task_or_follow apart committed_before in_order with
    clear | ⟨fetch, target, is_fetch, passes, along⟩
  · exact clear
  · have avoids := sheltered.left_consistent.avoids_of_apart
      (lookup?_inside_job committed_before) sheltered.left_apart sheltered.names_apart along
      (passes_edited fetch is_fetch)
    simp [avoids] at passes

/-- A clean review stays clean. -/
theorem isClean_review [Pattern.Engine] (sheltered : Sheltered edited name left right)
    (unpolled : ∀ material ∈ edited.materials.items, material.isScm = true →
      ∀ use ∈ right.usesAt material.fingerprint, name.same use.pipeline.name = false)
    (clean : (edited.review left).isClean = true) : (edited.review right).isClean = true := by
  obtain ⟨stands, references, fetches⟩ := Pipeline.isClean_review_iff.1 clean
  have polled : ∀ material ∈ edited.materials.items, material.isScm = true →
      ∀ use ∈ right.usesAt material.fingerprint, name.same use.pipeline.name = true →
        use.material.autoUpdate = material.autoUpdate := by
    intro material member scm use used here
    simp [unpolled material member scm use used] at here
  have stands_after := sheltered.same.stands sheltered.left_consistent sheltered.right_consistent
    sheltered.names_apart sheltered.found sheltered.left_apart.1 polled stands
  exact Pipeline.isClean_review_iff.2 ⟨stands_after,
    sheltered.downstreamDependencyProblems references, sheltered.downstreamFetchProblems fetches⟩

end Sheltered

/-- Whoever goes by the name in the catalog uses none of the repositories that the edit polls. -/
theorem unpolled_insert (consistent : catalog.Consistent) (group : String)
    (names_apart : other.same edited.name = false)
    (sources : ∀ material ∈ edited.materials.items, material.isScm = true →
      ∀ version, catalog.pipeline? other = some version →
        ∀ used ∈ version.materials.items, used.fingerprint ≠ material.fingerprint) :
    ∀ material ∈ edited.materials.items, material.isScm = true →
      ∀ use ∈ (catalog.insert edited group).usesAt material.fingerprint,
        other.same use.pipeline.name = false := by
  intro material member scm use used
  rw [Bool.eq_false_iff]
  intro here
  obtain ⟨owner, declared, source⟩ := (consistent.insert edited group).of_mem_usesAt used
  rw [pipeline?_insert, Name.same_comm, ← Name.same_congr_left _ here, names_apart,
    if_neg Bool.false_ne_true, ← pipeline?_congr _ here] at owner
  exact sources material member scm use.pipeline owner use.material declared source

/-- An edit is judged alike before and after another pipeline is inserted, if that pipeline is
unrelated to the edit before and after, and neither its old nor its new version uses a repository
that the edit polls. -/
theorem Reachable.verdict_insert_unrelated [Pattern.Engine] (reachable : catalog.Reachable)
    (pipeline : Pipeline) (inserted : Pipeline) (group : String)
    (names_apart : inserted.name.same pipeline.name = false)
    (before : catalog.Unrelated pipeline inserted.name)
    (after : (catalog.insert inserted group).Unrelated pipeline inserted.name)
    (sources : ∀ material ∈ pipeline.materials.items, material.isScm = true →
      ∀ version, version = inserted ∨ catalog.pipeline? inserted.name = some version →
        ∀ used ∈ version.materials.items, used.fingerprint ≠ material.fingerprint) :
    (pipeline.validate (catalog.insert inserted group)).1 = (pipeline.validate catalog).1 := by
  have consistent := reachable.consistent
  have now := consistent.insert inserted group
  let left := catalog.insert pipeline ""
  let right := (catalog.insert inserted group).insert pipeline ""
  have same : SameBut inserted.name left right := by
    refine ⟨fun other apart => ?_, rfl⟩
    rw [pipeline?_insert, pipeline?_insert, pipeline?_insert, apart, if_neg Bool.false_ne_true]
  have sheltered : Sheltered pipeline inserted.name left right :=
    { same
      left_consistent := consistent.insert pipeline ""
      right_consistent := now.insert pipeline ""
      names_apart
      found := found_insert_self catalog pipeline ""
      left_apart := before.apart_insert consistent "" names_apart
      right_apart := after.apart_insert now "" names_apart }
  have left_unpolled := unpolled_insert consistent "" names_apart
    fun material member scm version found => sources material member scm version (.inr found)
  have right_unpolled := unpolled_insert now "" names_apart
    fun material member scm version found => sources material member scm version (.inl (by
      rw [found_insert_self] at found
      exact (Option.some.inj found).symm))
  have verdicts : (pipeline.review right).isClean = (pipeline.review left).isClean := by
    rw [Bool.eq_iff_iff]
    exact ⟨sheltered.symm.isClean_review left_unpolled, sheltered.isClean_review right_unpolled⟩
  rw [pipeline.review_insert, pipeline.review_insert] at verdicts
  rw [pipeline.validate_fst, pipeline.validate_fst, verdicts]

/-- Two pipelines that feed no other are unrelated unless one waits for the other. -/
theorem Consistent.unrelated_of_idle (consistent : catalog.Consistent)
    (other_idle : ∀ name, ¬catalog.Feeds other name)
    (edited_idle : ∀ name, ¬catalog.Feeds edited.name name)
    (independent : edited.upstreams.has other = false) : catalog.Unrelated edited other where
  upstream := by
    intro chain
    obtain ⟨name, _, waits⟩ := Relation.TransGen.tail'_iff.1 chain
    have waits : (((Scope.ofEdit catalog edited).proposedView edited).upstreamsOf name).has other =
        true := waits
    simp only [Scope.proposedView, Scope.ofEdit] at waits
    split at waits
    · simp [independent] at waits
    · exact other_idle name (consistent.feeds_iff.2 waits)
  downstream := by
    rw [Bool.eq_false_iff, ne_eq, has_transitiveDownstreamsOf_iff]
    rintro ⟨_, chain⟩
    obtain ⟨name, feeds, _⟩ := Relation.TransGen.head'_iff.1 chain
    exact edited_idle name feeds

theorem idle_of_toList {name : Name} (nobody : (catalog.downstreamsOf name).toList = [])
    (other : Name) : ¬catalog.Feeds name other := by
  rw [Feeds, NameSet.has_eq_any, nobody]
  exact Bool.false_ne_true

/-- A pipeline that waits for `build`, polls a repository and has a stage to run. -/
def docs : Pipeline :=
  { name := ⟨"docs"⟩,
    materials.items := [⟨.dependency ⟨"build"⟩ ⟨"run"⟩, none, none, true, .none⟩,
      ⟨.git "https://host/docs" "main", none, none, true, .none⟩],
    stages := [⟨⟨"publish"⟩, [⟨⟨"all"⟩, [⟨.exec "make" [] none, .none⟩], .none⟩], .none⟩] }

/-- A pipeline that polls another repository. -/
def tools : Pipeline :=
  { name := ⟨"tools"⟩,
    materials.items := [⟨.git "https://host/tools" "main", none, none, false, .none⟩] }

theorem verdict_docs_insert_tools :
    (docs.validate (initial (some declaredTogether))).1 = true ∧
      (docs.validate ((initial (some declaredTogether)).insert tools "third")).1 = true := by
  have reachable : (initial (some declaredTogether)).Reachable := ⟨some declaredTogether, [], rfl⟩
  have consistent := reachable.consistent
  have valid : (docs.validate (initial (some declaredTogether))).1 = true := by
    have passes : docs.Passes ((initial (some declaredTogether)).insert docs "third") := by
      decide +kernel
    rw [Pipeline.validate_fst]
    exact consistent.isClean_review_of_passes passes
      (DependencyView.settles_of_idle (by decide +kernel) (regular_dependencyView _))
      (by decide +kernel)
  have before : (initial (some declaredTogether)).Unrelated docs tools.name :=
    consistent.unrelated_of_idle (idle_of_toList (by decide +kernel))
      (idle_of_toList (by decide +kernel)) (by decide +kernel)
  have after : ((initial (some declaredTogether)).insert tools "third").Unrelated docs tools.name :=
    (consistent.insert tools "third").unrelated_of_idle (idle_of_toList (by decide +kernel))
      (idle_of_toList (by decide +kernel)) (by decide +kernel)
  have kept := Reachable.verdict_insert_unrelated reachable docs tools "third"
    (by decide +kernel) before after ?sources
  case sources =>
    intro material member _ version versions
    have only : version = tools := by
      have absent : (initial (some declaredTogether)).pipeline? tools.name = none := by
        decide +kernel
      simpa [absent] using versions
    rw [only]
    revert material
    decide +kernel
  exact ⟨valid, kept.trans valid⟩

end Catalog

end PipelineConfig
