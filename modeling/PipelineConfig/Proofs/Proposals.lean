import PipelineConfig.Proofs.Soundness

/-!
# Sound catalogs stay sound

A proposal changes a catalog only by inserting the proposed pipeline, with its report written into
it, after a review that found nothing. As reports change nothing but recorded messages, the saved
pipeline is as clean as the proposed one.
-/

namespace PipelineConfig

theorem map_applyEach {α β : Type} {replace : β → α → α} {clear : α → α}
    (cleared : ∀ report node, clear (replace report node) = clear node) (reports : List β)
    (nodes : List α) : (applyEach replace reports nodes).map clear = nodes.map clear := by
  fun_induction applyEach replace reports nodes with
  | case1 report reports node nodes ih => rw [List.map_cons, cleared, ih, List.map_cons]
  | case2 => rfl

theorem JobReport.clearErrors_apply (report : JobReport) (job : Job) :
    (report.apply job).clearErrors = job.clearErrors := by
  have tasks : (applyEach (fun errors (task : Task) => { task with errors }) report.tasks
      job.tasks).map Task.clearErrors = job.tasks.map Task.clearErrors :=
    map_applyEach (by intros; rfl) _ _
  simp only [apply, Job.clearErrors, tasks]

theorem StageReport.clearErrors_apply (report : StageReport) (stage : Stage) :
    (report.apply stage).clearErrors = stage.clearErrors := by
  simp only [apply, Stage.clearErrors, map_applyEach JobReport.clearErrors_apply]

/-- A report changes nothing but recorded messages. -/
theorem PipelineReport.clearErrors_apply (report : PipelineReport) (pipeline : Pipeline) :
    (report.apply pipeline).clearErrors = pipeline.clearErrors := by
  have items : (applyEach (fun errors (material : Material) => { material with errors })
      report.materialErrors pipeline.materials.items).map Material.clearErrors =
        pipeline.materials.items.map Material.clearErrors := map_applyEach (by intros; rfl) _ _
  have params : (applyEach (fun errors (parameter : Parameter) => { parameter with errors })
      report.params pipeline.params).map Parameter.clearErrors =
        pipeline.params.map Parameter.clearErrors := map_applyEach (by intros; rfl) _ _
  have bindings : (applyEach (fun errors (binding : Variable) => { binding with errors })
      report.environmentVariables pipeline.environmentVariables).map Variable.clearErrors =
        pipeline.environmentVariables.map Variable.clearErrors :=
    map_applyEach (by intros; rfl) _ _
  simp only [apply, Pipeline.clearErrors, Materials.clearErrors, Option.map_map, items, params,
    bindings, map_applyEach StageReport.clearErrors_apply]
  rfl

theorem Pipeline.identities_clearErrors (pipeline : Pipeline) :
    pipeline.clearErrors.identities = pipeline.identities := by
  simp only [identities, clearErrors, Materials.clearErrors, List.map_map]
  rfl

namespace Catalog

theorem of_mem_identities_insert {catalog : Catalog} {pipeline : Pipeline} {group : String}
    {bytes : List UInt8} (member : bytes ∈ (catalog.insert pipeline group).identities) :
    bytes ∈ catalog.identities ∨ bytes ∈ pipeline.identities := by
  obtain ⟨entry, listed, member⟩ := List.mem_flatMap.1 member
  obtain ⟨name, found⟩ := Table.mem_values_iff.1 listed
  have found : entry? (catalog.insert pipeline group) name = some entry := found
  rw [entry?_insert] at found
  split at found
  · obtain rfl := Option.some.inj found
    exact .inr member
  · exact .inl (List.mem_flatMap.2 ⟨entry, Table.mem_values_iff.2 ⟨name, found⟩, member⟩)

/-- What a run of proposals may digest: the materials of the pipelines it starts from or
proposes. -/
def identitiesOfRun (catalog : Catalog) (proposals : List Proposal) : List (List UInt8) :=
  catalog.identities ++ proposals.flatMap fun proposal => proposal.pipeline.identities

section Proposing

variable [Pattern.Engine]

/-- A pipeline with a clean review is committed, and nothing but recorded messages is changed. -/
theorem commit_of_clean {catalog : Catalog} {pipeline : Pipeline}
    (clean : (pipeline.review catalog).isClean = true) (group : String) :
    ∃ saved, saved.clearErrors = pipeline.clearErrors ∧
      catalog.commit pipeline group = ⟨catalog.insert saved group, saved, none⟩ :=
  ⟨(pipeline.review catalog).apply pipeline, (pipeline.review catalog).clearErrors_apply pipeline,
    by simp [commit, Pipeline.validate, Pipeline.valid_review, clean]⟩

/-- A pipeline with a clean review is accepted under a name that is not taken. -/
theorem accepted_of_clean {catalog : Catalog} {pipeline : Pipeline}
    (absent : catalog.contains pipeline.name = false)
    (clean : (pipeline.review catalog).isClean = true) (group : String) :
    (catalog.propose (.create pipeline group)).refusal = none := by
  obtain ⟨saved, -, committed⟩ := commit_of_clean clean group
  rw [propose, create, if_neg (Bool.eq_false_iff.1 absent), committed]

theorem commit_cases (catalog : Catalog) (pipeline : Pipeline) (group : String) :
    (catalog.commit pipeline group).catalog = catalog ∨
      ∃ saved, (saved.review catalog).isClean = true ∧
        saved.clearErrors = pipeline.clearErrors ∧
          (catalog.commit pipeline group).catalog = catalog.insert saved group := by
  cases clean : (pipeline.review catalog).isClean with
  | false => exact .inl (by simp [commit, Pipeline.validate, Pipeline.valid_review, clean])
  | true =>
    obtain ⟨saved, cleared, committed⟩ := commit_of_clean clean group
    refine .inr ⟨saved, ?_, cleared, by rw [committed]⟩
    rw [← Pipeline.review_clearErrors, cleared, Pipeline.review_clearErrors, clean]

/-- A proposal changes nothing, or it enters as a pipeline whose review is clean. -/
theorem propose_cases (catalog : Catalog) (proposal : Proposal) :
    (catalog.propose proposal).catalog = catalog ∨
      ∃ saved, (saved.review catalog).isClean = true ∧
        saved.clearErrors = proposal.pipeline.clearErrors ∧
          (catalog.propose proposal).catalog = catalog.insert saved proposal.group := by
  cases proposal with
  | create pipeline group =>
    rw [propose, create]
    split
    · exact .inl rfl
    · exact catalog.commit_cases pipeline group
  | update pipeline group =>
    rw [propose, update]
    split
    · exact catalog.commit_cases pipeline group
    · exact .inl rfl

theorem Sound.propose {catalog : Catalog} (sound : catalog.Sound) (consistent : catalog.Consistent)
    {proposal : Proposal}
    (free : Blake3.CollisionFree (catalog.identities ++ proposal.pipeline.identities)) :
    (catalog.propose proposal).catalog.Sound ∧ (catalog.propose proposal).catalog.Consistent ∧
      ∀ bytes ∈ (catalog.propose proposal).catalog.identities,
        bytes ∈ catalog.identities ++ proposal.pipeline.identities := by
  rcases catalog.propose_cases proposal with unchanged | ⟨saved, clean, cleared, inserted⟩
  · rw [unchanged]
    exact ⟨sound, consistent, fun bytes member => List.mem_append_left _ member⟩
  · have identities : saved.identities = proposal.pipeline.identities := by
      rw [← Pipeline.identities_clearErrors, cleared, Pipeline.identities_clearErrors]
    rw [← identities] at free ⊢
    rw [inserted]
    exact ⟨sound.insert consistent free clean, consistent.insert saved proposal.group,
      fun bytes member => List.mem_append.2 (of_mem_identities_insert member)⟩

theorem Sound.proposeAll {catalog : Catalog} (sound : catalog.Sound)
    (consistent : catalog.Consistent) {proposals : List Proposal}
    (free : Blake3.CollisionFree (catalog.identitiesOfRun proposals)) :
    (catalog.proposeAll proposals).Sound := by
  induction proposals generalizing catalog with
  | nil => exact sound
  | cons proposal rest ih =>
    have split_run : catalog.identitiesOfRun (proposal :: rest) =
        (catalog.identities ++ proposal.pipeline.identities) ++
          rest.flatMap fun proposal => proposal.pipeline.identities := by
      simp [identitiesOfRun]
    rw [split_run] at free
    have first := free.mono fun bytes member => List.mem_append_left _ member
    obtain ⟨sound_then, consistent_then, known⟩ := sound.propose consistent first
    refine ih sound_then consistent_then (free.mono fun bytes member => ?_)
    rcases List.mem_append.1 member with committed | proposed
    · exact List.mem_append_left _ (known bytes committed)
    · exact List.mem_append_right _ proposed

/-- From a sound catalog proposals lead to sound catalogs only, however many were made and whichever
of them were refused: neither a saved pipeline nor any other is left with something that its own
review reports. The digests of the materials involved are taken to be free of collisions. -/
theorem Reachable.sound_proposeAll {catalog : Catalog} (reachable : catalog.Reachable)
    (sound : catalog.Sound) (proposals : List Proposal)
    (free : Blake3.CollisionFree (catalog.identitiesOfRun proposals)) :
    ∀ made, made <+: proposals → (catalog.proposeAll made).Sound := by
  rintro made ⟨later, rfl⟩
  refine sound.proposeAll reachable.consistent (free.mono fun bytes member => ?_)
  rw [identitiesOfRun, List.flatMap_append, ← List.append_assoc]
  exact List.mem_append_left _ member

end Proposing

/-- A pipeline that polls a repository, and one that waits for it. -/
def twoProposals : List Proposal :=
  let stage : Stage := ⟨⟨"run"⟩, [⟨⟨"all"⟩, [⟨.exec "make" [] none, .none⟩], .none⟩], .none⟩
  [.create { name := ⟨"build"⟩, materials.items := [⟨.git "https://host/a" "main", none, none,
      true, .none⟩], stages := [stage] } "first",
    .create { name := ⟨"deploy"⟩, materials.items := [⟨.dependency ⟨"build"⟩ ⟨"run"⟩, none, none,
      true, .none⟩], stages := [stage] } "second"]

/-- The first of the two pipelines, declared by itself. -/
def declaredFirst : Configuration :=
  { groups := [⟨"first", [twoProposals[0].pipeline]⟩] }

theorem sound_twoProposals :
    ((initial (some declaredFirst)).propose twoProposals[0]).refusal =
      some (.duplicatePipeline "build") ∧
    ((initial (some declaredFirst)).propose twoProposals[1]).refusal = none ∧
    ∀ made, made <+: twoProposals → ((initial (some declaredFirst)).proposeAll made).Sound := by
  have reachable : (initial (some declaredFirst)).Reachable := ⟨some declaredFirst, [], rfl⟩
  have sound : (initial (some declaredFirst)).Sound := by
    have checked : ∀ entry ∈ (initial (some declaredFirst)).entries.values,
        entry.pipeline.Passes (initial (some declaredFirst)) ∧
          entry.pipeline.upstreams.toList = [] ∧
            ((initial (some declaredFirst)).downstreamsOf entry.pipeline.name).toList = [] := by
      decide +kernel
    intro entry member
    obtain ⟨passes, idle, unawaited⟩ := checked entry member
    rw [Pipeline.validate_fst, passes.isClean_review idle unawaited]
  have clean : (twoProposals[1].pipeline.review (initial (some declaredFirst))).isClean = true := by
    have passes : twoProposals[1].pipeline.Passes
        ((initial (some declaredFirst)).insert twoProposals[1].pipeline "second") := by
      decide +kernel
    exact reachable.consistent.isClean_review_of_passes passes
      (DependencyView.settles_of_idle (by decide +kernel) (regular_dependencyView _))
      (by decide +kernel)
  refine ⟨by decide +kernel, accepted_of_clean (by decide +kernel) clean "second",
    Reachable.sound_proposeAll reachable sound twoProposals ?_⟩
  unfold Blake3.CollisionFree
  decide +kernel

end Catalog

end PipelineConfig
