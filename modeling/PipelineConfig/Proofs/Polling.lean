import PipelineConfig.Proofs.Proposals

/-!
# How the copies of a repository are polled

A review compares the repositories of a pipeline with those that other pipelines poll, so different
pipelines never poll one repository in different ways. Repositories of one pipeline are not compared
with each other: whether all copies are polled alike depends on the proposed pipelines alone.
-/

namespace PipelineConfig

/-- All copies of a repository within the pipeline are polled alike. -/
def Pipeline.PollsAlike (pipeline : Pipeline) : Prop :=
  ∀ left ∈ pipeline.materials.items, ∀ right ∈ pipeline.materials.items,
    left.isScm = true → right.isScm = true → left.fingerprint = right.fingerprint →
      left.autoUpdate = right.autoUpdate

instance (pipeline : Pipeline) : Decidable pipeline.PollsAlike :=
  inferInstanceAs (Decidable (∀ left ∈ _, ∀ right ∈ _, _ → _ → _ → _))

theorem Pipeline.pollsAlike_clearErrors {pipeline : Pipeline} :
    pipeline.clearErrors.PollsAlike ↔ pipeline.PollsAlike := by
  simp only [PollsAlike, clearErrors, Materials.clearErrors, List.forall_mem_map]
  exact Iff.rfl

theorem Pipeline.PollsAlike.of_clearErrors {saved proposed : Pipeline}
    (alike : proposed.PollsAlike) (cleared : saved.clearErrors = proposed.clearErrors) :
    saved.PollsAlike := by
  rwa [← pollsAlike_clearErrors, cleared, pollsAlike_clearErrors]

namespace Catalog

/-- All copies of a repository are polled alike. -/
def PollsAlike (catalog : Catalog) : Prop :=
  ∀ fingerprint, ∀ left ∈ catalog.usesAt fingerprint, ∀ right ∈ catalog.usesAt fingerprint,
    left.material.isScm = true → right.material.isScm = true →
      left.material.autoUpdate = right.material.autoUpdate

/-- Different pipelines poll a repository alike. -/
def OthersPollAlike (catalog : Catalog) : Prop :=
  ∀ fingerprint, ∀ left ∈ catalog.usesAt fingerprint, ∀ right ∈ catalog.usesAt fingerprint,
    left.material.isScm = true → right.material.isScm = true →
      left.pipeline.name.same right.pipeline.name = false →
        left.material.autoUpdate = right.material.autoUpdate

/-- Each committed pipeline polls its own copies alike. -/
def EachPollsAlike (catalog : Catalog) : Prop :=
  ∀ name pipeline, catalog.pipeline? name = some pipeline → pipeline.PollsAlike

variable {catalog : Catalog}

theorem Consistent.pollsAlike_iff (consistent : catalog.Consistent) :
    catalog.PollsAlike ↔ catalog.OthersPollAlike ∧ catalog.EachPollsAlike := by
  constructor
  · intro alike
    refine ⟨fun fingerprint left left_used right right_used left_scm right_scm _ =>
      alike fingerprint left left_used right right_used left_scm right_scm, ?_⟩
    intro name pipeline found left left_in right right_in left_scm right_scm equal
    obtain ⟨left_use, left_used, -, rfl⟩ := consistent.use_of_mem found left_in
    obtain ⟨right_use, right_used, -, rfl⟩ := consistent.use_of_mem found right_in
    rw [equal] at left_used
    exact alike _ left_use left_used right_use right_used left_scm right_scm
  · rintro ⟨others, each⟩ fingerprint left left_used right right_used left_scm right_scm
    obtain ⟨left_found, left_in, left_source⟩ := consistent.of_mem_usesAt left_used
    obtain ⟨right_found, right_in, right_source⟩ := consistent.of_mem_usesAt right_used
    by_cases own : left.pipeline.name.same right.pipeline.name = true
    · rw [catalog.pipeline?_congr own, right_found, Option.some.injEq] at left_found
      rw [← left_found] at left_in
      exact each _ _ right_found left.material left_in right.material right_in left_scm right_scm
        (left_source.trans right_source.symm)
    · exact others fingerprint left left_used right right_used left_scm right_scm
        (by simpa using own)

section Insertion

variable {edited : Pipeline} {group : String}

theorem OthersPollAlike.insert [Pattern.Engine] (alike : catalog.OthersPollAlike)
    (consistent : catalog.Consistent) (clean : (edited.review catalog).isClean = true) :
    (catalog.insert edited group).OthersPollAlike := by
  have now := consistent.insert edited group
  have compared {fingerprint : String} {own other : Use}
      (own_used : own ∈ (catalog.insert edited group).usesAt fingerprint)
      (other_used : other ∈ (catalog.insert edited group).usesAt fingerprint)
      (scm : own.material.isScm = true) (mine : own.pipeline.name.same edited.name = true)
      (apart : own.pipeline.name.same other.pipeline.name = false) :
      other.material.autoUpdate = own.material.autoUpdate := by
    obtain ⟨found, declared, source⟩ := now.of_mem_usesAt own_used
    rw [pipeline?_insert, if_pos (Name.same_symm mine), Option.some.injEq] at found
    rw [← found] at declared
    have other_apart : other.pipeline.name.same edited.name = false := by
      rw [← Name.same_congr_right _ mine, Name.same_comm, apart]
    have stands := (Pipeline.isClean_review_iff.1 clean).1
    refine stands.autoUpdate_eq declared scm ?_ other_apart
    rw [source]
    exact (catalog.mem_usesAt_insert_iff edited group other_apart).1 other_used
  intro fingerprint left left_used right right_used left_scm right_scm apart
  by_cases left_own : left.pipeline.name.same edited.name = true
  · exact (compared left_used right_used left_scm left_own apart).symm
  · by_cases right_own : right.pipeline.name.same edited.name = true
    · exact compared right_used left_used right_scm right_own (by rw [Name.same_comm, apart])
    · have left_kept := (catalog.mem_usesAt_insert_iff edited group
        (by simpa using left_own)).1 left_used
      have right_kept := (catalog.mem_usesAt_insert_iff edited group
        (by simpa using right_own)).1 right_used
      exact alike fingerprint left left_kept right right_kept left_scm right_scm apart

theorem EachPollsAlike.insert (each : catalog.EachPollsAlike) (alike : edited.PollsAlike) :
    (catalog.insert edited group).EachPollsAlike := by
  intro name pipeline found
  rw [pipeline?_insert] at found
  split at found
  · obtain rfl := Option.some.inj found
    exact alike
  · exact each name pipeline found

end Insertion

/-! ## Proposals -/

theorem Consistent.empty : Consistent {} :=
  (Written.start {}).mirrors.consistent

section Proposals

variable [Pattern.Engine]

theorem OthersPollAlike.propose (alike : catalog.OthersPollAlike)
    (consistent : catalog.Consistent) (proposal : Proposal) :
    (catalog.propose proposal).catalog.OthersPollAlike ∧
      (catalog.propose proposal).catalog.Consistent := by
  rcases catalog.propose_cases proposal with unchanged | ⟨saved, clean, -, inserted⟩
  · rw [unchanged]
    exact ⟨alike, consistent⟩
  · rw [inserted]
    exact ⟨alike.insert consistent clean, consistent.insert saved proposal.group⟩

theorem OthersPollAlike.proposeAll (alike : catalog.OthersPollAlike)
    (consistent : catalog.Consistent) (proposals : List Proposal) :
    (catalog.proposeAll proposals).OthersPollAlike ∧
      (catalog.proposeAll proposals).Consistent := by
  induction proposals generalizing catalog with
  | nil => exact ⟨alike, consistent⟩
  | cons proposal rest ih =>
    obtain ⟨alike_then, consistent_then⟩ := alike.propose consistent proposal
    exact ih alike_then consistent_then

theorem EachPollsAlike.propose (each : catalog.EachPollsAlike) {proposal : Proposal}
    (proposed : proposal.pipeline.PollsAlike) :
    (catalog.propose proposal).catalog.EachPollsAlike := by
  rcases catalog.propose_cases proposal with unchanged | ⟨saved, -, cleared, inserted⟩
  · rwa [unchanged]
  · rw [inserted]
    exact each.insert (proposed.of_clearErrors cleared)

theorem EachPollsAlike.proposeAll (each : catalog.EachPollsAlike) {proposals : List Proposal}
    (proposed : ∀ proposal ∈ proposals, proposal.pipeline.PollsAlike) :
    (catalog.proposeAll proposals).EachPollsAlike := by
  induction proposals generalizing catalog with
  | nil => exact each
  | cons proposal rest ih =>
    obtain ⟨first, others⟩ := List.forall_mem_cons.1 proposed
    exact ih (each.propose first) others

/-- Whatever was created and updated from the empty catalog on, different pipelines poll a
repository alike. All copies are polled alike just when each committed pipeline polls its own copies
alike, which holds as soon as each proposed pipeline does. -/
theorem polling_proposeAll (proposals : List Proposal) :
    let catalog := Catalog.proposeAll {} proposals
    catalog.OthersPollAlike ∧
    (catalog.PollsAlike ↔
      ∀ name pipeline, catalog.pipeline? name = some pipeline → pipeline.PollsAlike) ∧
    ((∀ proposal ∈ proposals, proposal.pipeline.PollsAlike) → catalog.PollsAlike) := by
  intro catalog
  have start : OthersPollAlike {} := fun _ _ used => absurd used List.not_mem_nil
  obtain ⟨others, consistent⟩ := start.proposeAll Consistent.empty proposals
  refine ⟨others, consistent.pollsAlike_iff.trans (and_iff_right others), fun proposed => ?_⟩
  have nobody : EachPollsAlike {} := fun name pipeline found => by simp [pipeline?, entry?] at found
  exact consistent.pollsAlike_iff.2 ⟨others, nobody.proposeAll proposed⟩

end Proposals

/-- A pipeline that declares a repository twice and polls only one of the copies. -/
def halfPolling : Pipeline :=
  { name := ⟨"build"⟩
    stages := [⟨⟨"run"⟩, [⟨⟨"all"⟩, [⟨.exec "make" [] none, .none⟩], .none⟩], .none⟩]
    materials.items := [⟨.git "https://host/a" "main", none, none, true, .none⟩,
      ⟨.git "https://host/a" "main", none, none, false, .none⟩] }

/-- A pipeline that polls only one of two copies is created without an objection. -/
theorem not_pollsAlike_halfPolling :
    (Catalog.create {} halfPolling "first").refusal = none ∧
      ¬(Catalog.proposeAll {} [.create halfPolling "first"]).PollsAlike := by
  have passes : halfPolling.Passes {} := by decide +kernel
  have clean := passes.isClean_review (by decide +kernel) rfl
  obtain ⟨saved, cleared, committed⟩ := commit_of_clean clean "first"
  have created : Catalog.create {} halfPolling "first" =
      ⟨Catalog.insert {} saved "first", saved, none⟩ := committed
  refine ⟨by rw [created], fun alike => ?_⟩
  have after : Catalog.proposeAll {} [.create halfPolling "first"] =
      Catalog.insert {} saved "first" := congrArg Edit.catalog created
  rw [after, (Consistent.empty.insert saved "first").pollsAlike_iff] at alike
  have own := alike.2 saved.name saved (found_insert_self {} saved "first")
  have not_alike : ¬halfPolling.PollsAlike := by decide +kernel
  exact not_alike (own.of_clearErrors cleared.symm)

end Catalog

end PipelineConfig
