import PipelineConfig.Proofs.DependencyOrder
import PipelineConfig.Proofs.Spelling

/-!
# What stands in the way of a deletion

After any history there is one deletion check for each committed pipeline. It refuses the deletion
just when an environment of the last configuration runs the pipeline or a committed pipeline depends
on it, and it names one of these. As a pipeline may depend on itself, it may be named as what stands
in its own way; another pipeline is named whenever it does not.
-/

namespace PipelineConfig

/-- The environments that count after an operation. -/
def Operation.environments (before : List Environment) : Operation → List Environment
  | replace config => config.environments
  | record _ _ | propose _ => before

/-- The environments that count after a history: those of the last configuration. -/
def environmentsOf (config : Option Configuration) (operations : List Operation) :
    List Environment :=
  operations.foldl Operation.environments ((config.map Configuration.environments).getD [])

/-- Exactly one of some different names is another spelling of a name that is among them. -/
theorem countP_same_eq_one {names : List Name} {name : Name}
    (apart : names.Pairwise fun left right => left.same right = false)
    (listed : ∃ spelled ∈ names, spelled.same name = true) :
    names.countP (fun spelled => spelled.same name) = 1 := by
  induction names with
  | nil => simp at listed
  | cons head rest ih =>
    obtain ⟨head_apart, rest_apart⟩ := List.pairwise_cons.1 apart
    rw [List.countP_cons]
    cases same : head.same name with
    | true =>
      have others : rest.countP (fun spelled => spelled.same name) = 0 := by
        rw [List.countP_eq_zero]
        intro other member also
        have both := Name.same_trans same (Name.same_symm also)
        rw [head_apart other member] at both
        exact Bool.false_ne_true both
      rw [others, if_pos rfl]
    | false =>
      rw [ih rest_apart (by simpa [same] using listed), if_neg Bool.false_ne_true]

namespace Catalog

/-! ## Environments after a history -/

/-- A catalog knows of some environments which of them runs a pipeline. -/
def Hosts (catalog : Catalog) (environments : List Environment) : Prop :=
  ∀ name, catalog.environmentOf? name = (lastListing? environments name).map Environment.name

variable {catalog : Catalog} {environments : List Environment}

section Histories

variable [Pattern.Engine]

theorem Hosts.perform (hosts : catalog.Hosts environments) (operation : Operation) :
    (catalog.perform operation).Hosts (operation.environments environments) := by
  cases operation with
  | replace config => exact environmentOf?_ofConfiguration config
  | record pipeline group => exact hosts
  | propose proposal =>
    rcases catalog.propose_cases proposal with unchanged | ⟨saved, _, _, inserted⟩
    · rwa [Catalog.perform, unchanged]
    · rw [Catalog.perform, inserted]
      exact hosts

theorem Hosts.performAll (hosts : catalog.Hosts environments) (operations : List Operation) :
    (catalog.performAll operations).Hosts
      (operations.foldl Operation.environments environments) := by
  induction operations generalizing catalog environments with
  | nil => exact hosts
  | cons operation rest ih => exact ih (hosts.perform operation)

theorem hosts_environmentsOf (config : Option Configuration) (operations : List Operation) :
    ((initial config).performAll operations).Hosts (environmentsOf config operations) := by
  refine Hosts.performAll ?_ operations
  cases config with
  | none => exact fun name => rfl
  | some config => exact environmentOf?_ofConfiguration config

end Histories

/-! ## Deletion checks -/

/-- There is exactly one deletion check for a committed pipeline. -/
theorem countP_deletionChecks {name : Name} (committed : (catalog.pipeline? name).isSome = true) :
    catalog.deletionChecks.countP (fun check => check.name.same name) = 1 := by
  have listed : ∃ spelled ∈ catalog.names, spelled.same name = true := by
    rwa [← isOn_names, DependencyView.isOn, List.any_eq_true] at committed
  rw [deletionChecks, List.countP_map]
  exact countP_same_eq_one catalog.pairwise_names listed

/-- What stands in the way of a deletion: an environment, or, if there is none, a pipeline that
depends on the one to delete, which may be that one itself, or nothing. -/
theorem deletionBlock?_cases {written : List Entry} (came : catalog.Written written)
    (hosts : catalog.Hosts environments) (name : Name) :
    (∃ environment ∈ environments, environment.lists name = true ∧
      catalog.deletionBlock? name = some (.environment environment.name)) ∨
    (∀ environment ∈ environments, environment.lists name = false) ∧
      ((∃ downstream, catalog.pipeline? downstream.name = some downstream ∧
          catalog.DependsOn downstream.name name ∧
          catalog.deletionBlock? name = some (.downstream downstream.name)) ∨
        (∀ downstream, ¬catalog.DependsOn downstream name) ∧
          catalog.deletionBlock? name = none) := by
  rw [deletionBlock?, hosts name]
  cases hosted : lastListing? environments name with
  | some environment =>
    obtain ⟨member, lists⟩ := of_lastListing? hosted
    exact .inl ⟨environment, member, lists, rfl⟩
  | none =>
    refine .inr ⟨lastListing?_eq_none_iff.1 hosted, ?_⟩
    have depends {downstream : Name} :
        (catalog.downstreamsOf name).has downstream = true ↔ catalog.DependsOn downstream name := by
      rw [← came.consistent.waits_iff_dependsOn]
      exact came.consistent.feeds_iff
    cases listed : (catalog.downstreamsOf name).toList with
    | nil =>
      refine .inr ⟨fun downstream depending => ?_, rfl⟩
      obtain ⟨spelled, member, _⟩ := NameSet.has_iff.1 (depends.2 depending)
      simp [listed] at member
    | cons first rest =>
      have member : first ∈ (catalog.downstreamsOf name).toList := by simp [listed]
      obtain ⟨downstream, found, rfl⟩ := came.committed_of_mem_downstreamsOf member
      exact .inl ⟨downstream, found, depends.1 (NameSet.has_of_mem member), rfl⟩

end Catalog

namespace DeletionCheck

/-- How an environment in the way is told. -/
def environmentText (pipeline environment : String) : String :=
  s!"Cannot delete pipeline '{pipeline}' as it is present in environment '{environment}'."

/-- How a downstream pipeline in the way is told. -/
def downstreamText (pipeline downstream : String) : String :=
  s!"Cannot delete pipeline '{pipeline}' as pipeline '{downstream}' depends on it."

/-- A deletion check says truly what stands in the way, where only some of the pipelines that depend
on the one to delete count. -/
structure Tells (check : DeletionCheck) (catalog : Catalog) (environments : List Environment)
    (counts : Name → Prop) : Prop where
  /-- The deletion is allowed just when nothing stands in the way. -/
  allowed : check.isAllowed = true ↔
    (∀ environment ∈ environments, environment.lists check.name = false) ∧
      ∀ downstream, counts downstream → ¬catalog.DependsOn downstream check.name
  /-- Else the message names an environment that runs the pipeline or a committed pipeline that
  depends on it. -/
  refused : check.isAllowed = false →
    (∃ environment ∈ environments, environment.lists check.name = true ∧
      check.message = environmentText check.name.text environment.name) ∨
    ∃ downstream, catalog.pipeline? downstream.name = some downstream ∧
      counts downstream.name ∧ catalog.DependsOn downstream.name check.name ∧
        check.message = downstreamText check.name.text downstream.name.text

end DeletionCheck

namespace Catalog

variable {catalog : Catalog} {environments : List Environment}

/-- A check tells the truth if the pipelines count that can be found in the way. -/
theorem tells_of_cases {written : List Entry} (came : catalog.Written written)
    (hosts : catalog.Hosts environments) {name : Name} {counts : Name → Prop}
    (count : (∀ environment ∈ environments, environment.lists name = false) →
      ∀ downstream, catalog.DependsOn downstream name → counts downstream) :
    (DeletionCheck.mk name (catalog.deletionBlock? name)).Tells catalog environments counts := by
  rcases deletionBlock?_cases came hosts name with
    ⟨environment, member, lists, blocked⟩ |
      ⟨idle, ⟨downstream, found, depends, blocked⟩ | ⟨nobody, free⟩⟩
  · rw [blocked]
    refine ⟨iff_of_false (by simp [DeletionCheck.isAllowed]) ?_,
      fun _ => .inl ⟨environment, member, lists, rfl⟩⟩
    rintro ⟨idle, _⟩
    exact Bool.false_ne_true ((idle environment member).symm.trans lists)
  · have counted := count idle downstream.name depends
    rw [blocked]
    refine ⟨iff_of_false (by simp [DeletionCheck.isAllowed]) ?_,
      fun _ => .inr ⟨downstream, found, counted, depends, rfl⟩⟩
    rintro ⟨_, nobody⟩
    exact nobody downstream.name counted depends
  · rw [free]
    exact ⟨iff_of_true rfl ⟨idle, fun downstream _ => nobody downstream⟩,
      fun refused => absurd refused (by simp [DeletionCheck.isAllowed])⟩

/-- After any history each committed pipeline has one deletion check. The check says truly what
stands in the way, if a pipeline that depends on itself counts. Unless it is such a pipeline that no
environment runs, it also does if only the other pipelines count. -/
theorem deletionChecks_told [Pattern.Engine] (config : Option Configuration)
    (operations : List Operation) :
    let catalog := (initial config).performAll operations
    let environments := environmentsOf config operations
    (∀ name, (catalog.pipeline? name).isSome = true →
      catalog.deletionChecks.countP (fun check => check.name.same name) = 1) ∧
    ∀ check ∈ catalog.deletionChecks,
      (catalog.pipeline? check.name).isSome = true ∧
      check.Tells catalog environments (fun _ => True) ∧
      (¬catalog.DependsOn check.name check.name ∨
          (∃ environment ∈ environments, environment.lists check.name = true) →
        check.Tells catalog environments fun downstream => downstream.same check.name = false) := by
  intro catalog environments
  have came : catalog.Written _ := (written_initial config).performAll operations
  have hosts : catalog.Hosts environments := hosts_environmentsOf config operations
  refine ⟨fun name => countP_deletionChecks, fun check member => ?_⟩
  obtain ⟨name, listed, rfl⟩ := List.mem_map.1 member
  refine ⟨?committed, tells_of_cases came hosts fun _ _ _ => trivial, fun other => ?others⟩
  case committed =>
    rw [← isOn_names, DependencyView.isOn, List.any_eq_true]
    exact ⟨name, listed, Name.same_self name⟩
  case others =>
    refine tells_of_cases came hosts fun idle downstream depends => ?_
    rw [Bool.eq_false_iff]
    intro same
    rcases other with apart | ⟨environment, member, lists⟩
    · obtain ⟨pipeline, found, waits⟩ := depends
      rw [catalog.pipeline?_congr same] at found
      exact apart ⟨pipeline, found, waits⟩
    · exact Bool.false_ne_true ((idle environment member).symm.trans lists)

/-- A pipeline that waits for itself, and that no other waits for, is not allowed to be deleted. -/
theorem deletionChecks_selfWaiting :
    let catalog := (initial none).performAll [.record selfWaiting "first"]
    ∃ check ∈ catalog.deletionChecks,
      check.message = "Cannot delete pipeline 'loop' as pipeline 'loop' depends on it." ∧
        ¬check.Tells catalog [] fun downstream => downstream.same check.name = false := by
  intro catalog
  refine ⟨⟨⟨"loop"⟩, some (.downstream ⟨"loop"⟩)⟩, by decide +kernel, by decide +kernel, ?_⟩
  intro tells
  have nobody (downstream : Name) (apart : downstream.same ⟨"loop"⟩ = false) :
      ¬catalog.DependsOn downstream ⟨"loop"⟩ := by
    rintro ⟨pipeline, found, _⟩
    have found : (Catalog.insert {} selfWaiting "first").pipeline? downstream = some pipeline :=
      found
    have other : selfWaiting.name.same downstream = false := by rwa [Name.same_comm]
    rw [pipeline?_insert, other, if_neg Bool.false_ne_true] at found
    simp [pipeline?, entry?] at found
  exact absurd (tells.allowed.2 ⟨by simp, nobody⟩) (by simp [DeletionCheck.isAllowed])

end Catalog

end PipelineConfig
