import PipelineConfig.Deletion
import PipelineConfig.Proofs.Declarations
import PipelineConfig.Proofs.Elsewhere
import PipelineConfig.Proofs.Proposals

/-!
# What a removal leaves in order

A deletion check asks only for environments and for pipelines that wait directly. This is enough:
in a configuration whose pipelines all pass their reviews, a pipeline that nobody waits for is
upstream of nothing, so no other review can miss it.
-/

namespace PipelineConfig

theorem lastWrite?_filter_self (written : List Entry) (name : Name) :
    lastWrite? (written.filter fun entry => !entry.pipeline.name.same name) name = none := by
  rw [lastWrite?, List.find?_eq_none]
  intro entry member
  have kept := (List.mem_filter.1 (List.mem_reverse.1 member)).2
  simpa using kept

theorem lastWrite?_filter_apart (written : List Entry) {name other : Name}
    (apart : name.same other = false) :
    lastWrite? (written.filter fun entry => !entry.pipeline.name.same name) other =
      lastWrite? written other := by
  have other_apart : ¬name.same other = true := by simp [apart]
  rw [lastWrite?, ← List.filter_reverse, List.find?_filter, lastWrite?]
  congr 1
  funext entry
  have kept := Name.same_and_not_same other_apart entry.pipeline.name
  rw [Bool.and_comm] at kept
  simpa using kept

/-! ## Environments -/

/-- An environment runs the pipeline of a name. -/
def Environment.lists (environment : Environment) (name : Name) : Bool :=
  environment.pipelines.any fun listed => listed.same name

/-- The last of some environments that runs a pipeline. -/
def lastListing? (environments : List Environment) (name : Name) : Option Environment :=
  environments.reverse.find? fun environment => environment.lists name

section Environments

variable {environments : List Environment} {name : Name} {environment : Environment}

theorem lastListing?_append_singleton (environments : List Environment) (environment : Environment)
    (name : Name) :
    lastListing? (environments ++ [environment]) name =
      if environment.lists name then some environment else lastListing? environments name := by
  rw [lastListing?, List.reverse_append, List.reverse_singleton, List.singleton_append,
    List.find?_cons]
  cases environment.lists name <;> rfl

theorem lastListing?_eq_none_iff : lastListing? environments name = none ↔
    ∀ environment ∈ environments, environment.lists name = false := by
  simp [lastListing?]

theorem of_lastListing? (found : lastListing? environments name = some environment) :
    environment ∈ environments ∧ environment.lists name = true := by
  rw [lastListing?] at found
  exact ⟨List.mem_reverse.1 (List.mem_of_find?_eq_some found), by simpa using List.find?_some found⟩

end Environments

/-! ## Pipelines taken out of a configuration -/

namespace Configuration

/-- Every declared pipeline passes its review in the catalog of the configuration. -/
def AllValid [Pattern.Engine] (config : Configuration) : Prop :=
  ∀ declared ∈ config.declarations, (declared.2.validate (.ofConfiguration config)).1 = true

/-- No environment runs the pipeline of a name. -/
def Unlisted (config : Configuration) (name : Name) : Prop :=
  ∀ environment ∈ config.environments, ∀ listed ∈ environment.pipelines, listed.same name = false

/-- The configuration without the pipelines of a name. -/
def without (config : Configuration) (name : Name) : Configuration :=
  { config with
    groups := config.groups.map fun group =>
      { group with pipelines := group.pipelines.filter fun pipeline => !pipeline.name.same name } }

theorem declarations_without (config : Configuration) (name : Name) :
    (config.without name).declarations =
      config.declarations.filter fun declared => !declared.2.name.same name := by
  simp only [declarations, without, List.flatMap_map, List.filter_flatMap, List.filter_map]
  rfl

theorem writes_without (config : Configuration) (name : Name) :
    (config.without name).writes =
      config.writes.filter fun entry => !entry.pipeline.name.same name := by
  simp only [writes, declarations_without, List.filter_map]
  rfl

theorem DistinctNames.without {config : Configuration} (distinct : config.DistinctNames)
    (name : Name) : (config.without name).DistinctNames := by
  rw [DistinctNames, declarations_without]
  exact distinct.filter _

end Configuration

namespace Catalog

theorem sound_ofConfiguration_iff [Pattern.Engine] {config : Configuration}
    (distinct : config.DistinctNames) :
    (ofConfiguration config).Sound ↔ config.AllValid := by
  constructor
  · intro sound declared member
    let entry : Entry := ⟨declared.1, declared.2⟩
    have written : entry ∈ config.writes := List.mem_map_of_mem member
    exact sound entry ((mem_values_ofConfiguration distinct).2 written)
  · intro valid entry member
    have written := (mem_values_ofConfiguration distinct).1 member
    obtain ⟨declared, listed, rfl⟩ := List.mem_map.1 written
    exact valid declared listed

theorem pipeline?_without_self (config : Configuration) {name other : Name}
    (same : name.same other = true) :
    (ofConfiguration (config.without name)).pipeline? other = none := by
  have mirrors := mirrors_ofConfiguration (config.without name)
  rw [← pipeline?_congr _ same, pipeline?, mirrors.entry, Configuration.writes_without,
    lastWrite?_filter_self]
  rfl

theorem sameBut_without (config : Configuration) (name : Name) :
    SameBut name (ofConfiguration config) (ofConfiguration (config.without name)) where
  pipeline other apart := by
    have after := (mirrors_ofConfiguration (config.without name)).entry other
    have before := (mirrors_ofConfiguration config).entry other
    rw [Configuration.writes_without, lastWrite?_filter_apart _ apart] at after
    rw [pipeline?, pipeline?, after, before]
  templates := rfl

/-! ## Deletion checks -/

theorem get?_foldl_insert_listed {environment : String} (listed : List Name) (name : Name)
    (table : Table Name String) :
    (listed.foldl (fun table pipeline => table.insert pipeline environment) table).get? name =
      if listed.any (fun pipeline => pipeline.same name) then some environment
      else table.get? name := by
  induction listed generalizing table with
  | nil => rfl
  | cons head rest ih =>
    rw [List.foldl_cons, ih, Table.get?_insert, ← Name.same_eq_isEq, Name.same_comm, List.any_cons]
    cases head.same name <;> cases rest.any (fun pipeline => pipeline.same name) <;> rfl

/-- Of several environments that run a pipeline the last counts. -/
theorem environmentOf?_ofConfiguration (config : Configuration) (name : Name) :
    (ofConfiguration config).environmentOf? name =
      (lastListing? config.environments name).map Environment.name := by
  rw [environmentOf?, ofConfiguration]
  generalize config.environments = environments
  dsimp only
  induction environments using List.reverseRecOn with
  | nil => rfl
  | append_singleton before environment ih =>
    rw [List.foldl_append, List.foldl_cons, List.foldl_nil, get?_foldl_insert_listed, ih,
      lastListing?_append_singleton, Environment.lists]
    cases environment.pipelines.any fun pipeline => pipeline.same name <;> rfl

theorem environmentOf?_unlisted {config : Configuration} {name : Name}
    (unlisted : config.Unlisted name) : (ofConfiguration config).environmentOf? name = none := by
  rw [environmentOf?_ofConfiguration, Option.map_eq_none_iff, lastListing?_eq_none_iff]
  intro environment member
  simpa [Environment.lists] using unlisted environment member

/-- Without an environment in the way, a pipeline may be deleted just when it feeds no other. -/
theorem deletionBlock?_isNone_iff {catalog : Catalog} {name : Name}
    (idle : catalog.environmentOf? name = none) :
    (catalog.deletionBlock? name).isNone = true ↔ ∀ other, ¬catalog.Feeds name other := by
  rw [deletionBlock?, idle]
  simp only [Option.isNone_map, Option.isNone_iff_eq_none, List.head?_eq_none_iff]
  constructor
  · intro nobody other feeds
    obtain ⟨member, listed, _⟩ := NameSet.has_iff.1 feeds
    simp [nobody] at listed
  · intro nobody
    exact List.eq_nil_iff_forall_not_mem.2 fun member listed =>
      nobody member (NameSet.has_of_mem listed)

section Deletion

variable [Pattern.Engine]

/-- Taking out a pipeline that feeds no other leaves a sound catalog sound. -/
theorem Sound.without {config : Configuration} {name : Name}
    (sound : (ofConfiguration config).Sound)
    (nobody : ∀ other, ¬(ofConfiguration config).Feeds name other) :
    (ofConfiguration (config.without name)).Sound := by
  have left := (mirrors_ofConfiguration config).consistent
  have right := (mirrors_ofConfiguration (config.without name)).consistent
  have same := sameBut_without config name
  have removed {pipeline : Pipeline}
      (found : (ofConfiguration (config.without name)).pipeline? pipeline.name = some pipeline) :
      name.same pipeline.name = false := by
    rw [Bool.eq_false_iff]
    intro here
    simp [pipeline?_without_self config here] at found
  rw [sound_iff right]
  intro kept kept_found
  have apart := removed kept_found
  have found_before := kept_found
  rw [← same.pipeline kept.name apart] at found_before
  have unreached : ¬(ofConfiguration config).Leads name kept.name := by
    intro leads
    obtain ⟨next, feeds, _⟩ := Relation.TransGen.head'_iff.1 leads
    exact nobody next feeds
  refine same.stands left right apart found_before unreached ?_
    ((sound_iff left).1 sound kept found_before)
  intro material _ _ use used here
  have use_apart := removed (right.of_mem_usesAt used).1
  simp [here] at use_apart

/-- A pipeline that waits for a removed one does not pass its review, and one that waits for itself
never did. -/
theorem not_feeds_of_sound_without {config : Configuration} {name : Name}
    (before : (ofConfiguration config).Sound)
    (after : (ofConfiguration (config.without name)).Sound) (other : Name) :
    ¬(ofConfiguration config).Feeds name other := by
  have left := (mirrors_ofConfiguration config).consistent
  have right := (mirrors_ofConfiguration (config.without name)).consistent
  intro feeds
  have waits := left.feeds_iff.1 feeds
  obtain ⟨waiting, found, material, member, depends⟩ := left.waits_iff.1 waits
  have waiting_found := left.found_self found
  by_cases own : name.same waiting.name = true
  · have loop : (ofConfiguration config).dependencyView.Waits waiting.name waiting.name := by
      refine (left.waits_iff.2 ⟨waiting, waiting_found, material, member, depends⟩).congr_right own
    exact (before.settles left waiting.name).not_loop (.single loop)
  · have kept : (ofConfiguration (config.without name)).pipeline? waiting.name = some waiting := by
      rwa [← (sameBut_without config name).pipeline _ (by simpa using own)]
    have still_waits := right.waits_iff.2 ⟨waiting, kept, material, member, depends⟩
    have known := ((after.settles right waiting.name).of_waits still_waits).1
    rw [knows_dependencyView, pipeline?_without_self config (Name.same_self name)] at known
    simp at known

/-- In a configuration of distinct names whose pipelines all pass their reviews, let no environment
run a declared pipeline. It has a deletion check, and the check allows the deletion just when all
remaining pipelines pass their reviews in the configuration without it. -/
theorem deletionChecks_anticipate_removal {config : Configuration}
    (distinct : config.DistinctNames) (valid : config.AllValid) {declared : String × Pipeline}
    (member : declared ∈ config.declarations) (unlisted : config.Unlisted declared.2.name) :
    (∃ check ∈ (ofConfiguration config).deletionChecks,
      check.name.same declared.2.name = true) ∧
    ∀ check ∈ (ofConfiguration config).deletionChecks,
      check.name.same declared.2.name = true →
        (check.isAllowed = true ↔ (config.without declared.2.name).AllValid) := by
  have sound := (sound_ofConfiguration_iff distinct).2 valid
  have idle := environmentOf?_unlisted unlisted
  constructor
  · have written : (⟨declared.1, declared.2⟩ : Entry) ∈ config.writes := List.mem_map_of_mem member
    have committed := (mirrors_ofConfiguration config).entry declared.2.name
    rw [lastWrite?_of_mem distinct.writes written] at committed
    have known := (ofConfiguration config).isOn_names declared.2.name
    rw [pipeline?, committed] at known
    obtain ⟨spelled, listed, same⟩ := List.any_eq_true.1 known
    exact ⟨_, List.mem_map_of_mem listed, same⟩
  · intro check listed same
    obtain ⟨spelled, _, rfl⟩ := List.mem_map.1 listed
    have same : spelled.same declared.2.name = true := same
    have spelled_idle : (ofConfiguration config).environmentOf? spelled = none := by
      rw [← idle, environmentOf?, environmentOf?,
        Table.get?_congr _ (Name.compare_eq_iff_same.2 same)]
    rw [DeletionCheck.isAllowed, deletionBlock?_isNone_iff spelled_idle,
      ← sound_ofConfiguration_iff (distinct.without declared.2.name)]
    constructor
    · intro nobody
      exact sound.without fun other feeds => nobody other (feeds.congr_left (Name.same_symm same))
    · intro remaining other feeds
      exact not_feeds_of_sound_without sound remaining other (feeds.congr_left same)

end Deletion

/-- The pipelines of the two proposals, declared together. -/
def declaredTogether : Configuration :=
  { groups := [⟨"first", twoProposals.map Proposal.pipeline⟩] }

theorem settles_declaredTogether :
    ∀ pipeline ∈ twoProposals.map Proposal.pipeline,
      (ofConfiguration declaredTogether).dependencyView.Settles pipeline.name := by
  have idle : ∀ pipeline ∈ twoProposals.map Proposal.pipeline,
      ∀ upstream ∈ ((ofConfiguration declaredTogether).upstreamsOf pipeline.name).toList,
        (ofConfiguration declaredTogether).dependencyView.knows upstream = true ∧
          ((ofConfiguration declaredTogether).upstreamsOf upstream).toList = [] := by
    decide +kernel
  exact fun pipeline member =>
    DependencyView.settles_of_idle (idle pipeline member) (regular_dependencyView _)

theorem declaredTogether_distinct : declaredTogether.DistinctNames := by
  unfold Configuration.DistinctNames
  decide +kernel

theorem declaredTogether_allValid : declaredTogether.AllValid := by
  have consistent := (mirrors_ofConfiguration declaredTogether).consistent
  have passes : ∀ pipeline ∈ twoProposals.map Proposal.pipeline,
      pipeline.Passes (ofConfiguration declaredTogether) := by decide +kernel
  refine (sound_ofConfiguration_iff declaredTogether_distinct).1
    ((sound_iff consistent).2 fun pipeline found => ?_)
  have member : pipeline ∈ twoProposals.map Proposal.pipeline := by
    obtain ⟨group, entry⟩ := pipeline?_eq_some_iff.1 found
    have written := mem_of_lastWrite?
      (((mirrors_ofConfiguration declaredTogether).entry pipeline.name).symm.trans entry)
    exact List.mem_map_of_mem (f := Entry.pipeline) written
  exact (passes pipeline member).stands ((consistent.dependencyProblems_eq_nil_iff found).2
    (settles_declaredTogether pipeline member))

theorem allValid_without_deploy_not_build :
    (declaredTogether.without ⟨"deploy"⟩).AllValid ∧
      ¬(declaredTogether.without ⟨"build"⟩).AllValid := by
  have anticipated (check : DeletionCheck)
      (listed : check ∈ (ofConfiguration declaredTogether).deletionChecks)
      (named : ∃ declared ∈ declaredTogether.declarations, declared.2.name = check.name) :
      check.isAllowed = true ↔ (declaredTogether.without check.name).AllValid := by
    obtain ⟨declared, member, named⟩ := named
    have unlisted : declaredTogether.Unlisted declared.2.name := by
      intro environment listed
      simp [declaredTogether] at listed
    have checks := deletionChecks_anticipate_removal declaredTogether_distinct
      declaredTogether_allValid member unlisted
    rw [← named]
    exact checks.2 check listed (by rw [named, Name.same_self])
  have deploy := anticipated ⟨⟨"deploy"⟩, none⟩ (by decide +kernel) (by decide +kernel)
  have build := anticipated ⟨⟨"build"⟩, some (.downstream ⟨"deploy"⟩)⟩ (by decide +kernel)
    (by decide +kernel)
  refine ⟨deploy.1 rfl, fun valid => ?_⟩
  have allowed := build.2 valid
  simp [DeletionCheck.isAllowed] at allowed

end Catalog

end PipelineConfig
