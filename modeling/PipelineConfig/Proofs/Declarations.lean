import PipelineConfig.Proofs.History

/-!
# First and last declarations of a name

Several writes may go by one name. A catalog answers with the last of them and a configuration with
the first, so the two can part. Where no two declarations share a name, both find whatever is
declared.
-/

namespace PipelineConfig

/-- The first of the written entries that goes by a name. -/
def firstWrite? (written : List Entry) (name : Name) : Option Entry :=
  written.find? fun entry => entry.pipeline.name.same name

section Writes

variable {written : List Entry} {name : Name}

theorem firstWrite?_append_singleton (written : List Entry) (entry : Entry) (name : Name) :
    firstWrite? (written ++ [entry]) name =
      (firstWrite? written name).or
        (if entry.pipeline.name.same name then some entry else none) := by
  rw [firstWrite?, List.find?_append, firstWrite?, List.find?_singleton]

theorem lastWrite?_reverse (written : List Entry) (name : Name) :
    lastWrite? written.reverse name = firstWrite? written name := by
  rw [lastWrite?, List.reverse_reverse, firstWrite?]

theorem isSome_lastWrite?_iff : (lastWrite? written name).isSome = true ↔
    ∃ entry ∈ written, entry.pipeline.name.same name = true := by
  simp [lastWrite?]

theorem same_of_lastWrite? {entry : Entry} (found : lastWrite? written name = some entry) :
    entry.pipeline.name.same name = true := by
  rw [lastWrite?] at found
  simpa using List.find?_some found

theorem mem_of_lastWrite? {entry : Entry} (found : lastWrite? written name = some entry) :
    entry ∈ written :=
  List.mem_reverse.1 (List.mem_of_find?_eq_some found)

theorem lastWrite?_congr (written : List Entry) {left right : Name}
    (same : left.same right = true) : lastWrite? written left = lastWrite? written right := by
  simp only [lastWrite?, Name.same_congr_right _ same]

/-- No two written entries go by one name. -/
def DistinctWrites (written : List Entry) : Prop :=
  written.Pairwise fun left right => left.pipeline.name.same right.pipeline.name = false

theorem DistinctWrites.reverse (distinct : DistinctWrites written) :
    DistinctWrites written.reverse := by
  rw [DistinctWrites, List.pairwise_reverse]
  exact distinct.imp fun apart => by rwa [Name.same_comm]

/-- Among entries of distinct names, each is the last write of its name. -/
theorem lastWrite?_of_mem {entry : Entry} (distinct : DistinctWrites written)
    (member : entry ∈ written) : lastWrite? written entry.pipeline.name = some entry := by
  induction written using List.reverseRecOn with
  | nil => simp at member
  | append_singleton before last ih =>
    obtain ⟨distinct_before, -, across⟩ := List.pairwise_append.1 distinct
    rw [lastWrite?_append_singleton]
    rcases List.mem_append.1 member with earlier | here
    · have apart := across entry earlier last (List.mem_singleton_self last)
      rw [Name.same_comm, apart, if_neg Bool.false_ne_true, ih distinct_before earlier]
    · obtain rfl := List.mem_singleton.1 here
      rw [Name.same_self, if_pos rfl]

theorem lastWrite?_eq_some_iff (distinct : DistinctWrites written) {entry : Entry} :
    lastWrite? written name = some entry ↔
      entry ∈ written ∧ entry.pipeline.name.same name = true := by
  constructor
  · exact fun found => ⟨mem_of_lastWrite? found, same_of_lastWrite? found⟩
  · rintro ⟨member, same⟩
    rw [← lastWrite?_congr written same, lastWrite?_of_mem distinct member]

/-- Entries of distinct names are found from both ends. -/
theorem firstWrite?_eq_lastWrite? (distinct : DistinctWrites written) (name : Name) :
    firstWrite? written name = lastWrite? written name := by
  ext entry
  rw [← lastWrite?_reverse, lastWrite?_eq_some_iff distinct.reverse,
    lastWrite?_eq_some_iff distinct, List.mem_reverse]

/-- The pipelines that distinct writes lead to do not depend on order and groups. -/
theorem lastWrite?_pipeline_eq_some_iff (distinct : DistinctWrites written) {pipeline : Pipeline} :
    (lastWrite? written name).map Entry.pipeline = some pipeline ↔
      pipeline ∈ written.map Entry.pipeline ∧ pipeline.name.same name = true := by
  simp only [Option.map_eq_some_iff, lastWrite?_eq_some_iff distinct, List.mem_map]
  constructor
  · rintro ⟨entry, ⟨member, same⟩, rfl⟩
    exact ⟨⟨entry, member, rfl⟩, same⟩
  · rintro ⟨⟨entry, member, rfl⟩, same⟩
    exact ⟨entry, ⟨member, same⟩, rfl⟩

end Writes

namespace Configuration

/-- No two declared pipelines go by one name. -/
def DistinctNames (config : Configuration) : Prop :=
  config.declarations.Pairwise fun left right => left.2.name.same right.2.name = false

theorem distinctWrites_iff {config : Configuration} :
    DistinctWrites config.writes ↔ config.DistinctNames := by
  rw [DistinctWrites, writes, List.pairwise_map, DistinctNames]

theorem DistinctNames.writes {config : Configuration} (distinct : config.DistinctNames) :
    DistinctWrites config.writes :=
  distinctWrites_iff.2 distinct

theorem map_pipeline_writes (config : Configuration) :
    config.writes.map Entry.pipeline = config.declarations.map Prod.snd := by
  rw [writes, List.map_map]
  rfl

section Rearrangement

variable {left right : Configuration}

theorem DistinctNames.perm (distinct : left.DistinctNames)
    (rearranged : (left.declarations.map Prod.snd).Perm (right.declarations.map Prod.snd)) :
    right.DistinctNames := by
  have names (config : Configuration) : config.DistinctNames ↔
      (config.declarations.map Prod.snd).Pairwise
        fun left right => left.name.same right.name = false := by
    rw [DistinctNames, List.pairwise_map]
  rw [names] at distinct ⊢
  exact rearranged.pairwise distinct fun apart => by rwa [Name.same_comm]

/-- Declarations of distinct names lead every name to the same pipeline in any order and in any
groups. -/
theorem DistinctNames.lastWrite?_rearranged (distinct : left.DistinctNames)
    (rearranged : (left.declarations.map Prod.snd).Perm (right.declarations.map Prod.snd))
    (name : Name) : (lastWrite? left.writes name).map Entry.pipeline =
      (lastWrite? right.writes name).map Entry.pipeline := by
  ext pipeline
  rw [lastWrite?_pipeline_eq_some_iff distinct.writes,
    lastWrite?_pipeline_eq_some_iff (distinct.perm rearranged).writes, map_pipeline_writes,
    map_pipeline_writes, rearranged.mem_iff]

end Rearrangement

end Configuration

namespace Catalog

/-- A declared pipeline is committed, and nothing else is. -/
theorem mem_values_ofConfiguration {config : Configuration} (distinct : config.DistinctNames)
    {entry : Entry} : entry ∈ (ofConfiguration config).entries.values ↔ entry ∈ config.writes := by
  have mirrors := mirrors_ofConfiguration config
  rw [Table.mem_values_iff]
  constructor
  · rintro ⟨name, found⟩
    have written : lastWrite? config.writes name = some entry :=
      (mirrors.entry name).symm.trans found
    exact mem_of_lastWrite? written
  · intro member
    exact ⟨entry.pipeline.name, (mirrors.entry _).trans (lastWrite?_of_mem distinct.writes member)⟩

end Catalog

end PipelineConfig
