import Mathlib.Data.List.Induction
import PipelineConfig.Proofs.Insertion
import PipelineConfig.Service

/-!
# The tables of a catalog and the history of its writes

Every operation writes some pipelines, and the last write of a name counts. All tables of a catalog
answer from these last writes alone, however the catalog came about: after replacements, after
edits that were refused, and after pipelines that were written again under other materials,
another group or another spelling.
-/

namespace PipelineConfig

/-- The last of the written entries that goes by a name. -/
def lastWrite? (written : List Entry) (name : Name) : Option Entry :=
  written.reverse.find? fun entry => entry.pipeline.name.same name

theorem lastWrite?_append_singleton (written : List Entry) (entry : Entry) (name : Name) :
    lastWrite? (written ++ [entry]) name =
      if entry.pipeline.name.same name then some entry else lastWrite? written name := by
  simp only [lastWrite?, List.reverse_append, List.reverse_singleton, List.singleton_append,
    List.find?_cons]
  split <;> simp_all

/-- What a configuration writes: its declarations in their order. -/
def Configuration.writes (config : Configuration) : List Entry :=
  config.declarations.map fun (group, pipeline) => ⟨group, pipeline⟩

section Writes

variable [Pattern.Engine]

/-- What was written before an operation and still counts, and what the operation writes. A
replacement voids all earlier writes, and a refused proposal writes nothing. -/
def Operation.writes (catalog : Catalog) (written : List Entry) : Operation → List Entry
  | replace config => config.writes
  | record pipeline group => written ++ [⟨group, pipeline⟩]
  | propose proposal =>
    match catalog.propose proposal with
    | ⟨_, saved, none⟩ => written ++ [⟨proposal.group, saved⟩]
    | ⟨_, _, some _⟩ => written

/-- The writes that count after a sequence of operations. -/
def writesAfter (catalog : Catalog) (written : List Entry) : List Operation → List Entry
  | [] => written
  | operation :: rest =>
    writesAfter (catalog.perform operation) (operation.writes catalog written) rest

/-- The writes of a whole history, from the start on. -/
def writesOf (config : Option Configuration) (operations : List Operation) : List Entry :=
  writesAfter (Catalog.initial config) ((config.map Configuration.writes).getD []) operations

end Writes

namespace Catalog

/-- A catalog mirrors what is committed when each of its tables answers from that alone. -/
structure Mirrors (catalog : Catalog) (committed : Name → Option Entry) : Prop where
  /-- The committed pipeline is found by its name. -/
  entry : ∀ name, catalog.entry? name = committed name
  /-- A pipeline is committed under its own name. -/
  named : ∀ name entry, committed name = some entry → entry.pipeline.name.same name = true
  /-- A pipeline waits for what its dependency materials name. -/
  upstreams : ∀ name, catalog.upstreamsOf name =
    ((committed name).map fun entry => entry.pipeline.upstreams).getD ∅
  /-- A pipeline is downstream of what it waits for, and of nothing else. -/
  downstreams : ∀ upstream name, (catalog.downstreamsOf upstream).has name =
    (committed name).any fun entry => entry.pipeline.upstreams.has upstream
  /-- A pipeline uses the sources of its materials, once per material. -/
  uses : ∀ fingerprint name,
    ((catalog.usesAt fingerprint).filter fun use => use.pipeline.name.same name) =
      (((committed name).map fun entry => usesOf entry.pipeline).getD []).filter
        fun use => use.material.fingerprint = fingerprint
  /-- No source is listed without a use. -/
  busy : NoIdleSource catalog.uses

theorem mirrors_empty (security : Security) : Mirrors { security } fun _ => none where
  entry _ := rfl
  named _ _ absent := by simp at absent
  upstreams _ := rfl
  downstreams _ _ := rfl
  uses _ _ := rfl
  busy _ := by simp

namespace Mirrors

variable {catalog : Catalog} {committed : Name → Option Entry}

/-- The downstream table is the upstream table turned around. -/
theorem has_downstreamsOf (mirrors : catalog.Mirrors committed) (upstream name : Name) :
    (catalog.downstreamsOf upstream).has name = (catalog.upstreamsOf name).has upstream := by
  rw [mirrors.downstreams, mirrors.upstreams]
  cases committed name <;> rfl

theorem has_downstreams_insert (mirrors : catalog.Mirrors committed) (pipeline : Pipeline)
    (group : String) (upstream name : Name) :
    ((catalog.insert pipeline group).downstreamsOf upstream).has name =
      if pipeline.name.same name then pipeline.upstreams.has upstream
      else (catalog.downstreamsOf upstream).has name := by
  split
  · rename_i here
    rw [← NameSet.has_eq_of_same _ here, has_downstreamsOf_insert_self,
      mirrors.has_downstreamsOf]
    simp
  · rename_i apart
    have kept := congrArg (List.any · fun member => member.same name)
      (filter_downstreamsOf_insert catalog pipeline group upstream)
    simpa only [List.any_filter, Bool.and_comm, Name.same_and_not_same apart,
      ← NameSet.has_eq_any] using kept

/-- A pipeline is among the uses of a source only if the source is one of its stale materials. -/
theorem filter_usesAt_of_fresh (mirrors : catalog.Mirrors committed) {fingerprint : String}
    {name : Name}
    (fresh : ¬∃ material ∈ catalog.staleMaterials name, material.fingerprint = fingerprint) :
    ((catalog.usesAt fingerprint).filter fun use => use.pipeline.name.same name) = [] := by
  rw [mirrors.uses]
  cases found : committed name with
  | none => rfl
  | some former =>
    have stale : catalog.staleMaterials name = former.pipeline.materials.items := by
      rw [staleMaterials, pipeline?, mirrors.entry, found]
      rfl
    rw [stale] at fresh
    rw [List.filter_eq_nil_iff]
    intro use member
    obtain ⟨position, bound, rfl⟩ := List.mem_mapIdx.1 member
    simpa using fun held => fresh ⟨_, List.getElem_mem bound, held⟩

theorem filter_usesAt_insert_self (mirrors : catalog.Mirrors committed) (pipeline : Pipeline)
    (group fingerprint : String) :
    (((catalog.insert pipeline group).usesAt fingerprint).filter
        fun use => use.pipeline.name.same pipeline.name) =
      (usesOf pipeline).filter fun use => use.material.fingerprint = fingerprint := by
  have own : (((usesOf pipeline).filter fun use => use.material.fingerprint = fingerprint).filter
      fun use => use.pipeline.name.same pipeline.name) =
        (usesOf pipeline).filter fun use => use.material.fingerprint = fingerprint := by
    rw [List.filter_eq_self]
    intro use member
    rw [pipeline_of_mem_usesOf (List.mem_filter.1 member).1, Name.same_self]
  rw [usesAt_insert, List.filter_append, own]
  split
  · simp [List.filter_filter]
  · rename_i fresh
    rw [mirrors.filter_usesAt_of_fresh fresh, List.nil_append]

theorem filter_usesAt_insert (mirrors : catalog.Mirrors committed) (pipeline : Pipeline)
    (group fingerprint : String) (name : Name) :
    (((catalog.insert pipeline group).usesAt fingerprint).filter
        fun use => use.pipeline.name.same name) =
      if pipeline.name.same name then
        (usesOf pipeline).filter fun use => use.material.fingerprint = fingerprint
      else (catalog.usesAt fingerprint).filter fun use => use.pipeline.name.same name := by
  split
  · rename_i here
    simp only [← Name.same_congr_right _ here]
    exact mirrors.filter_usesAt_insert_self pipeline group fingerprint
  · rename_i apart
    have kept := congrArg (List.filter fun use => use.pipeline.name.same name)
      (Catalog.filter_usesAt_insert catalog pipeline group fingerprint)
    simpa only [List.filter_filter, Name.same_and_not_same apart] using kept

/-- An insertion is a write. -/
theorem insert (mirrors : catalog.Mirrors committed) (pipeline : Pipeline) (group : String) :
    (catalog.insert pipeline group).Mirrors fun name =>
      if pipeline.name.same name then some ⟨group, pipeline⟩ else committed name where
  entry name := by rw [entry?_insert, mirrors.entry]
  named name entry found := by
    split at found
    · rename_i here
      obtain rfl := Option.some.inj found
      exact here
    · exact mirrors.named name entry found
  upstreams name := by
    rw [upstreamsOf_insert, mirrors.upstreams]
    split <;> rfl
  downstreams upstream name := by
    rw [mirrors.has_downstreams_insert, mirrors.downstreams]
    split <;> rfl
  uses fingerprint name := by
    rw [mirrors.filter_usesAt_insert, mirrors.uses]
    split <;> rfl
  busy := noIdleSource_insert mirrors.busy pipeline group

theorem insert_lastWrite {written : List Entry} (mirrors : catalog.Mirrors (lastWrite? written))
    (pipeline : Pipeline) (group : String) :
    (catalog.insert pipeline group).Mirrors (lastWrite? (written ++ [⟨group, pipeline⟩])) := by
  have same : lastWrite? (written ++ [⟨group, pipeline⟩]) = fun name =>
      if pipeline.name.same name then some ⟨group, pipeline⟩ else lastWrite? written name := by
    funext name
    exact lastWrite?_append_singleton written ⟨group, pipeline⟩ name
  rw [same]
  exact mirrors.insert pipeline group

end Mirrors

/-! ## Catalogs and what was written into them -/

/-- Commit several entries one after the other. -/
def insertAll (catalog : Catalog) (entries : List Entry) : Catalog :=
  entries.foldl (fun catalog entry => catalog.insert entry.pipeline entry.group) catalog

theorem templates_insertAll (catalog : Catalog) (entries : List Entry) :
    (catalog.insertAll entries).templates = catalog.templates := by
  induction entries generalizing catalog with
  | nil => rfl
  | cons entry rest ih => exact ih (catalog.insert entry.pipeline entry.group)

theorem environments_insertAll (catalog : Catalog) (entries : List Entry) :
    (catalog.insertAll entries).environments = catalog.environments := by
  induction entries generalizing catalog with
  | nil => rfl
  | cons entry rest ih => exact ih (catalog.insert entry.pipeline entry.group)

/-- A catalog came about by writing some entries, oldest first. Templates and environments may be
set at any time between two writes. -/
inductive Written : Catalog → List Entry → Prop where
  /-- Nothing is written yet. -/
  | start (security : Security) : Written { security } []
  /-- One more entry is written. -/
  | insert {catalog : Catalog} {written : List Entry} (before : Written catalog written)
      (pipeline : Pipeline) (group : String) :
      Written (catalog.insert pipeline group) (written ++ [⟨group, pipeline⟩])
  /-- Templates and environments are set. -/
  | furnish {catalog : Catalog} {written : List Entry} (before : Written catalog written)
      (templates : Table Name Template) (environments : Table Name String) :
      Written { catalog with templates, environments } written

namespace Written

variable {catalog : Catalog} {written : List Entry}

/-- The tables look at neither templates nor environments. -/
theorem mirrors (came : catalog.Written written) : catalog.Mirrors (lastWrite? written) := by
  induction came with
  | start security =>
    have nothing : lastWrite? [] = fun _ => none := rfl
    exact nothing ▸ mirrors_empty security
  | insert _ pipeline group ih => exact ih.insert_lastWrite pipeline group
  | furnish _ templates environments ih =>
    exact ⟨ih.entry, ih.named, ih.upstreams, ih.downstreams, ih.uses, ih.busy⟩

theorem insertAll (came : catalog.Written written) (entries : List Entry) :
    (catalog.insertAll entries).Written (written ++ entries) := by
  induction entries generalizing catalog written with
  | nil => simpa [Catalog.insertAll] using came
  | cons entry rest ih =>
    have both := ih (came.insert entry.pipeline entry.group)
    rwa [List.append_assoc] at both

end Written

theorem written_ofConfiguration (config : Configuration) :
    (ofConfiguration config).Written config.writes := by
  have declared := (Written.start config.security).insertAll config.writes
  rw [insertAll, Configuration.writes, List.foldl_map] at declared
  exact declared.furnish _ _

theorem written_initial (config : Option Configuration) :
    (initial config).Written ((config.map Configuration.writes).getD []) := by
  cases config with
  | none => exact .start {}
  | some config => exact written_ofConfiguration config

section Operations

variable [Pattern.Engine]

theorem Written.commit {catalog : Catalog} {written : List Entry}
    (came : catalog.Written written) (pipeline : Pipeline) (group : String) :
    (catalog.commit pipeline group).catalog.Written
      (match catalog.commit pipeline group with
        | ⟨_, saved, none⟩ => written ++ [⟨group, saved⟩]
        | ⟨_, _, some _⟩ => written) := by
  rw [Catalog.commit]
  split
  · exact came.insert _ group
  · exact came

/-- Every operation writes what it is said to write. -/
theorem Written.perform {catalog : Catalog} {written : List Entry}
    (came : catalog.Written written) (operation : Operation) :
    (catalog.perform operation).Written (operation.writes catalog written) := by
  cases operation with
  | replace config => exact written_ofConfiguration config
  | record pipeline group => exact came.insert pipeline group
  | propose proposal =>
    cases proposal with
    | create pipeline group =>
      simp only [Catalog.perform, Operation.writes, propose, create, Proposal.group]
      split
      · exact came
      · exact came.commit pipeline group
    | update pipeline group =>
      simp only [Catalog.perform, Operation.writes, propose, update, Proposal.group]
      split
      · exact came.commit pipeline group
      · exact came

theorem Written.performAll {catalog : Catalog} {written : List Entry}
    (came : catalog.Written written) (operations : List Operation) :
    (catalog.performAll operations).Written (writesAfter catalog written operations) := by
  induction operations generalizing catalog written with
  | nil => exact came
  | cons operation rest ih => exact ih (came.perform operation)

end Operations

theorem mirrors_ofConfiguration (config : Configuration) :
    (ofConfiguration config).Mirrors (lastWrite? config.writes) :=
  (written_ofConfiguration config).mirrors

/-- After any history the tables mirror the last writes. -/
theorem mirrors_writesOf [Pattern.Engine] (config : Option Configuration)
    (operations : List Operation) :
    ((initial config).performAll operations).Mirrors (lastWrite? (writesOf config operations)) :=
  ((written_initial config).performAll operations).mirrors

/-- The tables of a catalog follow from its entries. -/
def Consistent (catalog : Catalog) : Prop := catalog.Mirrors catalog.entry?

theorem Mirrors.consistent {catalog : Catalog} {committed : Name → Option Entry}
    (mirrors : catalog.Mirrors committed) : catalog.Consistent := by
  rwa [Consistent, funext mirrors.entry]

theorem Reachable.consistent [Pattern.Engine] {catalog : Catalog} (reachable : catalog.Reachable) :
    catalog.Consistent := by
  obtain ⟨config, operations, rfl⟩ := reachable
  exact (mirrors_writesOf config operations).consistent

/-! ## Every table, look-up by look-up -/

namespace Mirrors

variable {catalog : Catalog} {committed : Name → Option Entry}

/-- A use speaks of a committed pipeline and of the material at its place. -/
theorem of_mem_usesAt (mirrors : catalog.Mirrors committed) {fingerprint : String} {use : Use}
    (member : use ∈ catalog.usesAt fingerprint) :
    (∃ group, committed use.pipeline.name = some ⟨group, use.pipeline⟩) ∧
      use.pipeline.materials.items[use.position]? = some use.material ∧
        use.material.fingerprint = fingerprint := by
  have own : use ∈ (catalog.usesAt fingerprint).filter
      fun other => other.pipeline.name.same use.pipeline.name :=
    List.mem_filter.2 ⟨member, Name.same_self _⟩
  rw [mirrors.uses, List.mem_filter] at own
  obtain ⟨declared, source⟩ := own
  cases found : committed use.pipeline.name with
  | none => simp [found] at declared
  | some entry =>
    simp only [found, Option.map_some, Option.getD_some] at declared
    have owner := pipeline_of_mem_usesOf declared
    obtain ⟨position, bound, rfl⟩ := List.mem_mapIdx.1 declared
    obtain ⟨group, pipeline⟩ := entry
    exact ⟨⟨group, rfl⟩, List.getElem?_eq_getElem bound, by simpa using source⟩

end Mirrors

end Catalog

end PipelineConfig
