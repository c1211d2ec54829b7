import PipelineConfig.Command.Output
import PipelineConfig.Proofs.Removal

/-!
# Declarations that shadow each other

Validation judges one declaration at a time and never compares their names, so a configuration may
be valid although several declarations go by one name. Then the configuration finds the first of
them and its catalog holds the last. The number of committed pipelines tells whether this happens.
-/

namespace PipelineConfig

namespace Configuration

/-- A configuration finds the first declaration of a name. -/
theorem find?_eq_firstWrite? (config : Configuration) (name : Name) :
    config.find? name =
      (firstWrite? config.writes name).map fun entry => (entry.group, entry.pipeline) := by
  rw [find?, firstWrite?, writes, List.find?_map, Option.map_map]
  exact (congrFun Option.map_id _).symm

theorem writes_length (config : Configuration) :
    config.writes.length = config.declarations.length := by
  rw [writes, List.length_map]

end Configuration

theorem Failure.ofVerdicts?_eq_none_iff {verdicts : List Verdict} :
    ofVerdicts? verdicts = none ↔ ∀ verdict ∈ verdicts, verdict.valid = true := by
  have counted : ofVerdicts? verdicts = none ↔
      (verdicts.filter fun verdict => !verdict.valid).length = 0 := by
    rw [ofVerdicts?]
    split
    · rename_i nothing
      exact iff_of_true rfl nothing
    · rename_i failed
      exact iff_of_false (by simp) failed
  rw [counted, List.length_eq_zero_iff, List.filter_eq_nil_iff]
  simp

/-- The validation of a whole configuration succeeds just when every template and every declared
pipeline is valid. -/
theorem Command.run_validate_eq_none_iff [Pattern.Engine] {config : Configuration}
    {format : ReportFormat} {verbose : Bool} :
    ((Command.validate none format).run verbose config).failure = none ↔
      (∀ template ∈ config.templates,
        (template.validate (.ofConfiguration config)).1 = true) ∧ config.AllValid := by
  have failure : ((Command.validate none format).run verbose config).failure =
      Failure.ofVerdicts? (config.templateVerdicts (.ofConfiguration config) ++
        config.pipelineVerdicts (.ofConfiguration config)) := by
    cases format <;> rfl
  rw [failure, Failure.ofVerdicts?_eq_none_iff, List.forall_mem_append]
  simp only [Configuration.templateVerdicts, Configuration.pipelineVerdicts, List.forall_mem_map]
  rfl

namespace Catalog

theorem Written.contains_iff {catalog : Catalog} {written : List Entry}
    (came : catalog.Written written) {name : Name} : catalog.contains name = true ↔
      ∃ entry ∈ written, entry.pipeline.name.same name = true := by
  rw [← isSome_lastWrite?_iff, ← came.mirrors.entry]
  rfl

/-- A catalog holds at most one pipeline per write, and one for each just when no name was written
twice. -/
theorem Written.size_eq_length_iff {catalog : Catalog} {written : List Entry}
    (came : catalog.Written written) :
    catalog.size ≤ written.length ∧
      (catalog.size = written.length ↔ DistinctWrites written) := by
  induction came with
  | start => exact ⟨Nat.zero_le 0, iff_of_true rfl .nil⟩
  | @insert catalog written before pipeline group ih =>
    obtain ⟨bounded, exact_iff⟩ := ih
    have grown : (catalog.insert pipeline group).size =
        if catalog.contains pipeline.name then catalog.size else catalog.size + 1 :=
      catalog.entries.size_insert pipeline.name ⟨group, pipeline⟩
    have distinct_iff : DistinctWrites (written ++ [⟨group, pipeline⟩]) ↔
        DistinctWrites written ∧ catalog.contains pipeline.name = false := by
      rw [Bool.eq_false_iff, ne_eq, before.contains_iff, DistinctWrites, List.pairwise_append]
      simp [DistinctWrites]
    rw [distinct_iff, ← exact_iff, grown, List.length_append, List.length_singleton]
    cases known : catalog.contains pipeline.name with
    | true =>
      simp
      omega
    | false =>
      simp
      omega
  | furnish _ _ _ ih => exact ih

/-- Nothing that is declared is shadowed: the catalog has a place for each declaration, and it finds
the same pipelines in the same groups as the configuration. -/
structure ShadowsNothing (config : Configuration) : Prop where
  /-- As many pipelines are committed as are declared. -/
  size : (ofConfiguration config).size = config.declarations.length
  /-- Every name leads to the same pipeline. -/
  pipelines : ∀ name, config.pipeline? name = (ofConfiguration config).pipeline? name
  /-- Every name leads to the same group. -/
  groups : ∀ name, config.groupOf? name = (ofConfiguration config).groupOf? name

theorem shadowsNothing_iff (config : Configuration) :
    ShadowsNothing config ↔ config.DistinctNames := by
  have came := written_ofConfiguration config
  have exact_iff := came.size_eq_length_iff.2.trans Configuration.distinctWrites_iff
  rw [config.writes_length] at exact_iff
  refine ⟨fun nothing => exact_iff.1 nothing.size, fun distinct => ?_⟩
  have found (name : Name) : config.find? name =
      (lastWrite? config.writes name).map fun entry => (entry.group, entry.pipeline) := by
    rw [config.find?_eq_firstWrite?, firstWrite?_eq_lastWrite? distinct.writes]
  refine ⟨exact_iff.2 distinct, fun name => ?_, fun name => ?_⟩
  · rw [Configuration.pipeline?, found, pipeline?, came.mirrors.entry]
    cases lastWrite? config.writes name <;> rfl
  · rw [Configuration.groupOf?, found, groupOf?, came.mirrors.entry]
    cases lastWrite? config.writes name <;> rfl

/-- The validation of a configuration succeeds just when every template and every declaration is
valid, whatever the declarations are called. Of several declarations of a name the configuration
finds the first and its catalog the last, so nothing is shadowed just when no name is declared
twice. -/
theorem declarations_found [Pattern.Engine] (config : Configuration) :
    (∀ format verbose, ((Command.validate none format).run verbose config).failure = none ↔
      (∀ template ∈ config.templates,
        (template.validate (.ofConfiguration config)).1 = true) ∧ config.AllValid) ∧
    (∀ name, config.find? name =
      (firstWrite? config.writes name).map fun entry => (entry.group, entry.pipeline)) ∧
    (∀ name, entry? (ofConfiguration config) name = lastWrite? config.writes name) ∧
    (ofConfiguration config).size ≤ config.declarations.length ∧
    ((ofConfiguration config).size = config.declarations.length ↔ config.DistinctNames) ∧
    (ShadowsNothing config ↔ config.DistinctNames) := by
  have came := written_ofConfiguration config
  obtain ⟨bounded, exact_iff⟩ := came.size_eq_length_iff
  rw [config.writes_length] at bounded exact_iff
  exact ⟨fun _ _ => Command.run_validate_eq_none_iff, config.find?_eq_firstWrite?,
    came.mirrors.entry, bounded, exact_iff.trans Configuration.distinctWrites_iff,
    shadowsNothing_iff config⟩

/-! ## A valid configuration with a shadowed declaration -/

/-- A pipeline of one stage that runs a command. -/
def running (name : Name) (command : String) : Pipeline :=
  { name
    stages := [⟨⟨"run"⟩, [⟨⟨"all"⟩, [⟨.exec command [] none, .none⟩], .none⟩], .none⟩] }

/-- Two groups that declare a pipeline of one name, each in its own spelling. -/
def shadowing : Configuration :=
  { groups := [⟨"first", [running ⟨"build"⟩ "make"]⟩, ⟨"second", [running ⟨"Build"⟩ "cargo"]⟩] }

theorem allValid_shadowing : shadowing.AllValid := by
  have checked : ∀ declared ∈ shadowing.declarations,
      declared.2.Passes (ofConfiguration shadowing) ∧ declared.2.upstreams.toList = [] ∧
        ((ofConfiguration shadowing).downstreamsOf declared.2.name).toList = [] := by
    decide +kernel
  intro declared member
  obtain ⟨passes, idle, unawaited⟩ := checked declared member
  rw [Pipeline.validate_fst, passes.isClean_review idle unawaited]

/-- Validation accepts a configuration in which one declaration shadows another. -/
theorem run_validate_shadowing :
    ((Command.validate none .text).run false shadowing).failure = none ∧
    ¬shadowing.DistinctNames ∧ ¬ShadowsNothing shadowing ∧
    (shadowing.pipeline? ⟨"build"⟩).map Pipeline.name = some ⟨"build"⟩ ∧
    ((ofConfiguration shadowing).pipeline? ⟨"build"⟩).map Pipeline.name = some ⟨"Build"⟩ ∧
    shadowing.groupOf? ⟨"build"⟩ = some "first" ∧
    (ofConfiguration shadowing).groupOf? ⟨"build"⟩ = some "second" ∧
    (ofConfiguration shadowing).size = 1 ∧ shadowing.declarations.length = 2 := by
  have templates : ∀ template ∈ shadowing.templates,
      (template.validate (ofConfiguration shadowing)).1 = true :=
    fun template listed => absurd listed List.not_mem_nil
  have repeated : ¬shadowing.DistinctNames := by
    unfold Configuration.DistinctNames
    decide +kernel
  refine ⟨Command.run_validate_eq_none_iff.2 ⟨templates, allValid_shadowing⟩, repeated,
    fun nothing => repeated ((shadowsNothing_iff shadowing).1 nothing), ?_⟩
  decide +kernel

end Catalog

end PipelineConfig
