import PipelineConfig.Proofs.Rearrangement

/-!
# Updated and rebuilt catalogs

A catalog that was updated write by write answers as one that is built at once from the last
versions: every look-up, every review and every reason against a deletion is the same. What it lists
is the same up to case. The spellings agree just when every name ended in the spelling that it was
first written in, because a listed name keeps its first spelling through all updates.
-/

namespace PipelineConfig

/-- A configuration declares the last version of every pipeline that was written, and no other
pipelines. -/
structure Configuration.HoldsLast (config : Configuration) (written : List Entry) : Prop where
  /-- No name is declared twice. -/
  distinct : config.DistinctNames
  /-- The declared pipelines are the last versions. -/
  declared : ∀ pipeline, pipeline ∈ config.declarations.map Prod.snd ↔
    ∃ name, (lastWrite? written name).map Entry.pipeline = some pipeline

/-- Every name was last written in the spelling in which it was first written. -/
def KeepsSpelling (written : List Entry) : Prop :=
  ∀ name, (firstWrite? written name).map (fun entry => entry.pipeline.name) =
    (lastWrite? written name).map fun entry => entry.pipeline.name

namespace Configuration.HoldsLast

variable {config : Configuration} {written : List Entry}

theorem lastWrite?_eq (holds : config.HoldsLast written) (name : Name) :
    (lastWrite? config.writes name).map Entry.pipeline =
      (lastWrite? written name).map Entry.pipeline := by
  ext pipeline
  rw [lastWrite?_pipeline_eq_some_iff holds.distinct.writes, map_pipeline_writes,
    holds.declared]
  constructor
  · rintro ⟨⟨other, found⟩, same⟩
    obtain ⟨entry, last, rfl⟩ := Option.map_eq_some_iff.1 found
    have goes_by := Name.same_trans (Name.same_symm (same_of_lastWrite? last)) same
    rw [← lastWrite?_congr written goes_by, found]
  · intro found
    obtain ⟨entry, last, rfl⟩ := Option.map_eq_some_iff.1 found
    exact ⟨⟨name, found⟩, same_of_lastWrite? last⟩

theorem firstWrite?_eq (holds : config.HoldsLast written) (name : Name) :
    (firstWrite? config.writes name).map (fun entry => entry.pipeline.name) =
      (lastWrite? written name).map fun entry => entry.pipeline.name := by
  rw [firstWrite?_eq_lastWrite? holds.distinct.writes]
  simpa only [Option.map_map, Function.comp_def] using
    congrArg (Option.map Pipeline.name) (holds.lastWrite?_eq name)

end Configuration.HoldsLast

/-- A configuration with nothing but the new version of a pipeline holds the last version. -/
theorem Configuration.holdsLast_renewed (group moved declared : String) {before after : Pipeline}
    (same : before.name.same after.name = true) :
    Configuration.HoldsLast { groups := [⟨declared, [after]⟩] }
      [⟨group, before⟩, ⟨moved, after⟩] := by
  have last (name : Name) : lastWrite? [⟨group, before⟩, ⟨moved, after⟩] name =
      if after.name.same name then some ⟨moved, after⟩ else none := by
    have first := lastWrite?_append_singleton [] ⟨group, before⟩ name
    have second := lastWrite?_append_singleton [⟨group, before⟩] ⟨moved, after⟩ name
    rw [List.singleton_append] at second
    rw [second, ← List.nil_append [_], first, ← Name.same_congr_left name same]
    split <;> rfl
  refine ⟨List.pairwise_singleton _ _, fun pipeline => ?_⟩
  have listed : pipeline ∈ (Configuration.declarations
      { groups := [⟨declared, [after]⟩] }).map Prod.snd ↔ pipeline = after := List.mem_singleton
  rw [listed]
  constructor
  · rintro rfl
    exact ⟨pipeline.name, by rw [last, Name.same_self, if_pos rfl]; rfl⟩
  · rintro ⟨name, found⟩
    rw [last] at found
    split at found
    · simpa using found.symm
    · simp at found

namespace Catalog

theorem pairwise_key_names (catalog : Catalog) :
    (catalog.names.map Name.key).Pairwise fun left right => compare left right = .lt :=
  List.pairwise_map.2 catalog.entries.pairwise_keys

/-- Catalogs with the same pipelines list the same names up to case. -/
theorem AnswerAlike.map_key_names {left right : Catalog} (alike : left.AnswerAlike right) :
    left.names.map Name.key = right.names.map Name.key := by
  have listed (catalog : Catalog) (key : List UInt8) : key ∈ catalog.names.map Name.key ↔
      ∃ name, name.key = key ∧ (catalog.pipeline? name).isSome = true := by
    simp only [← isOn_names, DependencyView.isOn, List.any_eq_true, List.mem_map, Name.same_iff]
    constructor
    · rintro ⟨name, member, rfl⟩
      exact ⟨name, rfl, name, member, rfl⟩
    · rintro ⟨name, rfl, member, listed, same⟩
      exact ⟨member, listed, same⟩
  refine Table.eq_of_mem_iff left.pairwise_key_names right.pairwise_key_names fun key => ?_
  rw [listed, listed]
  simp only [alike.pipeline]

end Catalog

namespace DependencyGraph

theorem prefix_foldl_addNode (added names : List Name) :
    names <+: added.foldl addNode names := by
  induction added generalizing names with
  | nil => exact List.prefix_refl names
  | cons name rest ih =>
    have step : names <+: addNode names name := by
      rw [addNode]
      split
      · exact List.prefix_refl names
      · exact List.prefix_append names [name]
    exact step.trans (ih _)

/-- The nodes of a graph begin with the committed pipelines as they are listed. -/
theorem take_nodesOf (catalog : Catalog) :
    (nodesOf catalog).take catalog.names.length = catalog.names :=
  (List.prefix_iff_eq_take.1 (prefix_foldl_addNode _ catalog.names)).symm

theorem names_ofCatalog_eq_iff {left right : Catalog} (alike : left.AnswerAlike right) :
    (ofCatalog left).names = (ofCatalog right).names ↔ left.names = right.names := by
  constructor
  · intro nodes
    have length : left.names.length = right.names.length := by
      simpa using congrArg List.length alike.map_key_names
    have nodes : nodesOf left = nodesOf right := nodes
    rw [← take_nodesOf left, ← take_nodesOf right, nodes, length]
  · intro names
    rw [alike.ofCatalog_eq names]

end DependencyGraph

namespace Catalog

/-- After any updates a catalog finds what the rebuilt one finds, and lists the same names up to
case, each as it was first written. It shows the same names, in its list, in the graph and in the
deletion checks, just when all names kept the spelling of their first write; then the drawings of
the graph are the same, too. -/
theorem shown_as_rebuilt_iff {config latest : Configuration} {later : List Entry}
    (holds : latest.HoldsLast (config.writes ++ later))
    (templates : latest.templates = config.templates)
    (environments : latest.environments = config.environments) :
    let updated := (ofConfiguration config).insertAll later
    let rebuilt := ofConfiguration latest
    let keeps := KeepsSpelling (config.writes ++ later)
    (∀ name, updated.pipeline? name = rebuilt.pipeline? name ∧
      updated.deletionBlock? name = rebuilt.deletionBlock? name) ∧
    updated.names.map Name.key = rebuilt.names.map Name.key ∧
    (∀ name, name ∈ updated.names ↔
      ∃ first, firstWrite? (config.writes ++ later) name = some first ∧
        first.pipeline.name = name) ∧
    (updated.names = rebuilt.names ↔ keeps) ∧
    ((DependencyGraph.ofCatalog updated).names = (DependencyGraph.ofCatalog rebuilt).names ↔
      keeps) ∧
    (updated.deletionChecks = rebuilt.deletionChecks ↔ keeps) ∧
    (keeps →
      (DependencyGraph.ofCatalog updated).orderedNames =
        (DependencyGraph.ofCatalog rebuilt).orderedNames ∧
      (DependencyGraph.ofCatalog updated).text = (DependencyGraph.ofCatalog rebuilt).text ∧
      (DependencyGraph.ofCatalog updated).mermaid =
        (DependencyGraph.ofCatalog rebuilt).mermaid ∧
      (DependencyGraph.ofCatalog updated).dot = (DependencyGraph.ofCatalog rebuilt).dot) := by
  intro updated rebuilt keeps
  have updated_came : updated.Written (config.writes ++ later) :=
    (written_ofConfiguration config).insertAll later
  have rebuilt_came : rebuilt.Written latest.writes := written_ofConfiguration latest
  have alike : updated.AnswerAlike rebuilt := by
    refine updated_came.answerAlike rebuilt_came (fun name => (holds.lastWrite?_eq name).symm)
      ?templates ?environments
    case templates =>
      rw [templates_insertAll]
      simp only [rebuilt, ofConfiguration, templates]
    case environments =>
      rw [environments_insertAll]
      simp only [rebuilt, ofConfiguration, environments]
  have names : updated.names = rebuilt.names ↔ keeps := by
    rw [updated_came.names_eq_iff rebuilt_came]
    simp only [holds.firstWrite?_eq]
    rfl
  refine ⟨fun name => ⟨alike.pipeline name, alike.deletionBlock?_eq name⟩, alike.map_key_names,
    fun name => updated_came.mem_names_iff, names, ?_, ?_, fun kept => ?_⟩
  · rw [DependencyGraph.names_ofCatalog_eq_iff alike, names]
  · rw [alike.deletionChecks_eq_iff, names]
  · rw [alike.ofCatalog_eq (names.2 kept)]
    exact ⟨rfl, rfl, rfl, rfl⟩

/-- A configuration with one pipeline. -/
def buildOnly : Configuration := { groups := [⟨"first", [pollingBuild]⟩] }

/-- The pipeline with a new material. -/
def movedBuild : Pipeline :=
  { pollingBuild with
    materials.items := [⟨.git "https://host/b" "main", none, none, true, .none⟩] }

/-- The pipeline in another spelling. -/
def respelledBuild : Pipeline := { pollingBuild with name := ⟨"Build"⟩ }

theorem shown_as_rebuilt_movedBuild :
    Configuration.HoldsLast { groups := [⟨"second", [movedBuild]⟩] }
      (buildOnly.writes ++ [⟨"first", movedBuild⟩]) ∧
    (DependencyGraph.ofCatalog
      ((ofConfiguration buildOnly).insertAll [⟨"first", movedBuild⟩])).dot =
        (DependencyGraph.ofCatalog
          (ofConfiguration { groups := [⟨"second", [movedBuild]⟩] })).dot := by
  have holds : Configuration.HoldsLast { groups := [⟨"second", [movedBuild]⟩] }
      (buildOnly.writes ++ [⟨"first", movedBuild⟩]) :=
    Configuration.holdsLast_renewed "first" "first" "second" (by decide +kernel)
  obtain ⟨-, -, -, names, -, -, drawings⟩ := shown_as_rebuilt_iff holds rfl rfl
  have listed : ((ofConfiguration buildOnly).insertAll [⟨"first", movedBuild⟩]).names =
      (ofConfiguration { groups := [⟨"second", [movedBuild]⟩] }).names := by decide +kernel
  exact ⟨holds, (drawings (names.1 listed)).2.2.2⟩

/-- A new spelling does not show in an updated catalog. -/
theorem names_respelledBuild :
    Configuration.HoldsLast { groups := [⟨"first", [respelledBuild]⟩] }
      (buildOnly.writes ++ [⟨"first", respelledBuild⟩]) ∧
    ((ofConfiguration buildOnly).insertAll [⟨"first", respelledBuild⟩]).names = [⟨"build"⟩] ∧
    (ofConfiguration { groups := [⟨"first", [respelledBuild]⟩] }).names = [⟨"Build"⟩] := by
  refine ⟨Configuration.holdsLast_renewed "first" "first" "first" ?_, ?_, ?_⟩
  all_goals decide +kernel

end Catalog

end PipelineConfig
