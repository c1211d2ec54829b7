import PipelineConfig.Deletion
import PipelineConfig.Graph.Rendering
import PipelineConfig.Proofs.Spelling

/-!
# The order of declarations does not matter

Catalogs that came about in different ways differ inside: the uses of a source stand in the order
of the writes, and tables may keep names in different spellings. What a look-up or a review sees
follows from the last writes, and what is listed follows from the spelling of the first writes as
well. In particular the declarations of a configuration may be rearranged.
-/

namespace PipelineConfig

namespace Catalog

/-- Catalogs whose look-ups find the same, the order of the uses of a source apart. -/
structure AnswerAlike (left right : Catalog) : Prop where
  /-- A name leads to the same pipeline. -/
  pipeline : ∀ name, left.pipeline? name = right.pipeline? name
  /-- A pipeline waits for the same pipelines. -/
  upstreams : ∀ name, left.upstreamsOf name = right.upstreamsOf name
  /-- The same pipelines are downstream, in the same spelling. -/
  downstreams : ∀ name, (left.downstreamsOf name).toList = (right.downstreamsOf name).toList
  /-- A source has the same uses. -/
  uses : ∀ fingerprint use, use ∈ left.usesAt fingerprint ↔ use ∈ right.usesAt fingerprint
  /-- The templates are the same. -/
  templates : left.templates = right.templates
  /-- The environments run the same pipelines. -/
  environments : left.environments = right.environments

section Written

variable {left right : Catalog} {before after : List Entry}

/-- Look-ups follow from the last writes. -/
theorem Written.answerAlike (left_came : left.Written before) (right_came : right.Written after)
    (last : ∀ name, (lastWrite? before name).map Entry.pipeline =
      (lastWrite? after name).map Entry.pipeline)
    (templates : left.templates = right.templates)
    (environments : left.environments = right.environments) : left.AnswerAlike right := by
  have pipeline (name : Name) : left.pipeline? name = right.pipeline? name := by
    rw [pipeline?, left_came.mirrors.entry, last, ← right_came.mirrors.entry, pipeline?]
  have waits {catalog : Catalog} (consistent : catalog.Consistent) (name : Name) :
      catalog.upstreamsOf name = ((catalog.pipeline? name).map Pipeline.upstreams).getD ∅ := by
    rw [Mirrors.upstreams consistent, pipeline?, Option.map_map]
    rfl
  refine
    { pipeline, upstreams := ?upstreams, downstreams := ?downstreams, uses := ?uses, templates
      environments }
  case upstreams =>
    intro name
    rw [waits left_came.consistent, waits right_came.consistent, pipeline]
  case downstreams =>
    intro upstream
    refine Table.keys_eq_of_mem_iff fun name => ?_
    have left_listed := left_came.mem_downstreamsOf_iff upstream name
    rw [pipeline] at left_listed
    exact left_listed.trans (right_came.mem_downstreamsOf_iff upstream name).symm
  case uses =>
    intro fingerprint use
    rw [left_came.consistent.mem_usesAt_iff, right_came.consistent.mem_usesAt_iff, pipeline]

/-- The names that are listed follow from the spelling of the first writes. -/
theorem Written.names_eq_iff (left_came : left.Written before)
    (right_came : right.Written after) :
    left.names = right.names ↔
      ∀ name, (firstWrite? before name).map (fun entry => entry.pipeline.name) =
        (firstWrite? after name).map fun entry => entry.pipeline.name := by
  simp only [← left_came.form?_entries, ← right_came.form?_entries]
  exact Table.keys_eq_iff

end Written

namespace AnswerAlike

variable {left right : Catalog}

theorem apart (alike : left.AnswerAlike right) (name : Name) : AlikeApart name left right where
  pipeline other _ := alike.pipeline other
  upstreams other _ := alike.upstreams other
  uses fingerprint use _ := alike.uses fingerprint use
  downstreams := by rw [alike.downstreams]
  transitive := by
    refine exploreDownstream_congr (fun other => ?_) ∅ _ _ ?_
    · rw [alike.downstreams]
    · rw [alike.downstreams]
  templates := alike.templates

theorem review_eq [Pattern.Engine] (alike : left.AnswerAlike right) (pipeline : Pipeline) :
    pipeline.review left = pipeline.review right := by
  rw [← pipeline.review_clearErrors left]
  exact review_congr (alike.apart pipeline.name)

theorem deletionBlock?_eq (alike : left.AnswerAlike right) (name : Name) :
    left.deletionBlock? name = right.deletionBlock? name := by
  rw [deletionBlock?, deletionBlock?, environmentOf?, alike.environments, alike.downstreams]
  rfl

theorem deletionChecks_eq_iff (alike : left.AnswerAlike right) :
    left.deletionChecks = right.deletionChecks ↔ left.names = right.names := by
  constructor
  · intro equal
    simpa [deletionChecks, Function.comp_def] using congrArg (List.map DeletionCheck.name) equal
  · intro equal
    rw [deletionChecks, deletionChecks, equal]
    exact List.map_congr_left fun name _ => congrArg (DeletionCheck.mk name)
      (alike.deletionBlock?_eq name)

end AnswerAlike

/-- The committed pipelines as they are listed. -/
def rows (catalog : Catalog) : List (Name × Pipeline) :=
  catalog.entries.entries.map fun (name, entry) => (name, entry.pipeline)

theorem rows_eq_filterMap (catalog : Catalog) :
    catalog.rows = catalog.names.filterMap fun name =>
      (catalog.pipeline? name).map fun pipeline => (name, pipeline) := by
  rw [rows, names, Table.keys, List.filterMap_map, ← List.filterMap_eq_map']
  refine List.filterMap_congr fun row member => ?_
  have found : catalog.entry? row.1 = some row.2 := Table.get?_of_mem member
  simp [pipeline?, found]

end Catalog

namespace DependencyGraph

open Catalog

/-- A graph shows of a catalog how its pipelines are listed and nothing else. -/
theorem ofCatalog_eq_of_rows {left right : Catalog} (rows : left.rows = right.rows) :
    ofCatalog left = ofCatalog right := by
  have nodes (catalog : Catalog) : nodesOf catalog =
      (catalog.rows.flatMap fun row =>
        row.2.materials.items.filterMap Material.upstream?).foldl addNode
          (catalog.rows.map Prod.fst) := by
    simp only [nodesOf, Catalog.rows, Table.values, List.flatMap_map, List.map_map]
    rfl
  have edges (catalog : Catalog) :
      (catalog.entries.entries.flatMap fun named =>
        edgesInto (nodesOf catalog) named.1 named.2.pipeline) =
          catalog.rows.flatMap fun row => edgesInto (nodesOf catalog) row.1 row.2 := by
    simp only [Catalog.rows, List.flatMap_map]
  have shown (catalog : Catalog) : ofCatalog catalog =
      ⟨nodesOf catalog, catalog.rows.flatMap fun row => edgesInto (nodesOf catalog) row.1 row.2⟩ :=
    congrArg (DependencyGraph.mk (nodesOf catalog)) (edges catalog)
  have same_nodes : nodesOf left = nodesOf right := by rw [nodes, nodes, rows]
  rw [shown, shown, same_nodes, rows]

end DependencyGraph

namespace Catalog

theorem AnswerAlike.ofCatalog_eq {left right : Catalog} (alike : left.AnswerAlike right)
    (names : left.names = right.names) :
    DependencyGraph.ofCatalog left = DependencyGraph.ofCatalog right := by
  refine DependencyGraph.ofCatalog_eq_of_rows ?_
  simp only [rows_eq_filterMap, names, alike.pipeline]

/-- The pipelines of a configuration may stand in any order and in any groups: as long as no name is
declared twice, every pipeline gets the same report, the graph is drawn in the same way, down to the
pipeline that a failed ordering blames, and the deletion checks are the same. -/
theorem observations_rearranged [Pattern.Engine] {left right : Configuration}
    (distinct : left.DistinctNames)
    (rearranged : (left.declarations.map Prod.snd).Perm (right.declarations.map Prod.snd))
    (templates : left.templates = right.templates)
    (environments : left.environments = right.environments) :
    (∀ pipeline : Pipeline,
      pipeline.review (ofConfiguration left) = pipeline.review (ofConfiguration right) ∧
        pipeline.validate (ofConfiguration left) = pipeline.validate (ofConfiguration right)) ∧
    (DependencyGraph.ofCatalog (ofConfiguration left)).orderedNames =
      (DependencyGraph.ofCatalog (ofConfiguration right)).orderedNames ∧
    (DependencyGraph.ofCatalog (ofConfiguration left)).text =
      (DependencyGraph.ofCatalog (ofConfiguration right)).text ∧
    (DependencyGraph.ofCatalog (ofConfiguration left)).mermaid =
      (DependencyGraph.ofCatalog (ofConfiguration right)).mermaid ∧
    (DependencyGraph.ofCatalog (ofConfiguration left)).dot =
      (DependencyGraph.ofCatalog (ofConfiguration right)).dot ∧
    (ofConfiguration left).deletionChecks = (ofConfiguration right).deletionChecks := by
  have last := distinct.lastWrite?_rearranged rearranged
  have alike := (written_ofConfiguration left).answerAlike (written_ofConfiguration right) last
    (by simp only [ofConfiguration, templates]) (by simp only [ofConfiguration, environments])
  have names : (ofConfiguration left).names = (ofConfiguration right).names := by
    refine ((written_ofConfiguration left).names_eq_iff (written_ofConfiguration right)).2
      fun name => ?_
    rw [firstWrite?_eq_lastWrite? distinct.writes,
      firstWrite?_eq_lastWrite? (distinct.perm rearranged).writes]
    simpa only [Option.map_map, Function.comp_def] using
      congrArg (Option.map Pipeline.name) (last name)
  refine ⟨fun pipeline => ⟨alike.review_eq pipeline, ?_⟩, ?_, ?_, ?_, ?_,
    alike.deletionChecks_eq_iff.2 names⟩
  · rw [Pipeline.validate, Pipeline.validate, alike.review_eq]
  all_goals rw [alike.ofCatalog_eq names]

/-- A pipeline that polls a repository. -/
def pollingBuild : Pipeline :=
  let stage : Stage := ⟨⟨"run"⟩, [⟨⟨"all"⟩, [⟨.exec "make" [] none, .none⟩], .none⟩], .none⟩
  { name := ⟨"build"⟩, stages := [stage]
    materials.items := [⟨.git "https://host/a" "main", none, none, true, .none⟩] }

/-- A pipeline that polls the same repository and waits for the other pipeline. -/
def pollingDeploy : Pipeline :=
  { pollingBuild with
    name := ⟨"deploy"⟩
    materials.items := pollingBuild.materials.items ++
      [⟨.dependency ⟨"Build"⟩ ⟨"run"⟩, none, none, true, .none⟩] }

/-- The two pipelines in one group. -/
def inOneGroup : Configuration := { groups := [⟨"first", [pollingBuild, pollingDeploy]⟩] }

/-- The two pipelines in two groups, in the other order. -/
def inTwoGroups : Configuration :=
  { groups := [⟨"second", [pollingDeploy]⟩, ⟨"first", [pollingBuild]⟩] }

theorem observations_inTwoGroups :
    (ofConfiguration inOneGroup).uses ≠ (ofConfiguration inTwoGroups).uses ∧
    inOneGroup.DistinctNames ∧
    (inOneGroup.declarations.map Prod.snd).Perm (inTwoGroups.declarations.map Prod.snd) ∧
    (∀ pipeline : Pipeline, pipeline.review (ofConfiguration inOneGroup) =
      pipeline.review (ofConfiguration inTwoGroups)) ∧
    (DependencyGraph.ofCatalog (ofConfiguration inOneGroup)).dot =
      (DependencyGraph.ofCatalog (ofConfiguration inTwoGroups)).dot ∧
    (ofConfiguration inOneGroup).deletionChecks =
      (ofConfiguration inTwoGroups).deletionChecks := by
  have distinct : inOneGroup.DistinctNames := by
    unfold Configuration.DistinctNames
    decide +kernel
  have swapped : (inOneGroup.declarations.map Prod.snd).Perm
      (inTwoGroups.declarations.map Prod.snd) := List.Perm.swap pollingDeploy pollingBuild []
  obtain ⟨reports, -, -, -, dot, checks⟩ := observations_rearranged distinct swapped rfl rfl
  exact ⟨by decide +kernel, distinct, swapped, fun pipeline => (reports pipeline).1, dot, checks⟩

end Catalog

end PipelineConfig
