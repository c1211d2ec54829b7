import Mathlib.Data.List.Basic
import PipelineConfig.Proofs.Alike
import PipelineConfig.Proofs.CycleSearch
import PipelineConfig.Proofs.DownstreamSearch
import PipelineConfig.Proofs.Reports

/-!
# Reviews before and after an insertion

A review of a pipeline asks a catalog only about other pipelines. Where it would meet the committed
version of the pipeline itself, the proposed one stands in. So a pipeline gets the same report
before and after it is inserted, whatever else the catalog holds.
-/

namespace PipelineConfig

namespace Catalog

/-- Catalogs that answer alike about all pipelines but those of one name. -/
structure AlikeApart (name : Name) (left right : Catalog) : Prop where
  /-- Other names lead to the same pipelines. -/
  pipeline : ∀ other, name.same other = false → left.pipeline? other = right.pipeline? other
  /-- Other pipelines wait for the same pipelines. -/
  upstreams : ∀ other, name.same other = false → left.upstreamsOf other = right.upstreamsOf other
  /-- The same other pipelines use each source, in any order. -/
  uses : ∀ fingerprint use, use.pipeline.name.same name = false →
    (use ∈ left.usesAt fingerprint ↔ use ∈ right.usesAt fingerprint)
  /-- The same other pipelines wait for the pipeline of the name. -/
  downstreams : ((left.downstreamsOf name).toList.filter fun other => !other.same name) =
    (right.downstreamsOf name).toList.filter fun other => !other.same name
  /-- The same other pipelines are downstream at any distance. -/
  transitive : left.transitiveDownstreamsOf name = right.transitiveDownstreamsOf name
  /-- Templates have the same stages. -/
  templates : left.templates = right.templates

theorem AlikeApart.refl (name : Name) (catalog : Catalog) : AlikeApart name catalog catalog :=
  ⟨fun _ _ => rfl, fun _ _ => rfl, fun _ _ _ => .rfl, rfl, rfl, rfl⟩

/-- An insertion changes nothing but what a catalog says of the inserted pipeline. -/
theorem alikeApart_insert (catalog : Catalog) (pipeline : Pipeline) (group : String) :
    AlikeApart pipeline.name (catalog.insert pipeline group) catalog where
  pipeline other apart := by simp [pipeline?_insert, apart]
  upstreams other apart := by simp [upstreamsOf_insert, apart]
  uses _ _ apart := catalog.mem_usesAt_insert_iff pipeline group apart
  downstreams := filter_downstreamsOf_insert catalog pipeline group pipeline.name
  transitive := transitiveDownstreamsOf_insert catalog pipeline group
  templates := rfl

theorem isOn_names (catalog : Catalog) (name : Name) :
    DependencyView.isOn catalog.names name = (catalog.pipeline? name).isSome := by
  rw [← contains_eq_isSome, contains, Table.contains_eq_any, DependencyView.isOn, names]
  congr 1
  funext other
  rw [Name.same_comm, Name.same_eq_isEq]

end Catalog

theorem Scope.lookup?_ofEdit (catalog : Catalog) (pipeline : Pipeline) (name : Name) :
    (ofEdit catalog pipeline).lookup? name =
      if pipeline.name.same name then some pipeline else catalog.pipeline? name := rfl

theorem Scope.knows_proposedView (scope : Scope) (proposed : Pipeline) (name : Name) :
    (scope.proposedView proposed).knows name =
      (proposed.name.same name || (scope.editing.any fun edited => edited.name.same name) ||
        (scope.catalog.pipeline? name).isSome) := by
  have committed := scope.catalog.isOn_names name
  rw [DependencyView.isOn] at committed
  obtain ⟨catalog, editing, ancestors⟩ := scope
  cases editing <;> simp_all [DependencyView.knows, proposedView, Bool.or_assoc]

/-! ## What a pipeline is told by itself -/

namespace Pipeline

theorem ownProblems_clearErrors (pipeline : Pipeline) :
    pipeline.clearErrors.ownProblems = pipeline.ownProblems := by
  have resolves (reference : List Char) :
      Label.resolves pipeline.clearErrors.materials.items reference =
        Label.resolves pipeline.materials.items reference := by
    simp only [Label.resolves, clearErrors, Materials.clearErrors, List.filterMap_map]
    rfl
  simp only [ownProblems, Label.problems, resolves]
  rfl

theorem stageSourceProblems_congr (pipeline : Pipeline) {left right : Catalog}
    (templates : left.templates = right.templates) :
    pipeline.clearErrors.stageSourceProblems left = pipeline.stageSourceProblems right := by
  simp only [stageSourceProblems, clearErrors, Catalog.hasTemplate, templates, List.isEmpty_map]

end Pipeline

/-! ## What other pipelines tell -/

namespace Review

variable {left right : Scope}

/-- Outside of any node scopes look alike as soon as their templates do. -/
theorem alike_outermost (templates : left.catalog.templates = right.catalog.templates)
    (node : ScopeNode) : (left.outermost.within node).Alike (right.outermost.within node) := by
  have outside : left.outermost.Alike right.outermost := ⟨rfl, rfl, rfl, rfl, rfl, templates⟩
  exact outside.within node node rfl

theorem committed_congr (left right : Catalog) (names : List Name)
    (agree : ∀ name ∈ names, left.pipeline? name = right.pipeline? name) :
    committed left names = committed right names :=
  List.filterMap_congr agree

theorem brokenReferences_congr (left right : Scope) (edited : Name)
    (templates : left.catalog.templates = right.catalog.templates)
    (found : ∀ name, left.FindAlike right name) (downstream : Pipeline) :
    brokenReferences edited left downstream = brokenReferences edited right downstream := by
  rw [brokenReferences, brokenReferences]
  refine List.flatMap_congr fun material member => ?_
  have polling := Material.pollingProblems_of_dependsOn (List.mem_filter.1 member).2
  rw [material.problems_congr (alike_outermost templates _) (fun name _ => found name)
    (by rw [polling, polling])]

theorem brokenFetches_congr (left right : Scope) (edited : Name)
    (templates : left.catalog.templates = right.catalog.templates)
    (found : ∀ name, left.FindAlike right name) (downstream : Pipeline) :
    brokenFetches edited left downstream = brokenFetches edited right downstream := by
  rw [brokenFetches, brokenFetches]
  refine List.flatMap_congr fun stage _ => List.flatMap_congr fun job _ =>
    List.flatMap_congr fun task _ => ?_
  have alike := ((alike_outermost templates (.pipeline downstream)).within (.stage stage)
    (.stage stage) rfl).within (.job job) (.job job) rfl
  have problems := task.problems_congr alike fun _ _ name _ => found name
  dsimp only
  rw [problems]

end Review

/-! ## Reviews -/

section Review

variable {pipeline : Pipeline} {left right : Catalog}

/-- Edits of one pipeline, recorded messages apart, lead every name to the same pipeline. -/
theorem findAlike_ofEdit (apart : Catalog.AlikeApart pipeline.name left right) (name : Name) :
    (Scope.ofEdit left pipeline.clearErrors).FindAlike (.ofEdit right pipeline) name := by
  rw [Scope.FindAlike, Scope.lookup?_ofEdit, Scope.lookup?_ofEdit]
  by_cases own : pipeline.name.same name = true
  · have cleared : pipeline.clearErrors.name.same name = true := own
    rw [if_pos own, if_pos cleared]
    simp
  · have cleared : ¬pipeline.clearErrors.name.same name = true := own
    rw [if_neg own, if_neg cleared, apart.pipeline name (by simpa using own)]

theorem downstreamDependencyProblems_congr
    (apart : Catalog.AlikeApart pipeline.name left right) :
    Review.downstreamDependencyProblems pipeline.clearErrors (.ofEdit left pipeline.clearErrors) =
      Review.downstreamDependencyProblems pipeline (.ofEdit right pipeline) := by
  have broken := funext (Review.brokenReferences_congr (.ofEdit left pipeline.clearErrors)
    (.ofEdit right pipeline) pipeline.name apart.templates (findAlike_ofEdit apart))
  have others := Review.committed_congr left right
    ((right.downstreamsOf pipeline.name).toList.filter fun name => !name.same pipeline.name)
    fun name member => by
      rw [List.mem_filter, Name.same_comm] at member
      exact apart.pipeline name (by simpa using member.2)
  simp only [Review.downstreamDependencyProblems, Pipeline.clearErrors, Scope.ofEdit] at broken ⊢
  rw [apart.downstreams, others, broken]

theorem downstreamFetchProblems_congr (apart : Catalog.AlikeApart pipeline.name left right) :
    Review.downstreamFetchProblems pipeline.clearErrors (.ofEdit left pipeline.clearErrors) =
      Review.downstreamFetchProblems pipeline (.ofEdit right pipeline) := by
  have broken := funext (Review.brokenFetches_congr (.ofEdit left pipeline.clearErrors)
    (.ofEdit right pipeline) pipeline.name apart.templates (findAlike_ofEdit apart))
  have others := Review.committed_congr left right
    (right.transitiveDownstreamsOf pipeline.name).toList fun name member => by
      have found := (right.has_transitiveDownstreamsOf_iff pipeline.name name).1
        (NameSet.has_of_mem member)
      exact apart.pipeline name (by rw [Name.same_comm, found.1])
  simp only [Review.downstreamFetchProblems, Pipeline.clearErrors, Scope.ofEdit] at broken ⊢
  rw [apart.transitive, others, broken]

theorem pollingProblems_congr (apart : Catalog.AlikeApart pipeline.name left right)
    (material : Material) :
    material.pollingProblems
        ((Scope.ofEdit left pipeline.clearErrors).within (.pipeline pipeline.clearErrors)) =
      material.pollingProblems ((Scope.ofEdit right pipeline).within (.pipeline pipeline)) := by
  have conflicts (uses : List Use) (own : Pipeline) :
      uses.any (material.conflictsWith (some own)) = true ↔
        ∃ use ∈ uses, use.pipeline.name.same own.name = false ∧
          use.material.autoUpdate ≠ material.autoUpdate := by
    simp [List.any_eq_true, Material.conflictsWith]
  have agree : (left.usesAt material.fingerprint).any
      (material.conflictsWith (some pipeline.clearErrors)) =
        (right.usesAt material.fingerprint).any (material.conflictsWith (some pipeline)) := by
    rw [Bool.eq_iff_iff, conflicts, conflicts]
    refine exists_congr fun use => and_congr_left fun other => ?_
    exact apart.uses material.fingerprint use other.1
  simp only [Material.pollingProblems]
  cases material.source.url? with
  | none => rfl
  | some address =>
    exact congrArg (Problem.when · (.autoUpdateConflict material.source.typeName address)) agree

theorem knows_ofEdit_congr (apart : Catalog.AlikeApart pipeline.name left right) (name : Name) :
    ((Scope.ofEdit left pipeline.clearErrors).proposedView pipeline.clearErrors).knows name =
      ((Scope.ofEdit right pipeline).proposedView pipeline).knows name := by
  simp only [Scope.knows_proposedView, Scope.ofEdit, Option.any_some, Pipeline.name_clearErrors]
  cases own : pipeline.name.same name with
  | true => rfl
  | false => rw [apart.pipeline name own]

theorem dependencyProblems_congr (apart : Catalog.AlikeApart pipeline.name left right) :
    pipeline.clearErrors.dependencyProblems (.ofEdit left pipeline.clearErrors) =
      pipeline.dependencyProblems (.ofEdit right pipeline) := by
  have upstreams (name : Name) :
      ((Scope.ofEdit left pipeline.clearErrors).proposedView pipeline.clearErrors).upstreamsOf
          name =
        ((Scope.ofEdit right pipeline).proposedView pipeline).upstreamsOf name := by
    simp only [Scope.proposedView, Scope.ofEdit, Pipeline.name_clearErrors,
      Pipeline.upstreams_clearErrors]
    split
    · rfl
    · rename_i other
      exact apart.upstreams name (by simpa using other)
  have searched := DependencyView.findCycle_congr (knows_ofEdit_congr apart) upstreams pipeline.name
  rw [Pipeline.dependencyProblems, Pipeline.dependencyProblems, Pipeline.name_clearErrors, searched]

/-- A review sees nothing of a catalog but other pipelines, and nothing of recorded messages. -/
theorem review_congr [Pattern.Engine] (apart : Catalog.AlikeApart pipeline.name left right) :
    pipeline.clearErrors.review left = pipeline.review right := by
  have node : (ScopeNode.pipeline pipeline.clearErrors).clearErrors =
      (ScopeNode.pipeline pipeline).clearErrors := by simp [ScopeNode.clearErrors]
  have outermost : (Scope.mk left (some pipeline.clearErrors) []).Alike
      ⟨right, some pipeline, []⟩ := ⟨rfl, rfl, rfl, rfl, rfl, apart.templates⟩
  have outside : (Scope.ofEdit left pipeline.clearErrors).Alike (.ofEdit right pipeline) :=
    outermost.within _ _ node
  have inside := outside.within _ _ node
  have found := findAlike_ofEdit apart
  have own : pipeline.clearErrors.problems (.ofEdit left pipeline.clearErrors) =
      pipeline.problems (.ofEdit right pipeline) := by
    have source : pipeline.clearErrors.stageSourceProblems left =
        pipeline.stageSourceProblems right := pipeline.stageSourceProblems_congr apart.templates
    rw [Pipeline.problems, Pipeline.problems, Pipeline.ownProblems_clearErrors,
      downstreamDependencyProblems_congr apart, downstreamFetchProblems_congr apart]
    simp only [Scope.ofEdit, source]
  have materials := List.map_congr_left fun material (_ : material ∈ pipeline.materials.items) =>
    congrArg FieldErrors.ofProblems (material.problems_congr inside
      (fun upstream _ => found upstream) (pollingProblems_congr apart material))
  have stages := List.map_congr_left fun stage (_ : stage ∈ pipeline.stages) =>
    stage.review_congr inside found
  have params := List.map_congr_left fun parameter (_ : parameter ∈ pipeline.params) =>
    congrArg FieldErrors.ofProblems (parameter.problems_congr inside)
  have bindings := List.map_congr_left fun binding (_ : binding ∈ pipeline.environmentVariables) =>
    congrArg FieldErrors.ofProblems (binding.problems_congr inside)
  have integrations :
      pipeline.clearErrors.trackingTool.map TrackingTool.problems =
          pipeline.trackingTool.map TrackingTool.problems ∧
        pipeline.clearErrors.mingle.map Mingle.problems = pipeline.mingle.map Mingle.problems ∧
          pipeline.clearErrors.timer.map Timer.problems = pipeline.timer.map Timer.problems := by
    simp only [Pipeline.clearErrors, Option.map_map]
    exact ⟨rfl, rfl, rfl⟩
  obtain ⟨tool, mingle, timer⟩ := integrations
  rw [Pipeline.review, Pipeline.review, Pipeline.reviewIn_eq, Pipeline.reviewIn_eq]
  refine congrArg PipelineReport.judged ?_
  dsimp only [Pipeline.told]
  rw [own, dependencyProblems_congr apart, tool, mingle, timer]
  simp only [PipelineReport.mk.injEq, true_and, and_true]
  refine ⟨?_, ?_, ?_, ?_⟩
  · rw [← materials]
    exact List.map_map
  · rw [← stages]
    exact List.map_map
  · rw [← params]
    exact List.map_map
  · rw [← bindings]
    exact List.map_map

end Review

/-! ## Insertions -/

namespace Pipeline

/-- Recorded messages do not matter to a review. -/
theorem review_clearErrors [Pattern.Engine] (pipeline : Pipeline) (catalog : Catalog) :
    pipeline.clearErrors.review catalog = pipeline.review catalog :=
  review_congr (.refl pipeline.name catalog)

theorem review_insert [Pattern.Engine] (pipeline : Pipeline) (catalog : Catalog) (group : String) :
    pipeline.review (catalog.insert pipeline group) = pipeline.review catalog := by
  rw [← review_clearErrors]
  exact review_congr (catalog.alikeApart_insert pipeline group)

theorem findCycle_proposedView (pipeline : Pipeline) (catalog : Catalog) (group : String)
    {scope : Scope} (here : scope.catalog = catalog)
    (editing : scope.editing = none ∨ scope.editing = some pipeline) (root : Name) :
    (scope.proposedView pipeline).findCycle root =
      (catalog.insert pipeline group).dependencyView.findCycle root := by
  subst here
  refine DependencyView.findCycle_congr (fun name => ?_) (fun name => ?_) root
  · have edited : (scope.editing.any fun edited => edited.name.same name) = true →
        pipeline.name.same name = true := by
      rcases editing with absent | found <;> simp_all
    have committed := (scope.catalog.insert pipeline group).isOn_names name
    rw [Catalog.pipeline?_insert] at committed
    rw [Scope.knows_proposedView, DependencyView.knows]
    simp only [DependencyView.isOn] at committed
    rw [Catalog.dependencyView, committed]
    cases own : pipeline.name.same name <;> simp_all
  · exact (scope.catalog.upstreamsOf_insert pipeline group name).symm

/-- A review of a pipeline before it is inserted comes to the same report, and its search for a
cycle to the same result, as one of the inserted pipeline. This holds in any catalog, even one with
cycles or unknown upstream pipelines, and for a new pipeline as for a committed one in any
spelling. -/
theorem review_anticipates_insert [Pattern.Engine] (pipeline : Pipeline) (catalog : Catalog)
    (group : String) :
    pipeline.review (catalog.insert pipeline group) = pipeline.review catalog ∧
      pipeline.validate (catalog.insert pipeline group) = pipeline.validate catalog ∧
      ∀ ancestors root,
        ((Scope.mk catalog (some pipeline) ancestors).proposedView pipeline).findCycle root =
            (catalog.insert pipeline group).dependencyView.findCycle root ∧
          ((Scope.mk catalog none ancestors).proposedView pipeline).findCycle root =
            (catalog.insert pipeline group).dependencyView.findCycle root := by
  have report := pipeline.review_insert catalog group
  refine ⟨report, ?_, fun ancestors root => ⟨?_, ?_⟩⟩
  · rw [validate, validate, report]
  · exact pipeline.findCycle_proposedView catalog group rfl (.inr rfl) root
  · exact pipeline.findCycle_proposedView catalog group rfl (.inl rfl) root

end Pipeline

end PipelineConfig
