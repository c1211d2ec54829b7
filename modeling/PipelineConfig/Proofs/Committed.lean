import PipelineConfig.Proofs.History
import PipelineConfig.Proofs.Overlay

/-!
# Committed pipelines in consistent catalogs

A catalog is consistent when its tables follow from its entries, as those of every reachable catalog
do. Then the tables can be read off the committed pipelines, and a committed pipeline under edit
changes nothing.
-/

namespace PipelineConfig

namespace Catalog

theorem Consistent.insert {catalog : Catalog} (consistent : catalog.Consistent)
    (pipeline : Pipeline) (group : String) : (catalog.insert pipeline group).Consistent :=
  (Mirrors.insert consistent pipeline group).consistent

theorem pipeline?_eq_some_iff {catalog : Catalog} {name : Name} {pipeline : Pipeline} :
    catalog.pipeline? name = some pipeline ↔
      ∃ group, catalog.entry? name = some ⟨group, pipeline⟩ := by
  rw [pipeline?, Option.map_eq_some_iff]
  constructor
  · rintro ⟨⟨group, _⟩, found, rfl⟩
    exact ⟨group, found⟩
  · rintro ⟨group, found⟩
    exact ⟨_, found, rfl⟩

namespace Consistent

variable {catalog : Catalog} {name : Name} {pipeline : Pipeline}

theorem named (consistent : catalog.Consistent) (found : catalog.pipeline? name = some pipeline) :
    pipeline.name.same name = true := by
  obtain ⟨group, found⟩ := pipeline?_eq_some_iff.1 found
  exact Mirrors.named consistent name _ found

theorem found_self (consistent : catalog.Consistent)
    (found : catalog.pipeline? name = some pipeline) :
    catalog.pipeline? pipeline.name = some pipeline := by
  rwa [catalog.pipeline?_congr (consistent.named found)]

theorem upstreamsOf_eq (consistent : catalog.Consistent)
    (found : catalog.pipeline? name = some pipeline) :
    catalog.upstreamsOf name = pipeline.upstreams := by
  obtain ⟨group, found⟩ := pipeline?_eq_some_iff.1 found
  rw [Mirrors.upstreams consistent, found]
  rfl

/-- A pipeline waits for another just when it is committed with a dependency material on it. -/
theorem waits_iff (consistent : catalog.Consistent) {upstream : Name} :
    catalog.dependencyView.Waits name upstream ↔
      ∃ pipeline, catalog.pipeline? name = some pipeline ∧
        ∃ material ∈ pipeline.materials.items, material.dependsOn upstream = true := by
  have waits : catalog.dependencyView.Waits name upstream ↔
      (catalog.upstreamsOf name).has upstream = true := Iff.rfl
  rw [waits, Mirrors.upstreams consistent, pipeline?]
  cases catalog.entry? name with
  | none => simp
  | some entry => simp [Pipeline.has_upstreams_iff]

/-- The downstream table holds the upstream edges turned around. -/
theorem feeds_iff (consistent : catalog.Consistent) {upstream : Name} :
    catalog.Feeds upstream name ↔ catalog.dependencyView.Waits name upstream := by
  rw [Feeds, Mirrors.has_downstreamsOf consistent]
  exact Iff.rfl

/-- The uses of a source are the places where committed pipelines declare it. -/
theorem mem_usesAt_iff (consistent : catalog.Consistent) {fingerprint : String} {use : Use} :
    use ∈ catalog.usesAt fingerprint ↔
      catalog.pipeline? use.pipeline.name = some use.pipeline ∧
        use.pipeline.materials.items[use.position]? = some use.material ∧
          use.material.fingerprint = fingerprint := by
  constructor
  · intro member
    obtain ⟨found, placed, source⟩ := Mirrors.of_mem_usesAt consistent member
    exact ⟨pipeline?_eq_some_iff.2 found, placed, source⟩
  · rintro ⟨found, placed, source⟩
    obtain ⟨group, found⟩ := pipeline?_eq_some_iff.1 found
    obtain ⟨bound, here⟩ := List.getElem?_eq_some_iff.1 placed
    have listed : use ∈ usesOf use.pipeline := List.mem_mapIdx.2 ⟨use.position, bound, by rw [here]⟩
    have own : use ∈ (catalog.usesAt fingerprint).filter
        fun other => other.pipeline.name.same use.pipeline.name := by
      rw [Mirrors.uses consistent, found]
      exact List.mem_filter.2 ⟨listed, by simpa using source⟩
    exact (List.mem_filter.1 own).1

theorem use_of_mem (consistent : catalog.Consistent)
    (found : catalog.pipeline? name = some pipeline) {material : Material}
    (member : material ∈ pipeline.materials.items) :
    ∃ use ∈ catalog.usesAt material.fingerprint,
      use.pipeline = pipeline ∧ use.material = material := by
  obtain ⟨position, placed⟩ := List.mem_iff_getElem?.1 member
  exact ⟨⟨pipeline, position, material⟩,
    consistent.mem_usesAt_iff.2 ⟨consistent.found_self found, placed, rfl⟩, rfl, rfl⟩

theorem of_mem_usesAt (consistent : catalog.Consistent) {fingerprint : String} {use : Use}
    (member : use ∈ catalog.usesAt fingerprint) :
    catalog.pipeline? use.pipeline.name = some use.pipeline ∧
      use.material ∈ use.pipeline.materials.items ∧ use.material.fingerprint = fingerprint := by
  obtain ⟨found, placed, source⟩ := consistent.mem_usesAt_iff.1 member
  exact ⟨found, List.mem_of_getElem? placed, source⟩

end Consistent

/-! ## Edits that change nothing -/

theorem regular_dependencyView (catalog : Catalog) : catalog.dependencyView.Regular :=
  fun _ _ same => catalog.upstreamsOf_congr same

theorem knows_dependencyView (catalog : Catalog) (name : Name) :
    catalog.dependencyView.knows name = (catalog.pipeline? name).isSome :=
  catalog.isOn_names name

theorem lookup?_of_committed {catalog : Catalog} {pipeline : Pipeline}
    (found : catalog.pipeline? pipeline.name = some pipeline) (name : Name) :
    (Scope.ofEdit catalog pipeline).lookup? name = catalog.pipeline? name := by
  rw [Scope.lookup?_ofEdit]
  split
  · rename_i same
    rw [← catalog.pipeline?_congr same, found]
  · rfl

theorem Consistent.findCycle_of_committed {catalog : Catalog} (consistent : catalog.Consistent)
    {pipeline : Pipeline} (found : catalog.pipeline? pipeline.name = some pipeline)
    (root : Name) :
    ((Scope.ofEdit catalog pipeline).proposedView pipeline).findCycle root =
      catalog.dependencyView.findCycle root := by
  refine DependencyView.findCycle_congr (fun name => ?_) (fun name => ?_) root
  · rw [Scope.knows_proposedView, knows_dependencyView]
    simp only [Scope.ofEdit, Option.any_some]
    cases own : pipeline.name.same name with
    | true => rw [← catalog.pipeline?_congr own, found]; rfl
    | false => rfl
  · simp only [Scope.proposedView, Scope.ofEdit]
    split
    · rename_i own
      rw [← consistent.upstreamsOf_eq found]
      exact catalog.upstreamsOf_congr own
    · rfl

/-- A committed pipeline's dependencies can be followed just when they settle. -/
theorem Consistent.dependencyProblems_eq_nil_iff {catalog : Catalog}
    (consistent : catalog.Consistent) {pipeline : Pipeline}
    (found : catalog.pipeline? pipeline.name = some pipeline) :
    pipeline.dependencyProblems (.ofEdit catalog pipeline) = [] ↔
      catalog.dependencyView.Settles pipeline.name := by
  rw [← DependencyView.findCycle_eq_ok_iff catalog.regular_dependencyView,
    ← consistent.findCycle_of_committed found, Pipeline.dependencyProblems]
  split
  · rename_i failure failed
    simp [failed]
  · rename_i succeeded
    simp [succeeded]

end Catalog

end PipelineConfig
