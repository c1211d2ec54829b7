import PipelineConfig.Graph.Rendering
import PipelineConfig.Proofs.Committed
import PipelineConfig.Proofs.GraphOrder
import PipelineConfig.Proofs.Soundness

/-!
# The search for cycles and the graph agree

The search for cycles walks the upstream table from one pipeline, the order of the graph looks at
all materials at once and has nodes even for unknown pipelines. Both see the same loops: an edge of
the graph is a dependency read downstream.
-/

namespace PipelineConfig

namespace DependencyGraph

/-! ## Nodes -/

theorem position?_isSome {names : List Name} {name : Name} :
    (position? names name).isSome = DependencyView.isOn names name := by
  rw [position?, List.isSome_findFinIdx?, DependencyView.isOn]

theorem same_of_position? {names : List Name} {name : Name} {node : Fin names.length}
    (found : position? names name = some node) : (names.get node).same name = true := by
  rw [position?, List.findFinIdx?_eq_some_iff] at found
  exact found.1

theorem position?_congr (names : List Name) {left right : Name} (same : left.same right = true) :
    position? names left = position? names right := by
  simp only [position?, Name.same_congr_right _ same]

theorem isOn_addNode (names : List Name) (added name : Name) :
    DependencyView.isOn (addNode names added) name =
      (DependencyView.isOn names name || added.same name) := by
  rw [addNode]
  split
  · rename_i there
    cases same : added.same name with
    | true => rw [← DependencyView.isOn_congr names same, there]; rfl
    | false => simp
  · simp [DependencyView.isOn]

theorem isOn_foldl_addNode (added names : List Name) (name : Name) :
    DependencyView.isOn (added.foldl addNode names) name =
      (DependencyView.isOn names name || DependencyView.isOn added name) := by
  induction added generalizing names with
  | nil => simp [DependencyView.isOn]
  | cons head rest ih =>
    rw [List.foldl_cons, ih, isOn_addNode, DependencyView.isOn_cons, Bool.or_assoc]

/-- Every committed pipeline is a node. -/
theorem isSome_node?_of_mem {catalog : Catalog} {named : Name × Entry}
    (member : named ∈ catalog.entries.entries) :
    ((ofCatalog catalog).node? named.1).isSome = true := by
  have committed : DependencyView.isOn catalog.names named.1 = true :=
    List.any_eq_true.2 ⟨named.1, List.mem_map_of_mem member, Name.same_self _⟩
  rw [node?, position?_isSome, ofCatalog, nodesOf, isOn_foldl_addNode, committed, Bool.true_or]

/-- Every pipeline that a dependency material names is a node. -/
theorem isSome_node?_of_upstream {catalog : Catalog} {named : Name × Entry}
    (member : named ∈ catalog.entries.entries) {material : Material}
    (declared : material ∈ named.2.pipeline.materials.items) {upstream : Name}
    (waits : material.upstream? = some upstream) :
    ((ofCatalog catalog).node? upstream).isSome = true := by
  have listed : upstream ∈ catalog.entries.values.flatMap fun entry =>
      entry.pipeline.materials.items.filterMap Material.upstream? :=
    List.mem_flatMap.2 ⟨named.2, List.mem_map_of_mem member,
      List.mem_filterMap.2 ⟨material, declared, waits⟩⟩
  rw [node?, position?_isSome, ofCatalog, nodesOf, isOn_foldl_addNode, Bool.or_eq_true]
  exact .inr (List.any_eq_true.2 ⟨upstream, listed, Name.same_self _⟩)

/-! ## Edges -/

theorem mem_edgesInto {names : List Name} {name : Name} {pipeline : Pipeline}
    {edge : DependencyEdge names.length} :
    edge ∈ edgesInto names name pipeline ↔
      ∃ material ∈ pipeline.materials.items, ∃ upstream,
        material.target? = some (upstream, edge.stage) ∧
          position? names name = some edge.target ∧
            position? names upstream = some edge.source := by
  rw [edgesInto, List.mem_filterMap]
  constructor
  · rintro ⟨material, declared, given⟩
    split at given
    · rename_i upstream stage target waits at_target
      obtain ⟨source, at_source, rfl⟩ := Option.map_eq_some_iff.1 given
      exact ⟨material, declared, upstream, waits, at_target, at_source⟩
    · simp at given
  · rintro ⟨material, declared, upstream, waits, at_target, at_source⟩
    exact ⟨material, declared, by simp [waits, at_target, at_source]⟩

/-- An edge comes from a dependency material of a committed pipeline. -/
theorem leads_ofCatalog_iff {catalog : Catalog} {source target : (ofCatalog catalog).Node} :
    (ofCatalog catalog).Leads source target ↔
      ∃ named ∈ catalog.entries.entries, ∃ material ∈ named.2.pipeline.materials.items,
        ∃ upstream, material.upstream? = some upstream ∧
          (ofCatalog catalog).node? named.1 = some target ∧
            (ofCatalog catalog).node? upstream = some source := by
  constructor
  · rintro ⟨edge, given, rfl, rfl⟩
    obtain ⟨named, member, given⟩ := List.mem_flatMap.1 given
    obtain ⟨material, declared, upstream, waits, at_target, at_source⟩ := mem_edgesInto.1 given
    exact ⟨named, member, material, declared, upstream, by simp [Material.upstream?, waits],
      at_target, at_source⟩
  · rintro ⟨named, member, material, declared, upstream, waits, at_target, at_source⟩
    obtain ⟨⟨_, stage⟩, target_eq, rfl⟩ := Option.map_eq_some_iff.1 waits
    refine ⟨⟨source, target, stage⟩, List.mem_flatMap.2 ⟨named, member, ?_⟩, rfl, rfl⟩
    exact mem_edgesInto.2 ⟨material, declared, _, target_eq, at_target, at_source⟩

variable {catalog : Catalog}

/-- An edge of the graph is a dependency of its target. -/
theorem waits_of_leads (consistent : catalog.Consistent)
    {source target : (ofCatalog catalog).Node} (leads : (ofCatalog catalog).Leads source target) :
    catalog.dependencyView.Waits ((ofCatalog catalog).nameOf target)
      ((ofCatalog catalog).nameOf source) := by
  obtain ⟨named, member, material, declared, upstream, waits, at_target, at_source⟩ :=
    leads_ofCatalog_iff.1 leads
  have found : catalog.pipeline? named.1 = some named.2.pipeline :=
    Catalog.pipeline?_eq_some_iff.2 ⟨named.2.group, Table.get?_of_mem member⟩
  have target_same : ((ofCatalog catalog).nameOf target).same named.1 = true :=
    same_of_position? at_target
  have source_same : ((ofCatalog catalog).nameOf source).same upstream = true :=
    same_of_position? at_source
  rw [← catalog.pipeline?_congr target_same] at found
  have depends : material.dependsOn ((ofCatalog catalog).nameOf source) = true := by
    simp [Material.dependsOn, waits, Name.same_symm source_same]
  exact consistent.waits_iff.2 ⟨_, found, material, declared, depends⟩

/-- A dependency is an edge between the nodes of its names. -/
theorem leads_of_waits (consistent : catalog.Consistent) {name upstream : Name}
    (waits : catalog.dependencyView.Waits name upstream) :
    ∃ source target, (ofCatalog catalog).node? name = some target ∧
      (ofCatalog catalog).node? upstream = some source ∧
        (ofCatalog catalog).Leads source target := by
  obtain ⟨pipeline, found, material, declared, depends⟩ := consistent.waits_iff.1 waits
  obtain ⟨spelled, waits, spelled_same⟩ := (Option.any_eq_true _ _).1 depends
  obtain ⟨group, entered⟩ := Catalog.pipeline?_eq_some_iff.1 found
  obtain ⟨named, member, equal, entry⟩ := Table.get?_eq_some_iff.1 entered
  have declared : material ∈ named.2.pipeline.materials.items := by rwa [entry]
  obtain ⟨target, at_target⟩ := Option.isSome_iff_exists.1 (isSome_node?_of_mem member)
  obtain ⟨source, at_source⟩ :=
    Option.isSome_iff_exists.1 (isSome_node?_of_upstream member declared waits)
  refine ⟨source, target, ?_, ?_, leads_ofCatalog_iff.2
    ⟨named, member, material, declared, spelled, waits, at_target, at_source⟩⟩
  · rw [← at_target]
    exact position?_congr _ (Name.compare_eq_iff_same.1 equal)
  · rw [← at_source]
    exact position?_congr _ (Name.same_symm spelled_same)

/-- What a node leads to depends on it, through others or directly. -/
theorem waits_chain_of_leads (consistent : catalog.Consistent)
    {source target : (ofCatalog catalog).Node}
    (chain : Relation.TransGen (ofCatalog catalog).Leads source target) :
    Relation.TransGen catalog.dependencyView.Waits ((ofCatalog catalog).nameOf target)
      ((ofCatalog catalog).nameOf source) := by
  induction chain with
  | single leads => exact .single (waits_of_leads consistent leads)
  | tail _ leads ih => exact .head (waits_of_leads consistent leads) ih

/-- A chain of dependencies runs through the nodes of its names, in the other direction. -/
theorem leads_chain_of_waits (consistent : catalog.Consistent) {name upstream : Name}
    (chain : Relation.TransGen catalog.dependencyView.Waits name upstream) :
    ∃ source target, (ofCatalog catalog).node? name = some target ∧
      (ofCatalog catalog).node? upstream = some source ∧
        Relation.TransGen (ofCatalog catalog).Leads source target := by
  induction chain with
  | single waits =>
    obtain ⟨source, target, at_target, at_source, leads⟩ := leads_of_waits consistent waits
    exact ⟨source, target, at_target, at_source, .single leads⟩
  | tail _ waits ih =>
    obtain ⟨middle, target, at_target, at_middle, onward⟩ := ih
    obtain ⟨source, next, at_next, at_source, leads⟩ := leads_of_waits consistent waits
    obtain rfl := Option.some.inj (at_middle.symm.trans at_next)
    exact ⟨source, target, at_target, at_source, .head leads onward⟩

/-- The graph has a loop just when some dependencies lead back to their pipeline. -/
theorem acyclic_ofCatalog_iff (consistent : catalog.Consistent) :
    (ofCatalog catalog).Acyclic ↔
      ∀ name, ¬Relation.TransGen catalog.dependencyView.Waits name name := by
  constructor
  · intro acyclic name loop
    obtain ⟨source, target, at_target, at_source, leads⟩ := leads_chain_of_waits consistent loop
    obtain rfl := Option.some.inj (at_source.symm.trans at_target)
    exact acyclic source leads
  · intro free node loop
    exact free ((ofCatalog catalog).nameOf node) (waits_chain_of_leads consistent loop)

theorem orderedNames_isOk_iff {graph : DependencyGraph} :
    (∃ names, graph.orderedNames = .ok names) ↔ graph.Acyclic := by
  rw [← orderedNodes_isOk_iff, orderedNames]
  cases graph.orderedNodes <;> simp

theorem text_isOk_iff {graph : DependencyGraph} :
    (∃ text, graph.text = .ok text) ↔ graph.Acyclic := by
  rw [← orderedNodes_isOk_iff, text]
  cases graph.orderedNodes <;> simp

theorem orderedNames_isError_iff {graph : DependencyGraph} :
    (∃ failure, graph.orderedNames = .error failure) ↔ ¬graph.Acyclic := by
  rw [← orderedNodes_isOk_iff, orderedNames]
  cases graph.orderedNodes <;> simp

end DependencyGraph

namespace Catalog

open DependencyGraph

variable {catalog : Catalog}

/-- What lies on a loop is committed. -/
theorem Consistent.committed_of_loop (consistent : catalog.Consistent) {name : Name}
    (loop : Relation.TransGen catalog.dependencyView.Waits name name) :
    ∃ entry ∈ catalog.entries.values, entry.pipeline.name.same name = true := by
  obtain ⟨upstream, waits, _⟩ := Relation.TransGen.head'_iff.1 loop
  obtain ⟨pipeline, found, _⟩ := consistent.waits_iff.1 waits
  obtain ⟨group, entered⟩ := pipeline?_eq_some_iff.1 found
  exact ⟨⟨group, pipeline⟩, Table.mem_values_iff.2 ⟨name, entered⟩, consistent.named found⟩

/-- Searches that all succeed leave no loop. -/
theorem Consistent.acyclic_of_findCycle (consistent : catalog.Consistent)
    (succeed : ∀ entry ∈ catalog.entries.values,
      catalog.dependencyView.findCycle entry.pipeline.name = .ok ()) :
    (ofCatalog catalog).Acyclic := by
  rw [acyclic_ofCatalog_iff consistent]
  intro name loop
  obtain ⟨entry, member, same⟩ := consistent.committed_of_loop loop
  have settles := (DependencyView.findCycle_eq_ok_iff catalog.regular_dependencyView).1
    (succeed entry member)
  exact (settles.congr catalog.regular_dependencyView same).not_loop loop

theorem Consistent.findCycle_of_sound [Pattern.Engine] (consistent : catalog.Consistent)
    (sound : catalog.Sound) :
    ∀ entry ∈ catalog.entries.values,
      catalog.dependencyView.findCycle entry.pipeline.name = .ok () := by
  intro entry _
  exact (DependencyView.findCycle_eq_ok_iff catalog.regular_dependencyView).2
    (sound.settles consistent entry.pipeline.name)

/-- Every pipeline that a dependency material names is committed. -/
def UpstreamsCommitted (catalog : Catalog) : Prop :=
  ∀ entry ∈ catalog.entries.values, ∀ material ∈ entry.pipeline.materials.items,
    ∀ upstream, material.upstream? = some upstream → catalog.contains upstream = true

theorem Consistent.knows_of_waits (consistent : catalog.Consistent)
    (closed : catalog.UpstreamsCommitted) {name upstream : Name}
    (waits : catalog.dependencyView.Waits name upstream) :
    catalog.dependencyView.knows upstream = true := by
  obtain ⟨pipeline, found, material, declared, depends⟩ := consistent.waits_iff.1 waits
  obtain ⟨spelled, waits, same⟩ := (Option.any_eq_true _ _).1 depends
  obtain ⟨group, entered⟩ := pipeline?_eq_some_iff.1 found
  have known := closed _ (Table.mem_values_iff.2 ⟨name, entered⟩) material declared spelled waits
  rwa [knows_dependencyView, ← catalog.pipeline?_congr same, ← contains_eq_isSome]

/-- A search fails for a loop only if there is one. -/
theorem loop_of_findCycle {root : Name} {path : List Name}
    (failed : catalog.dependencyView.findCycle root = .error (.circularDependency path)) :
    ∃ name, Relation.TransGen catalog.dependencyView.Waits name name := by
  obtain ⟨current, outer, next, walked, waits, ⟨_, unknown⟩ | ⟨met, _⟩⟩ :=
    DependencyView.obstructed_of_findCycle failed
  · simp at unknown
  · obtain ⟨name, _, loop⟩ := walked.loop waits met
    exact ⟨name, loop⟩

/-- With all upstream pipelines committed, some search finds a loop if there is one. -/
theorem Consistent.findCycle_of_loop (consistent : catalog.Consistent)
    (closed : catalog.UpstreamsCommitted) {name : Name}
    (loop : Relation.TransGen catalog.dependencyView.Waits name name) :
    ∃ entry ∈ catalog.entries.values, ∃ path,
      catalog.dependencyView.findCycle entry.pipeline.name = .error (.circularDependency path) := by
  obtain ⟨entry, member, same⟩ := consistent.committed_of_loop loop
  refine ⟨entry, member, ?_⟩
  cases searched : catalog.dependencyView.findCycle entry.pipeline.name with
  | ok =>
    have settles := (DependencyView.findCycle_eq_ok_iff catalog.regular_dependencyView).1 searched
    exact absurd loop (settles.congr catalog.regular_dependencyView same).not_loop
  | error failure =>
    obtain ⟨current, outer, next, _, waits, ⟨unknown, _⟩ | ⟨_, circular⟩⟩ :=
      DependencyView.obstructed_of_findCycle searched
    · simp [consistent.knows_of_waits closed waits] at unknown
    · exact ⟨_, congrArg Except.error circular⟩

/-- The search for cycles and the order of the graph agree. If no search finds anything, as in a
sound catalog, there is an order. If all upstream pipelines are committed, there is none just when
some search finds a loop. -/
theorem Reachable.cycles_agree [Pattern.Engine] (reachable : catalog.Reachable) :
    ((∀ entry ∈ catalog.entries.values,
        catalog.dependencyView.findCycle entry.pipeline.name = .ok ()) →
      (∃ names, (ofCatalog catalog).orderedNames = .ok names) ∧
        ∃ text, (ofCatalog catalog).text = .ok text) ∧
    (catalog.Sound →
      (∃ names, (ofCatalog catalog).orderedNames = .ok names) ∧
        ∃ text, (ofCatalog catalog).text = .ok text) ∧
    (catalog.UpstreamsCommitted →
      ((∃ failure, (ofCatalog catalog).orderedNames = .error failure) ↔
        ∃ entry ∈ catalog.entries.values, ∃ path,
          catalog.dependencyView.findCycle entry.pipeline.name =
            .error (.circularDependency path))) := by
  have consistent := reachable.consistent
  have ordered (succeed : ∀ entry ∈ catalog.entries.values,
      catalog.dependencyView.findCycle entry.pipeline.name = .ok ()) :=
    consistent.acyclic_of_findCycle succeed
  refine ⟨fun succeed => ?_, fun sound => ?_, fun closed => ?_⟩
  · exact ⟨orderedNames_isOk_iff.2 (ordered succeed), text_isOk_iff.2 (ordered succeed)⟩
  · have succeed := consistent.findCycle_of_sound sound
    exact ⟨orderedNames_isOk_iff.2 (ordered succeed), text_isOk_iff.2 (ordered succeed)⟩
  · rw [orderedNames_isError_iff, acyclic_ofCatalog_iff consistent]
    constructor
    · intro cyclic
      obtain ⟨name, loop⟩ := Classical.not_forall.1 cyclic
      exact consistent.findCycle_of_loop closed (Classical.not_not.1 loop)
    · rintro ⟨entry, _, path, failed⟩ free
      obtain ⟨name, loop⟩ := loop_of_findCycle failed
      exact free name loop

/-- Two pipelines, one of which waits for the other. -/
def inTurn : List Operation :=
  [.record { name := ⟨"build"⟩ } "first",
    .record { name := ⟨"deploy"⟩, materials.items := [⟨.dependency ⟨"Build"⟩ ⟨"run"⟩, none, none,
      true, .none⟩] } "second"]

/-- A pipeline that waits for itself. -/
def selfWaiting : Pipeline :=
  { name := ⟨"loop"⟩,
    materials.items := [⟨.dependency ⟨"Loop"⟩ ⟨"run"⟩, none, none, true, .none⟩] }

theorem cycles_agree_inTurn_selfWaiting :
    ((∃ names, (ofCatalog ((initial none).performAll inTurn)).orderedNames = .ok names) ∧
      ∃ text, (ofCatalog ((initial none).performAll inTurn)).text = .ok text) ∧
    ∃ failure, (ofCatalog ((initial none).performAll
      [.record selfWaiting "first"])).orderedNames = .error failure := by
  constructor
  · refine (Reachable.cycles_agree ⟨none, inTurn, rfl⟩).1 fun entry member => ?_
    have idle : ∀ entry ∈ ((initial none).performAll inTurn).entries.values,
        ∀ upstream ∈ (((initial none).performAll inTurn).upstreamsOf entry.pipeline.name).toList,
          ((initial none).performAll inTurn).dependencyView.knows upstream = true ∧
            (((initial none).performAll inTurn).upstreamsOf upstream).toList = [] := by
      decide +kernel
    exact (DependencyView.findCycle_eq_ok_iff (regular_dependencyView _)).2
      (DependencyView.settles_of_idle (idle entry member) (regular_dependencyView _))
  · have only (entry : Entry) (member : entry ∈ [(⟨"first", selfWaiting⟩ : Entry)]) :=
      List.mem_singleton.1 member
    have closed : ((initial none).performAll
        [.record selfWaiting "first"]).UpstreamsCommitted := by
      intro entry member material declared upstream waits
      obtain rfl := only entry member
      obtain rfl := List.mem_singleton.1 declared
      obtain rfl := Option.some.inj waits
      decide
    have upstreams : (((initial none).performAll
        [.record selfWaiting "first"]).dependencyView.upstreamsOf ⟨"loop"⟩).toList =
          [⟨"Loop"⟩] := by
      decide
    have failed : ((initial none).performAll
        [.record selfWaiting "first"]).dependencyView.findCycle ⟨"loop"⟩ =
          .error (.circularDependency [⟨"loop"⟩, ⟨"Loop"⟩]) := by
      rw [DependencyView.findCycle, upstreams, DependencyView.explore]
      decide
    exact (Reachable.cycles_agree ⟨none, [.record selfWaiting "first"], rfl⟩).2.2 closed |>.2
      ⟨⟨"first", selfWaiting⟩, by decide, _, failed⟩

end Catalog

end PipelineConfig
