import PipelineConfig.Proofs.Acyclicity
import PipelineConfig.Proofs.Removal

/-!
# The order of pipelines by their dependencies

The order of the graph is read as an order of names. It lists the committed pipelines and those that
they wait for, each once, and every pipeline after those it waits for. There is such an order just
when no chain of dependency materials leads back to its beginning; otherwise the name that is given
lies on such a chain.
-/

namespace PipelineConfig

namespace Catalog

/-- A committed pipeline has a dependency material on another pipeline. -/
def DependsOn (catalog : Catalog) (name upstream : Name) : Prop :=
  ∃ pipeline, catalog.pipeline? name = some pipeline ∧
    ∃ material ∈ pipeline.materials.items, material.dependsOn upstream = true

/-- A pipeline is committed, or a committed one depends on it. -/
def Mentions (catalog : Catalog) (name : Name) : Prop :=
  catalog.contains name = true ∨ ∃ downstream, catalog.DependsOn downstream name

/-- No two committed pipelines go by one name. -/
theorem pairwise_names (catalog : Catalog) :
    catalog.names.Pairwise fun left right => left.same right = false :=
  catalog.entries.pairwise_keys.imp fun before => by
    rw [Name.same_eq_isEq, before]
    rfl

theorem Consistent.waits_iff_dependsOn {catalog : Catalog} (consistent : catalog.Consistent) :
    catalog.dependencyView.Waits = catalog.DependsOn := by
  funext name upstream
  exact propext consistent.waits_iff

end Catalog

/-- A name stands in a list of texts in some spelling. -/
def Spells (texts : List String) (name : Name) : Prop :=
  ∃ text ∈ texts, (Name.mk text).same name = true

/-- An order of the names that a catalog mentions. -/
structure Catalog.OrderedAs (catalog : Catalog) (texts : List String) : Prop where
  /-- The mentioned names have a place, and no others. -/
  complete : ∀ name, Spells texts name ↔ catalog.Mentions name
  /-- No name has two places. -/
  distinct : texts.Pairwise fun left right => (Name.mk left).same ⟨right⟩ = false
  /-- What a pipeline depends on stands before it. -/
  before : ∀ name upstream, catalog.DependsOn name upstream →
    ∃ earlier text later, texts = earlier ++ text :: later ∧ (Name.mk text).same name = true ∧
      Spells earlier upstream

/-- The names that are shown as the upstream pipelines of a name in an order. -/
structure Catalog.ShownUpstreams (catalog : Catalog) (earlier : List String) (text : String)
    (shown : List String) : Prop where
  /-- They are what the pipeline directly depends on. -/
  direct : ∀ upstream, Spells shown upstream ↔ catalog.DependsOn ⟨text⟩ upstream
  /-- None is shown twice. -/
  distinct : shown.Pairwise fun left right => (Name.mk left).same ⟨right⟩ = false
  /-- Each has its place before the pipeline, in the same spelling. -/
  placed : ∀ upstream ∈ shown, upstream ∈ earlier

/-- A line of a numbered list of pipelines. -/
def numberedLine (position : Nat) (text : String) (upstreams : List String) : String :=
  let number := position + 1
  match upstreams with
  | [] => s!"{number}. {text}\n"
  | upstreams =>
    let listed := Text.joinWith ", " upstreams
    s!"{number}. {text} [depends: {listed}]\n"

namespace DependencyGraph

/-! ## Names and nodes -/

theorem pairwise_addNode {names : List Name} (added : Name)
    (distinct : names.Pairwise fun left right => left.same right = false) :
    (addNode names added).Pairwise fun left right => left.same right = false := by
  rw [addNode]
  split
  · exact distinct
  · rename_i absent
    have apart := List.any_eq_false.1 (Bool.eq_false_iff.2 absent)
    refine List.pairwise_append.2 ⟨distinct, List.pairwise_singleton _ _, ?_⟩
    intro name member other here
    obtain rfl := List.mem_singleton.1 here
    exact Bool.eq_false_iff.2 (apart name member)

theorem pairwise_foldl_addNode (added : List Name) {names : List Name}
    (distinct : names.Pairwise fun left right => left.same right = false) :
    (added.foldl addNode names).Pairwise fun left right => left.same right = false := by
  induction added generalizing names with
  | nil => exact distinct
  | cons name rest ih => exact ih (pairwise_addNode name distinct)

theorem pairwise_names_ofCatalog (catalog : Catalog) :
    (ofCatalog catalog).names.Pairwise fun left right => left.same right = false :=
  pairwise_foldl_addNode _ catalog.pairwise_names

theorem eq_of_same_nameOf {catalog : Catalog} {left right : (ofCatalog catalog).Node}
    (same : ((ofCatalog catalog).nameOf left).same ((ofCatalog catalog).nameOf right) = true) :
    left = right := by
  have distinct := List.pairwise_iff_getElem.1 (pairwise_names_ofCatalog catalog)
  rcases Nat.lt_trichotomy left.1 right.1 with before | equal | after
  · exact absurd same (Bool.eq_false_iff.1 (distinct left right left.2 right.2 before))
  · exact Fin.ext equal
  · exact absurd (Name.same_symm same)
      (Bool.eq_false_iff.1 (distinct right left right.2 left.2 after))

theorem node?_nameOf {catalog : Catalog} (node : (ofCatalog catalog).Node) :
    (ofCatalog catalog).node? ((ofCatalog catalog).nameOf node) = some node := by
  have listed : ((ofCatalog catalog).node? ((ofCatalog catalog).nameOf node)).isSome = true := by
    rw [node?, position?_isSome]
    exact List.any_eq_true.2 ⟨_, List.get_mem _ node, Name.same_self _⟩
  obtain ⟨found, at_found⟩ := Option.isSome_iff_exists.1 listed
  rw [at_found, eq_of_same_nameOf (same_of_position? at_found)]

variable {catalog : Catalog}

theorem isOn_upstreams_iff {name : Name} :
    DependencyView.isOn (catalog.entries.values.flatMap fun entry =>
        entry.pipeline.materials.items.filterMap Material.upstream?) name = true ↔
      ∃ downstream, catalog.DependsOn downstream name := by
  rw [DependencyView.isOn, List.any_eq_true]
  constructor
  · rintro ⟨upstream, listed, same⟩
    obtain ⟨entry, member, listed⟩ := List.mem_flatMap.1 listed
    obtain ⟨material, declared, waits⟩ := List.mem_filterMap.1 listed
    obtain ⟨downstream, found⟩ := Table.mem_values_iff.1 member
    exact ⟨downstream, entry.pipeline, Catalog.pipeline?_eq_some_iff.2 ⟨entry.group, found⟩,
      material, declared, by simp [Material.dependsOn, waits, same]⟩
  · rintro ⟨downstream, pipeline, found, material, declared, depends⟩
    obtain ⟨group, found⟩ := Catalog.pipeline?_eq_some_iff.1 found
    obtain ⟨upstream, waits, same⟩ := (Option.any_eq_true _ _).1 depends
    refine ⟨upstream, List.mem_flatMap.2 ⟨_, Table.mem_values_iff.2 ⟨downstream, found⟩, ?_⟩, same⟩
    exact List.mem_filterMap.2 ⟨material, declared, waits⟩

/-- The nodes are the names that the catalog mentions. -/
theorem exists_node_iff {name : Name} :
    (∃ node, ((ofCatalog catalog).nameOf node).same name = true) ↔ catalog.Mentions name := by
  have listed : (∃ node, ((ofCatalog catalog).nameOf node).same name = true) ↔
      DependencyView.isOn (ofCatalog catalog).names name = true := by
    rw [DependencyView.isOn, List.any_eq_true]
    constructor
    · rintro ⟨node, same⟩
      exact ⟨_, List.get_mem _ node, same⟩
    · rintro ⟨spelled, member, same⟩
      obtain ⟨node, rfl⟩ := List.mem_iff_get.1 member
      exact ⟨node, same⟩
  rw [listed, ofCatalog, nodesOf, isOn_foldl_addNode, Bool.or_eq_true, catalog.isOn_names,
    ← catalog.contains_eq_isSome, isOn_upstreams_iff]
  rfl

/-! ## Orders of nodes as orders of names -/

/-- The spellings of nodes, one after the other. -/
def texts (graph : DependencyGraph) (nodes : List graph.Node) : List String :=
  nodes.map fun node => (graph.nameOf node).text

theorem spells_texts_iff {graph : DependencyGraph} {nodes : List graph.Node} {name : Name} :
    Spells (graph.texts nodes) name ↔ ∃ node ∈ nodes, (graph.nameOf node).same name = true := by
  simp [Spells, texts]

theorem orderedAs_of_isOrder (consistent : catalog.Consistent)
    {order : List (ofCatalog catalog).Node} (ordered : (ofCatalog catalog).IsOrder order) :
    catalog.OrderedAs ((ofCatalog catalog).texts order) where
  complete name := by
    rw [spells_texts_iff, ← exists_node_iff]
    constructor
    · rintro ⟨node, _, same⟩
      exact ⟨node, same⟩
    · rintro ⟨node, same⟩
      exact ⟨node, ordered.complete node, same⟩
  distinct := by
    refine List.pairwise_map.2 (ordered.nodup.imp fun apart => Bool.eq_false_iff.2 ?_)
    exact fun same => apart (eq_of_same_nameOf same)
  before name upstream depends := by
    rw [← consistent.waits_iff_dependsOn] at depends
    obtain ⟨source, target, at_target, at_source, leads⟩ := leads_of_waits consistent depends
    obtain ⟨earlier, later, split_order⟩ := List.append_of_mem (ordered.complete target)
    refine ⟨(ofCatalog catalog).texts earlier, ((ofCatalog catalog).nameOf target).text,
      (ofCatalog catalog).texts later, ?_, same_of_position? at_target, ?_⟩
    · rw [split_order, texts, List.map_append, List.map_cons, texts, texts]
    · exact spells_texts_iff.2
        ⟨source, ordered.before split_order source leads, same_of_position? at_source⟩

/-- The upstream pipelines in the line of a node. -/
def upstreamTexts (graph : DependencyGraph) (node : graph.Node) : List String :=
  graph.sortedTexts (graph.predecessors node)

theorem mem_upstreamTexts {graph : DependencyGraph} {node : graph.Node} {text : String} :
    text ∈ graph.upstreamTexts node ↔
      ∃ upstream, graph.Leads upstream node ∧ (graph.nameOf upstream).text = text := by
  simp [upstreamTexts, sortedTexts, Text.mem_sortedDistinct, mem_predecessors]

theorem textLine_eq (graph : DependencyGraph) (position : Nat) (node : graph.Node) :
    graph.textLine position node =
      numberedLine position (graph.nameOf node).text (graph.upstreamTexts node) := rfl

theorem shownUpstreams_of_isOrder (consistent : catalog.Consistent)
    {order earlier later : List (ofCatalog catalog).Node} {node : (ofCatalog catalog).Node}
    (ordered : (ofCatalog catalog).IsOrder order) (split_order : order = earlier ++ node :: later) :
    catalog.ShownUpstreams ((ofCatalog catalog).texts earlier)
      ((ofCatalog catalog).nameOf node).text ((ofCatalog catalog).upstreamTexts node) where
  direct upstream := by
    constructor
    · rintro ⟨text, shown, same⟩
      obtain ⟨source, leads, rfl⟩ := mem_upstreamTexts.1 shown
      rw [← consistent.waits_iff_dependsOn]
      exact (waits_of_leads consistent leads).congr_right same
    · intro depends
      rw [← consistent.waits_iff_dependsOn] at depends
      obtain ⟨source, target, at_target, at_source, leads⟩ := leads_of_waits consistent depends
      obtain rfl := Option.some.inj ((node?_nameOf node).symm.trans at_target)
      exact ⟨_, mem_upstreamTexts.2 ⟨source, leads, rfl⟩, same_of_position? at_source⟩
  distinct := by
    refine List.Pairwise.imp_of_mem ?_ (Text.nodup_sortedDistinct _)
    intro left right left_shown right_shown apart
    obtain ⟨first, _, rfl⟩ := mem_upstreamTexts.1 left_shown
    obtain ⟨second, _, rfl⟩ := mem_upstreamTexts.1 right_shown
    refine Bool.eq_false_iff.2 fun same => apart ?_
    rw [eq_of_same_nameOf same]
  placed upstream shown := by
    obtain ⟨source, leads, rfl⟩ := mem_upstreamTexts.1 shown
    exact List.mem_map_of_mem (ordered.before split_order source leads)

end DependencyGraph

namespace Catalog

open DependencyGraph

variable {catalog : Catalog}

/-- The upstream pipelines in the line of a text. -/
def listedUpstreams (catalog : Catalog) (text : String) : List String :=
  match (ofCatalog catalog).node? ⟨text⟩ with
  | some node => (ofCatalog catalog).upstreamTexts node
  | none => []

theorem listedUpstreams_nameOf (node : (ofCatalog catalog).Node) :
    catalog.listedUpstreams ((ofCatalog catalog).nameOf node).text =
      (ofCatalog catalog).upstreamTexts node := by
  have found : (ofCatalog catalog).node? ⟨((ofCatalog catalog).nameOf node).text⟩ = some node :=
    node?_nameOf node
  rw [listedUpstreams, found]

theorem mapIdx_textLine (order : List (ofCatalog catalog).Node) :
    order.mapIdx (ofCatalog catalog).textLine =
      ((ofCatalog catalog).texts order).mapIdx fun position name =>
        numberedLine position name (catalog.listedUpstreams name) := by
  refine List.ext_getElem (by simp [texts]) fun position _ _ => ?_
  simp only [List.getElem_mapIdx, texts, List.getElem_map, listedUpstreams_nameOf, textLine_eq]

/-- The names of a catalog have an order just when no pipeline depends on itself through others or
directly. The order is one by dependencies, and the numbered list follows it and shows after each
name what it directly depends on, all of it from the lines above. The name that is given when there
is no order depends on itself. -/
theorem Reachable.orderedNames_told [Pattern.Engine] (reachable : catalog.Reachable) :
    ((∃ names, (ofCatalog catalog).orderedNames = .ok names) ↔
      ∀ name, ¬Relation.TransGen catalog.DependsOn name name) ∧
    (∀ names, (ofCatalog catalog).orderedNames = .ok names →
      catalog.OrderedAs names ∧
        ∃ listed : String → List String,
          (ofCatalog catalog).text = .ok (String.join
            (names.mapIdx fun position name => numberedLine position name (listed name))) ∧
          ∀ earlier name later, names = earlier ++ name :: later →
            catalog.ShownUpstreams earlier name (listed name)) ∧
    (∀ failure, (ofCatalog catalog).orderedNames = .error failure →
      ∃ name, failure = .circularDependency [name] ∧
        Relation.TransGen catalog.DependsOn name name) := by
  have consistent := reachable.consistent
  refine ⟨?_, fun names ordered => ?_, fun failure failed => ?_⟩
  · rw [orderedNames_isOk_iff, acyclic_ofCatalog_iff consistent, consistent.waits_iff_dependsOn]
  · rw [orderedNames] at ordered
    split at ordered
    · simp at ordered
    · rename_i order given
      obtain rfl := Except.ok.inj ordered
      have is_order := isOrder_of_orderedNodes given
      refine ⟨orderedAs_of_isOrder consistent is_order, catalog.listedUpstreams, ?_, ?_⟩
      · rw [text, given]
        exact congrArg (fun lines => Except.ok (String.join lines)) (mapIdx_textLine order)
      · intro earlier name later split_names
        obtain ⟨before, after, rfl, rfl, at_name⟩ := List.map_eq_append_iff.1 split_names
        obtain ⟨node, after, rfl, rfl, rfl⟩ := List.map_eq_cons_iff.1 at_name
        rw [listedUpstreams_nameOf]
        exact shownUpstreams_of_isOrder consistent is_order rfl
  · rw [orderedNames] at failed
    split at failed
    · rename_i node given
      obtain rfl := Except.error.inj failed
      refine ⟨_, rfl, ?_⟩
      rw [← consistent.waits_iff_dependsOn]
      exact waits_chain_of_leads consistent (loop_of_orderedNodes given)
    · simp at failed

theorem orderedNames_declaredTogether_selfWaiting :
    (∃ names, (ofCatalog (initial (some declaredTogether))).orderedNames = .ok names ∧
      ∃ earlier text later, names = earlier ++ text :: later ∧
        (Name.mk text).same ⟨"deploy"⟩ = true ∧ Spells earlier ⟨"build"⟩) ∧
    ∃ name, (ofCatalog ((initial none).performAll
        [.record selfWaiting "first"])).orderedNames = .error (.circularDependency [name]) ∧
      Relation.TransGen ((initial none).performAll [.record selfWaiting "first"]).DependsOn
        name name := by
  constructor
  · have reachable : (initial (some declaredTogether)).Reachable := ⟨some declaredTogether, [], rfl⟩
    have sound : (initial (some declaredTogether)).Sound :=
      (sound_ofConfiguration_iff declaredTogether_distinct).2 declaredTogether_allValid
    have depends : (initial (some declaredTogether)).DependsOn ⟨"deploy"⟩ ⟨"build"⟩ := by
      rw [← reachable.consistent.waits_iff_dependsOn]
      unfold DependencyView.Waits
      decide +kernel
    obtain ⟨names, ordered⟩ := orderedNames_isOk_iff.2
      (reachable.consistent.acyclic_of_findCycle (reachable.consistent.findCycle_of_sound sound))
    have told := (Reachable.orderedNames_told reachable).2.1 names ordered
    exact ⟨names, ordered, told.1.before _ _ depends⟩
  · have told := Reachable.orderedNames_told ⟨none, [.record selfWaiting "first"], rfl⟩
    cases ordered : (ofCatalog ((initial none).performAll
        [.record selfWaiting "first"])).orderedNames with
    | ok names =>
      have depends : ((initial none).performAll [.record selfWaiting "first"]).DependsOn
          ⟨"loop"⟩ ⟨"loop"⟩ := ⟨selfWaiting, by decide, _, List.mem_singleton.2 rfl, by decide⟩
      exact absurd (.single depends) (told.1.1 ⟨names, ordered⟩ ⟨"loop"⟩)
    | error failure =>
      obtain ⟨name, rfl, loop⟩ := told.2.2 failure ordered
      exact ⟨name, rfl, loop⟩

end Catalog

end PipelineConfig
