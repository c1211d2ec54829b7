import Mathlib.Logic.Function.Iterate
import PipelineConfig.Graph.Reach
import PipelineConfig.Proofs.DependencyOrder

/-!
# What depends on a pipeline

Two searches say what depends on a pipeline through others. One follows the downstream table breadth
first and leaves out its start, the other marks nodes of the graph depth first. Both end, and both
find the pipelines from which a chain of dependency materials leads up to the start. The direct
dependents that the graph shows are those of the downstream table.
-/

namespace PipelineConfig

namespace DependencyGraph

variable {graph : DependencyGraph}

/-! ## Marking -/

/-- The edges from marked nodes lead to marked or pending nodes. -/
def Closed (graph : DependencyGraph) (marked pending : List graph.Node) : Prop :=
  ∀ node ∈ marked, ∀ next, graph.Leads node next → next ∈ marked ∨ next ∈ pending

variable {marked pending : List graph.Node} {next : graph.Node}

theorem Closed.skip (closed : graph.Closed marked (next :: pending)) (old : next ∈ marked) :
    graph.Closed marked pending := by
  intro node member other leads
  rcases closed node member other leads with before | queued
  · exact .inl before
  · obtain rfl | later := List.mem_cons.1 queued
    · exact .inl old
    · exact .inr later

theorem Closed.mark (closed : graph.Closed marked (next :: pending)) :
    graph.Closed (next :: marked) (graph.successors next ++ pending) := by
  intro node member other leads
  obtain rfl | before := List.mem_cons.1 member
  · exact .inr (List.mem_append_left _ (mem_successors.2 leads))
  · rcases closed node before other leads with before | queued
    · exact .inl (List.mem_cons_of_mem _ before)
    · obtain rfl | later := List.mem_cons.1 queued
      · exact .inl List.mem_cons_self
      · exact .inr (List.mem_append_right _ later)

/-- In the end all pending nodes are marked, and no edge leads from the marked nodes to others. -/
theorem Closed.markFrom (closed : graph.Closed marked pending) :
    graph.Closed (graph.markFrom marked pending) [] ∧
      ∀ node, node ∈ marked ∨ node ∈ pending → node ∈ graph.markFrom marked pending := by
  fun_induction DependencyGraph.markFrom graph marked pending with
  | case1 marked => exact ⟨closed, fun node member => by simpa using member⟩
  | case2 marked next pending old ih =>
    obtain ⟨ended, kept⟩ := ih (closed.skip old)
    refine ⟨ended, fun node member => kept node ?_⟩
    rw [List.mem_cons] at member
    rcases member with before | rfl | queued
    · exact .inl before
    · exact .inl old
    · exact .inr queued
  | case3 marked next pending _ ih =>
    obtain ⟨ended, kept⟩ := ih closed.mark
    refine ⟨ended, fun node member => kept node ?_⟩
    rw [List.mem_cons] at member
    rcases member with before | rfl | queued
    · exact .inl (List.mem_cons_of_mem _ before)
    · exact .inl List.mem_cons_self
    · exact .inr (List.mem_append_right _ queued)

/-- Only nodes to which `source` leads are marked, if there were no others among the marked and
pending ones. -/
theorem reaches_of_mem_markFrom {source : graph.Node}
    (marked_reached : ∀ node ∈ marked, Relation.ReflTransGen graph.Leads source node)
    (pending_reached : ∀ node ∈ pending, Relation.ReflTransGen graph.Leads source node) :
    ∀ node ∈ graph.markFrom marked pending, Relation.ReflTransGen graph.Leads source node := by
  fun_induction markFrom graph marked pending with
  | case1 => exact marked_reached
  | case2 marked next pending _ ih =>
    exact ih marked_reached (List.forall_mem_cons.1 pending_reached).2
  | case3 marked next pending _ ih =>
    obtain ⟨next_reached, rest_reached⟩ := List.forall_mem_cons.1 pending_reached
    refine ih (List.forall_mem_cons.2 ⟨next_reached, marked_reached⟩) fun node member => ?_
    rcases List.mem_append.1 member with onward | queued
    · exact next_reached.tail (mem_successors.1 onward)
    · exact rest_reached node queued

theorem mem_reachableFrom_iff {source target : graph.Node} :
    target ∈ graph.reachableFrom source ↔ Relation.ReflTransGen graph.Leads source target := by
  have start : graph.Closed [] [source] := fun node member => absurd member List.not_mem_nil
  obtain ⟨closed, kept⟩ := start.markFrom
  constructor
  · exact reaches_of_mem_markFrom (by simp) (by simp [Relation.ReflTransGen.refl]) target
  · intro reaches
    induction reaches with
    | refl => exact kept source (.inr List.mem_cons_self)
    | tail _ leads ih => exact (closed _ ih _ leads).resolve_right List.not_mem_nil

/-! ## The graph of a catalog -/

variable {catalog : Catalog}

theorem isSome_node?_iff {name : Name} :
    ((ofCatalog catalog).node? name).isSome = true ↔ catalog.Mentions name := by
  rw [← exists_node_iff, Option.isSome_iff_exists]
  constructor
  · rintro ⟨node, found⟩
    exact ⟨node, same_of_position? found⟩
  · rintro ⟨node, same⟩
    have found : (ofCatalog catalog).node? ((ofCatalog catalog).nameOf node) = some node :=
      node?_nameOf node
    exact ⟨node, (position?_congr _ (Name.same_symm same)).trans found⟩

/-- One node leads to another just when the names of the two are linked by downstream edges. -/
theorem transGen_leads_iff (consistent : catalog.Consistent) {name upstream : Name}
    {source target : (ofCatalog catalog).Node}
    (at_target : (ofCatalog catalog).node? name = some target)
    (at_source : (ofCatalog catalog).node? upstream = some source) :
    Relation.TransGen (ofCatalog catalog).Leads source target ↔
      Relation.TransGen catalog.DependsOn name upstream := by
  rw [← consistent.waits_iff_dependsOn]
  constructor
  · intro chain
    have leads := consistent.leads_iff.2 (waits_chain_of_leads consistent chain)
    exact consistent.leads_iff.1
      ((leads.congr_left (same_of_position? at_source)).congr_right (same_of_position? at_target))
  · intro chain
    obtain ⟨first, last, at_last, at_first, leads⟩ := leads_chain_of_waits consistent chain
    obtain rfl := Option.some.inj (at_source.symm.trans at_first)
    obtain rfl := Option.some.inj (at_target.symm.trans at_last)
    exact leads

theorem dependsOn_iff (consistent : catalog.Consistent) {name upstream : Name} :
    (ofCatalog catalog).dependsOn name upstream = true ↔
      name.same upstream = false ∧ Relation.TransGen catalog.DependsOn name upstream := by
  constructor
  · intro depends
    rw [dependsOn] at depends
    split at depends
    · rename_i target source at_target at_source
      simp only [Bool.and_eq_true, bne_iff_ne, ne_eq, decide_eq_true_eq,
        mem_reachableFrom_iff] at depends
      obtain ⟨apart, reaches⟩ := depends
      refine ⟨?_, ?_⟩
      · rw [Bool.eq_false_iff]
        intro same
        have found := (position?_congr _ same).symm.trans at_target
        exact apart (Option.some.inj (at_source.symm.trans found))
      · rcases Relation.reflTransGen_iff_eq_or_transGen.1 reaches with equal | chain
        · exact absurd equal.symm apart
        · exact (transGen_leads_iff consistent at_target at_source).1 chain
    · simp at depends
  · rintro ⟨apart, chain⟩
    rw [← consistent.waits_iff_dependsOn] at chain
    obtain ⟨source, target, at_target, at_source, leads⟩ := leads_chain_of_waits consistent chain
    have distinct : source ≠ target := by
      rintro rfl
      have same := Name.same_trans (Name.same_symm (same_of_position? at_target))
        (same_of_position? at_source)
      simp [apart] at same
    rw [dependsOn, at_target, at_source]
    simp [distinct, mem_reachableFrom_iff, leads.to_reflTransGen]

/-- The dependents that the graph shows are what the downstream table holds, each once. -/
theorem dependents?_told (consistent : catalog.Consistent) {upstream : Name}
    {shown : List String} (told : (ofCatalog catalog).dependents? upstream = some shown) :
    (shown.Pairwise fun left right => (Name.mk left).same ⟨right⟩ = false) ∧
      ∀ name, Spells shown name ↔ (catalog.downstreamsOf upstream).has name = true := by
  obtain ⟨source, at_source, rfl⟩ := Option.map_eq_some_iff.1 told
  have listed {text : String} : text ∈ (ofCatalog catalog).sortedTexts
      ((ofCatalog catalog).successors source) ↔
        ∃ target, (ofCatalog catalog).Leads source target ∧
          ((ofCatalog catalog).nameOf target).text = text := by
    simp [sortedTexts, Text.mem_sortedDistinct, mem_successors]
  constructor
  · refine List.Pairwise.imp_of_mem ?_ (Text.nodup_sortedDistinct _)
    intro left right left_shown right_shown apart
    obtain ⟨first, _, rfl⟩ := listed.1 left_shown
    obtain ⟨second, _, rfl⟩ := listed.1 right_shown
    refine Bool.eq_false_iff.2 fun same => apart ?_
    rw [eq_of_same_nameOf same]
  · intro name
    have feeds : (catalog.downstreamsOf upstream).has name = true ↔
        catalog.dependencyView.Waits name upstream := consistent.feeds_iff
    rw [feeds]
    constructor
    · rintro ⟨text, shown, same⟩
      obtain ⟨target, leads, rfl⟩ := listed.1 shown
      have waits := waits_of_leads consistent leads
      exact (waits.congr_left catalog.regular_dependencyView same).congr_right
        (same_of_position? at_source)
    · intro waits
      obtain ⟨first, target, at_target, at_first, leads⟩ := leads_of_waits consistent waits
      obtain rfl := Option.some.inj (at_source.symm.trans at_first)
      exact ⟨_, listed.2 ⟨target, leads, rfl⟩, same_of_position? at_target⟩

end DependencyGraph

namespace Catalog

open DependencyGraph

variable {catalog : Catalog}

/-! ## The search downstream, step by step -/

/-- One step of the search downstream, on the names found and the names queued. -/
def exploreNext (catalog : Catalog) (origin : Name) :
    NameSet × List Name → NameSet × List Name
  | (seen, []) => (seen, [])
  | (seen, next :: queue) =>
    if next.same origin || seen.has next then (seen, queue)
    else (seen.add next, queue ++ (catalog.downstreamsOf next).toList)

/-- After finitely many steps nothing is queued any more. -/
theorem iterate_exploreNext (catalog : Catalog) (origin : Name) (seen : NameSet)
    (queue : List Name) :
    ∃ steps, (catalog.exploreNext origin)^[steps] (seen, queue) =
      (catalog.exploreDownstream origin seen queue, []) := by
  fun_induction exploreDownstream catalog origin seen queue with
  | case1 seen => exact ⟨0, rfl⟩
  | case2 seen next queue old ih =>
    obtain ⟨steps, run⟩ := ih
    refine ⟨steps + 1, ?_⟩
    rw [Function.iterate_succ_apply, exploreNext, if_pos old, run]
  | case3 seen next queue fresh ih =>
    obtain ⟨steps, run⟩ := ih
    refine ⟨steps + 1, ?_⟩
    rw [Function.iterate_succ_apply, exploreNext, if_neg fresh, run]

/-- The search downstream ends. What it finds is what the graph says to depend on its start, and
these are the other pipelines from which a chain of dependency materials leads up to the start. The
graph shows no dependents of a name that the catalog does not mention, and otherwise each pipeline
directly downstream once. -/
theorem Reachable.reachability_told [Pattern.Engine] (reachable : catalog.Reachable) :
    (∀ upstream, ∃ steps, (catalog.exploreNext upstream)^[steps]
      (∅, (catalog.downstreamsOf upstream).toList) =
        (catalog.transitiveDownstreamsOf upstream, [])) ∧
    (∀ name upstream,
      ((catalog.transitiveDownstreamsOf upstream).has name = true ↔
        (ofCatalog catalog).dependsOn name upstream = true) ∧
      ((ofCatalog catalog).dependsOn name upstream = true ↔
        name.same upstream = false ∧ Relation.TransGen catalog.DependsOn name upstream)) ∧
    ∀ upstream,
      ((ofCatalog catalog).dependents? upstream = none ↔ ¬catalog.Mentions upstream) ∧
      ∀ shown, (ofCatalog catalog).dependents? upstream = some shown →
        (shown.Pairwise fun left right => (Name.mk left).same ⟨right⟩ = false) ∧
          ∀ name, Spells shown name ↔ (catalog.downstreamsOf upstream).has name = true := by
  have consistent := reachable.consistent
  refine ⟨fun upstream => catalog.iterate_exploreNext upstream ∅ _, fun name upstream => ?_,
    fun upstream => ⟨?_, fun shown told => dependents?_told consistent told⟩⟩
  · have table : (catalog.transitiveDownstreamsOf upstream).has name = true ↔
        name.same upstream = false ∧ Relation.TransGen catalog.DependsOn name upstream := by
      rw [has_transitiveDownstreamsOf_iff, ← consistent.waits_iff_dependsOn,
        ← consistent.leads_iff]
      rfl
    exact ⟨table.trans (dependsOn_iff consistent).symm, dependsOn_iff consistent⟩
  · rw [dependents?, Option.map_eq_none_iff, ← isSome_node?_iff, Bool.not_eq_true,
      Option.isSome_eq_false_iff, Option.isNone_iff_eq_none]

/-- A pipeline with nothing but a dependency. -/
def waitingFor (name upstream : String) : Pipeline :=
  { name := ⟨name⟩,
    materials.items := [⟨.dependency ⟨upstream⟩ ⟨"run"⟩, none, none, true, .none⟩] }

/-- Records of two pipelines that wait for each other, and of one that waits for an unknown one. -/
def entangled : List Operation :=
  [.record (waitingFor "build" "Deploy") "first", .record (waitingFor "deploy" "build") "first",
    .record (waitingFor "docs" "ghost") "second"]

theorem reachability_entangled :
    let catalog := (initial none).performAll entangled
    (ofCatalog catalog).dependsOn ⟨"build"⟩ ⟨"DEPLOY"⟩ = true ∧
    (catalog.transitiveDownstreamsOf ⟨"DEPLOY"⟩).has ⟨"build"⟩ = true ∧
    (catalog.transitiveDownstreamsOf ⟨"DEPLOY"⟩).has ⟨"deploy"⟩ = false ∧
    ∃ shown, (ofCatalog catalog).dependents? ⟨"ghost"⟩ = some shown ∧ Spells shown ⟨"docs"⟩ := by
  intro catalog
  obtain ⟨-, agree, direct⟩ := Reachable.reachability_told ⟨none, entangled, rfl⟩
  have build : catalog.DependsOn ⟨"build"⟩ ⟨"DEPLOY"⟩ :=
    ⟨waitingFor "build" "Deploy", by decide +kernel, _, List.mem_singleton.2 rfl, by decide⟩
  have docs : catalog.DependsOn ⟨"docs"⟩ ⟨"ghost"⟩ :=
    ⟨waitingFor "docs" "ghost", by decide +kernel, _, List.mem_singleton.2 rfl, by decide⟩
  have depends := (agree ⟨"build"⟩ ⟨"DEPLOY"⟩).2.2 ⟨by decide, .single build⟩
  refine ⟨depends, (agree _ _).1.2 depends, ?itself, ?dependents⟩
  case itself =>
    rw [Bool.eq_false_iff]
    intro found
    have apart := ((agree _ _).2.1 ((agree _ _).1.1 found)).1
    exact absurd apart (by decide)
  case dependents =>
    obtain ⟨absent_iff, told⟩ := direct ⟨"ghost"⟩
    cases shown : (ofCatalog catalog).dependents? ⟨"ghost"⟩ with
    | none => exact absurd (.inr ⟨⟨"docs"⟩, docs⟩) (absent_iff.1 shown)
    | some names => exact ⟨names, rfl, ((told names shown).2 _).2 (by decide +kernel)⟩

end Catalog

end PipelineConfig
