import Mathlib.Data.List.Induction
import Mathlib.Logic.Relation
import PipelineConfig.Graph.Order

/-!
# When the nodes of a graph can be ordered

The nodes of a graph have an order just when no node leads back to itself. If there is an order,
every node stands after the nodes that lead to it, so each is accessible from those before it.
Otherwise some node is given that leads back to itself: the sweep puts a node in front of all that
it leads to, loops apart, because a successor that is not done when the node is would stand below it
on the stack and lead back to it.
-/

namespace PipelineConfig.DependencyGraph

variable {graph : DependencyGraph}

/-- There is an edge from one node to another. -/
def Leads (graph : DependencyGraph) (source target : graph.Node) : Prop :=
  ∃ edge ∈ graph.edges, edge.source = source ∧ edge.target = target

/-- No node leads back to itself. -/
def Acyclic (graph : DependencyGraph) : Prop :=
  ∀ node, ¬Relation.TransGen graph.Leads node node

theorem mem_successors {source target : graph.Node} :
    target ∈ graph.successors source ↔ graph.Leads source target := by
  simp [successors, Leads, and_assoc]

theorem mem_predecessors {source target : graph.Node} :
    source ∈ graph.predecessors target ↔ graph.Leads source target := by
  simp [predecessors, Leads, and_assoc, and_comm]

/-! ## What a sweep and its check have looked at -/

/-- What a sweep brings about: all nodes on the stack are done, and no node that is done is its own
successor. -/
theorem sweep_ok {discovered done stack order : List graph.Node}
    (swept : graph.sweep discovered done stack = .ok order)
    (known : ∀ node ∈ done, node ∈ discovered)
    (plain : ∀ node ∈ discovered, ¬graph.Leads node node) :
    (∀ node ∈ done, node ∈ order) ∧ (∀ node ∈ stack, node ∈ order) ∧
      ∀ node ∈ order, ¬graph.Leads node node := by
  fun_induction sweep graph discovered done stack with
  | case1 discovered done =>
    obtain rfl := Except.ok.inj swept
    exact ⟨fun _ member => member, by simp, fun node member => plain node (known node member)⟩
  | case2 discovered done node stack seen ih =>
    have known' : ∀ other ∈ (if node ∈ done then done else node :: done), other ∈ discovered := by
      intro other member
      split at member
      · exact known other member
      · obtain rfl | member := List.mem_cons.1 member
        · exact seen
        · exact known other member
    obtain ⟨grown, swept_stack, loopless⟩ := ih swept known' plain
    have node_done : node ∈ (if node ∈ done then done else node :: done) := by
      split
      · assumption
      · exact List.mem_cons_self
    refine ⟨fun other member => grown other ?_, ?_, loopless⟩
    · split
      · exact member
      · exact List.mem_cons_of_mem _ member
    · exact List.forall_mem_cons.2 ⟨grown node node_done, swept_stack⟩
  | case3 => simp at swept
  | case4 discovered done node stack fresh plain_node ih =>
    have known' : ∀ other ∈ done, other ∈ node :: discovered :=
      fun other member => List.mem_cons_of_mem _ (known other member)
    have plain' : ∀ other ∈ node :: discovered, ¬graph.Leads other other :=
      List.forall_mem_cons.2 ⟨fun leads => plain_node (mem_successors.2 leads), plain⟩
    obtain ⟨grown, swept_stack, loopless⟩ := ih swept known' plain'
    exact ⟨grown, fun other member => swept_stack other (List.mem_append_right _ member), loopless⟩

/-- The first predecessor that stands after the node that waits for it, reading an order whose
beginning is already `placed`. -/
def misplaced? (graph : DependencyGraph) (placed : List graph.Node) :
    List graph.Node → Option graph.Node
  | [] => none
  | node :: rest =>
    match (graph.unmet (node :: placed) (graph.predecessors node)).head? with
    | some upstream => some upstream
    | none => misplaced? graph (node :: placed) rest

theorem meetUpstream?_start {marked : List graph.Node} {start : graph.Node}
    (fresh : start ∉ marked) :
    graph.meetUpstream? marked [start] =
      some (start, graph.unmet (start :: marked) (graph.predecessors start)) := by
  rw [meetUpstream?, if_neg fresh, List.append_nil]

/-- Of nodes without marks the first is met. -/
theorem map_meetUpstream?_unmet (marked nodes : List graph.Node) :
    (graph.meetUpstream? marked (graph.unmet marked nodes)).map Prod.fst =
      (graph.unmet marked nodes).head? := by
  cases unmarked : graph.unmet marked nodes with
  | nil => rfl
  | cons node rest =>
    have listed : node ∈ graph.unmet marked nodes := unmarked ▸ List.mem_cons_self
    rw [meetUpstream?, if_neg (graph.mem_unmet.1 listed).2]
    rfl

/-- The second node that is met from one start is the first predecessor that stands too late. -/
theorem straggler?_eq_misplaced? {placed order : List graph.Node} (nodup : order.Nodup)
    (fresh : ∀ node ∈ order, node ∉ placed) :
    graph.straggler? placed order = graph.misplaced? placed order := by
  induction order generalizing placed with
  | nil => rfl
  | cons start rest ih =>
    obtain ⟨not_again, rest_nodup⟩ := List.nodup_cons.1 nodup
    obtain ⟨start_fresh, rest_fresh⟩ := List.forall_mem_cons.1 fresh
    have rest_unmarked : ∀ node ∈ rest, node ∉ start :: placed := by
      intro node member
      rw [List.mem_cons, not_or]
      exact ⟨fun equal => not_again (equal ▸ member), rest_fresh node member⟩
    have onward := ih rest_nodup rest_unmarked
    have second := map_meetUpstream?_unmet (start :: placed) (graph.predecessors start)
    rw [straggler?, meetUpstream?_start start_fresh, misplaced?, ← second, ← onward]
    dsimp only
    cases graph.meetUpstream? (start :: placed) _ <;> rfl

theorem misplaced?_cons_eq_none {placed rest : List graph.Node} {node : graph.Node} :
    graph.misplaced? placed (node :: rest) = none ↔
      (∀ upstream, graph.Leads upstream node → upstream = node ∨ upstream ∈ placed) ∧
        graph.misplaced? (node :: placed) rest = none := by
  rw [misplaced?]
  split
  · rename_i upstream found
    obtain ⟨listed, late⟩ := graph.mem_unmet.1 (List.mem_of_head? found)
    have leads := mem_predecessors.1 listed
    simp only [reduceCtorEq, false_iff, not_and]
    intro early
    exact absurd (List.mem_cons.2 (early upstream leads)) late
  · rename_i absent
    rw [List.head?_eq_none_iff] at absent
    refine ⟨fun rest_placed => ⟨fun upstream leads => ?_, rest_placed⟩, And.right⟩
    have met := List.eq_nil_iff_forall_not_mem.1 absent upstream
    simpa [mem_predecessors.2 leads, or_iff_not_imp_left] using met

theorem before_of_misplaced? {placed before after : List graph.Node} {node upstream : graph.Node}
    (ordered : graph.misplaced? placed (before ++ node :: after) = none)
    (leads : graph.Leads upstream node) :
    upstream = node ∨ upstream ∈ placed ∨ upstream ∈ before := by
  induction before generalizing placed with
  | nil =>
    rcases (misplaced?_cons_eq_none.1 ordered).1 upstream leads with here | early
    · exact .inl here
    · exact .inr (.inl early)
  | cons head rest ih =>
    rcases ih (misplaced?_cons_eq_none.1 ordered).2 with here | early | later
    · exact .inl here
    · obtain rfl | early := List.mem_cons.1 early
      · exact .inr (.inr List.mem_cons_self)
      · exact .inr (.inl early)
    · exact .inr (.inr (List.mem_cons_of_mem _ later))

/-! ## Without an order there is a loop -/

/-- Each node of a list stands in front of all its successors but those that lead back to it. -/
def Unwound (graph : DependencyGraph) : List graph.Node → Prop
  | [] => True
  | node :: rest =>
    (∀ next, graph.Leads node next → next ∈ rest ∨ Relation.TransGen graph.Leads next node) ∧
      Unwound graph rest

theorem Unwound.of_leads {done : List graph.Node} (unwound : graph.Unwound done)
    {node next : graph.Node} (member : node ∈ done) (leads : graph.Leads node next) :
    next ∈ done ∨ Relation.TransGen graph.Leads next node := by
  induction done with
  | nil => simp at member
  | cons head rest ih =>
    obtain ⟨head_unwound, rest_unwound⟩ := unwound
    obtain rfl | later := List.mem_cons.1 member
    · exact (head_unwound next leads).imp_left (List.mem_cons_of_mem _)
    · exact (ih rest_unwound later).imp_left (List.mem_cons_of_mem _)

/-- A node that is discovered and not done waits on the stack below all its successors that were
still to be discovered, and leads to everything above it. -/
def Waiting (graph : DependencyGraph) (discovered stack : List graph.Node) (node : graph.Node) :
    Prop :=
  ∃ above below, stack = above ++ node :: below ∧ node ∉ above ∧
    (∀ next, graph.Leads node next → next ∈ discovered ∨ next ∈ above) ∧
      ∀ next ∈ above, Relation.TransGen graph.Leads node next

/-- What holds at each step of a sweep. -/
structure Sweeping (graph : DependencyGraph) (discovered done stack : List graph.Node) : Prop where
  /-- What is done was discovered. -/
  known : ∀ node ∈ done, node ∈ discovered
  /-- What is discovered is done or waits. -/
  waiting : ∀ node ∈ discovered, node ∉ done → graph.Waiting discovered stack node
  /-- What is done stands in front of all it leads to, loops apart. -/
  unwound : graph.Unwound done
  /-- Nothing is done twice. -/
  nodup : done.Nodup

variable {discovered done stack pushed : List graph.Node} {node other : graph.Node}

/-- Under the top of the stack a node still waits when the top is a discovered node. -/
theorem Waiting.pop (waiting : graph.Waiting discovered (node :: stack) other)
    (seen : node ∈ discovered) (apart : other ≠ node) : graph.Waiting discovered stack other := by
  obtain ⟨above, below, split_stack, not_above, covered, leads⟩ := waiting
  cases above with
  | nil => exact absurd (List.cons.inj split_stack).1.symm apart
  | cons head above =>
    obtain ⟨rfl, rfl⟩ := List.cons.inj split_stack
    refine ⟨above, below, rfl, fun member => not_above (List.mem_cons_of_mem _ member), ?_, ?_⟩
    · intro next edge
      rcases covered next edge with old | member
      · exact .inl old
      · obtain rfl | member := List.mem_cons.1 member
        · exact .inl seen
        · exact .inr member
    · exact fun next member => leads next (List.mem_cons_of_mem _ member)

/-- The nodes `pushed` are those that the discovery of a node puts on top of the stack. -/
def IsPushed (graph : DependencyGraph) (discovered : List graph.Node) (node : graph.Node)
    (pushed : List graph.Node) : Prop :=
  ∀ next, next ∈ pushed ↔ graph.Leads node next ∧ next ∉ node :: discovered

/-- A node that waits goes on waiting when the top of the stack is discovered. -/
theorem Waiting.push (waiting : graph.Waiting discovered (node :: stack) other)
    (new : graph.IsPushed discovered node pushed) (fresh : node ∉ discovered)
    (old : other ∈ discovered) :
    graph.Waiting (node :: discovered) (pushed ++ node :: stack) other := by
  obtain ⟨above, below, split_stack, not_above, covered, leads⟩ := waiting
  cases above with
  | nil =>
    obtain rfl := (List.cons.inj split_stack).1
    exact absurd old fresh
  | cons head above =>
    obtain ⟨rfl, rfl⟩ := List.cons.inj split_stack
    refine ⟨pushed ++ node :: above, below, by simp, ?_, ?_, ?_⟩
    · intro member
      rcases List.mem_append.1 member with member | member
      · exact ((new other).1 member).2 (List.mem_cons_of_mem _ old)
      · exact not_above member
    · intro next edge
      rcases covered next edge with old | member
      · exact .inl (List.mem_cons_of_mem _ old)
      · exact .inr (List.mem_append_right _ member)
    · intro next member
      rcases List.mem_append.1 member with member | member
      · exact (leads node List.mem_cons_self).tail ((new next).1 member).1
      · exact leads next member

/-- A node waits as soon as it is discovered. -/
theorem waiting_discovered (new : graph.IsPushed discovered node pushed) :
    graph.Waiting (node :: discovered) (pushed ++ node :: stack) node := by
  refine ⟨pushed, stack, rfl, ?_, ?_, ?_⟩
  · exact fun member => ((new node).1 member).2 List.mem_cons_self
  · intro next edge
    by_cases seen : next ∈ node :: discovered
    · exact .inl seen
    · exact .inr ((new next).2 ⟨edge, seen⟩)
  · exact fun next member => .single ((new next).1 member).1

/-- When a node comes up again nothing stands above it any more. Its successors are done then, but
for those that wait below the node and lead back to it. -/
theorem Sweeping.done_of_leads (sweeping : graph.Sweeping discovered done (node :: stack))
    (seen : node ∈ discovered) (undone : node ∉ done) {next : graph.Node}
    (edge : graph.Leads node next) : next ∈ done ∨ Relation.TransGen graph.Leads next node := by
  have next_seen : next ∈ discovered := by
    obtain ⟨above, below, split_stack, not_above, covered, _⟩ := sweeping.waiting node seen undone
    cases above with
    | nil => simpa using covered next edge
    | cons head above =>
      obtain ⟨rfl, _⟩ := List.cons.inj split_stack
      exact absurd List.mem_cons_self not_above
  by_cases next_done : next ∈ done
  · exact .inl next_done
  · obtain ⟨above, below, split_stack, _, _, leads⟩ := sweeping.waiting next next_seen next_done
    cases above with
    | nil =>
      obtain ⟨rfl, _⟩ := List.cons.inj split_stack
      exact .inr (.single edge)
    | cons head above =>
      obtain ⟨rfl, _⟩ := List.cons.inj split_stack
      exact .inr (leads node List.mem_cons_self)

/-- The step of a sweep at a node that is done. -/
theorem Sweeping.skip (sweeping : graph.Sweeping discovered done (node :: stack))
    (old : node ∈ done) : graph.Sweeping discovered done stack where
  known := sweeping.known
  waiting other seen undone :=
    (sweeping.waiting other seen undone).pop (sweeping.known node old) fun equal =>
      undone (equal ▸ old)
  unwound := sweeping.unwound
  nodup := sweeping.nodup

/-- The step of a sweep at a node that comes up again and is not done. -/
theorem Sweeping.finish (sweeping : graph.Sweeping discovered done (node :: stack))
    (seen : node ∈ discovered) (undone : node ∉ done) :
    graph.Sweeping discovered (node :: done) stack where
  known := List.forall_mem_cons.2 ⟨seen, sweeping.known⟩
  waiting other other_seen other_undone := by
    rw [List.mem_cons, not_or] at other_undone
    exact (sweeping.waiting other other_seen other_undone.2).pop seen other_undone.1
  unwound := ⟨fun _ edge => sweeping.done_of_leads seen undone edge, sweeping.unwound⟩
  nodup := List.nodup_cons.2 ⟨undone, sweeping.nodup⟩

/-- The step of a sweep at a new node. -/
theorem Sweeping.discover (sweeping : graph.Sweeping discovered done (node :: stack))
    (new : graph.IsPushed discovered node pushed) (fresh : node ∉ discovered) :
    graph.Sweeping (node :: discovered) done (pushed ++ node :: stack) where
  known other member := List.mem_cons_of_mem _ (sweeping.known other member)
  waiting other seen undone := by
    obtain rfl | old := List.mem_cons.1 seen
    · exact waiting_discovered new
    · exact (sweeping.waiting other old undone).push new fresh old
  unwound := sweeping.unwound
  nodup := sweeping.nodup

/-- What a sweep comes to: a node that is its own successor, or a list that puts every node in front
of all it leads to, loops apart. -/
theorem Sweeping.sweep (sweeping : graph.Sweeping discovered done stack) :
    match graph.sweep discovered done stack with
    | .error node => graph.Leads node node
    | .ok order => graph.Unwound order ∧ order.Nodup := by
  fun_induction DependencyGraph.sweep graph discovered done stack with
  | case1 => exact ⟨sweeping.unwound, sweeping.nodup⟩
  | case2 discovered done node stack seen ih =>
    apply ih
    split
    · exact sweeping.skip ‹_›
    · exact sweeping.finish seen ‹_›
  | case3 discovered done node stack _ loop => exact mem_successors.1 loop
  | case4 discovered done node stack fresh _ ih =>
    have new : graph.IsPushed discovered node
        ((graph.successors node).filter fun next => next ∉ node :: discovered) := fun next => by
      rw [List.mem_filter, mem_successors, decide_eq_true_iff]
    exact ih (sweeping.discover new fresh)

/-- A node that stands after one it leads to lies on a loop, because that one does not stand behind
it once more. -/
theorem loop_of_misplaced? {placed rest : List graph.Node} (unwound : graph.Unwound rest)
    (nodup : rest.Nodup) (all : ∀ node, node ∈ placed ∨ node ∈ rest) {found : graph.Node}
    (misplaced : graph.misplaced? placed rest = some found) :
    Relation.TransGen graph.Leads found found := by
  induction rest generalizing placed with
  | nil => simp [misplaced?] at misplaced
  | cons node rest ih =>
    obtain ⟨not_again, rest_nodup⟩ := List.nodup_cons.1 nodup
    rw [misplaced?] at misplaced
    split at misplaced
    · rename_i upstream met
      obtain rfl := Option.some.inj misplaced
      obtain ⟨listed, late⟩ := graph.mem_unmet.1 (List.mem_of_head? met)
      have leads := mem_predecessors.1 listed
      rw [List.mem_cons, not_or] at late
      have later : upstream ∈ rest := by
        rcases all upstream with before | here
        · exact absurd before late.2
        · exact (List.mem_cons.1 here).resolve_left late.1
      rcases unwound.2.of_leads later leads with again | back
      · exact absurd again not_again
      · exact .head leads back
    · refine ih unwound.2 rest_nodup (fun other => ?_) misplaced
      rcases all other with before | here
      · exact .inl (List.mem_cons_of_mem _ before)
      · obtain rfl | later := List.mem_cons.1 here
        · exact .inl List.mem_cons_self
        · exact .inr later

/-! ## Both together -/

theorem sweeping_start (graph : DependencyGraph) : graph.Sweeping [] [] graph.nodes :=
  ⟨by simp, by simp, trivial, List.nodup_nil⟩

/-- An order holds every node once, and each after all that lead to it. -/
structure IsOrder (graph : DependencyGraph) (order : List graph.Node) : Prop where
  /-- Every node has a place. -/
  complete : ∀ node, node ∈ order
  /-- No node has two places. -/
  nodup : order.Nodup
  /-- What leads to a node stands before it. -/
  before : ∀ {earlier later : List graph.Node} {node : graph.Node},
    order = earlier ++ node :: later →
      ∀ upstream, graph.Leads upstream node → upstream ∈ earlier

/-- What comes out of a sweep holds no node twice. -/
theorem straggler?_of_sweep {order : List graph.Node}
    (swept : graph.sweep [] [] graph.nodes = .ok order) :
    graph.straggler? [] order = graph.misplaced? [] order := by
  have ended := graph.sweeping_start.sweep
  rw [swept] at ended
  exact straggler?_eq_misplaced? ended.2 fun _ _ => List.not_mem_nil

theorem isOrder_of_orderedNodes {order : List graph.Node}
    (ordered : graph.orderedNodes = .ok order) : graph.IsOrder order := by
  rw [orderedNodes] at ordered
  split at ordered
  · simp at ordered
  · rename_i swept_order swept
    rw [straggler?_of_sweep swept] at ordered
    split at ordered
    · simp at ordered
    · rename_i placed
      obtain rfl := Except.ok.inj ordered
      have ended := graph.sweeping_start.sweep
      rw [swept] at ended
      obtain ⟨_, all, plain⟩ := sweep_ok swept (by simp) (by simp)
      refine ⟨fun node => all node (List.mem_finRange node), ended.2, ?_⟩
      intro earlier later node split_order upstream leads
      rw [split_order] at placed plain
      rcases before_of_misplaced? placed leads with rfl | early | early
      · exact absurd leads (plain upstream (by simp))
      · simp at early
      · exact early

theorem loop_of_orderedNodes {node : graph.Node} (failed : graph.orderedNodes = .error node) :
    Relation.TransGen graph.Leads node node := by
  have ended := graph.sweeping_start.sweep
  rw [orderedNodes] at failed
  split at failed
  · rename_i looping swept
    obtain rfl := Except.error.inj failed
    rw [swept] at ended
    exact .single ended
  · rename_i order swept
    rw [straggler?_of_sweep swept] at failed
    rw [swept] at ended
    split at failed
    · rename_i late misplaced
      obtain rfl := Except.error.inj failed
      obtain ⟨_, all, _⟩ := sweep_ok swept (by simp) (by simp)
      exact loop_of_misplaced? ended.1 ended.2
        (fun other => .inr (all other (List.mem_finRange other))) misplaced
    · simp at failed

theorem not_transGen_self_of_acc {α : Type} {relation : α → α → Prop} {value : α}
    (accessible : Acc relation value) : ¬Relation.TransGen relation value value := by
  induction accessible with
  | intro value _ ih =>
    intro loop
    obtain ⟨before, onward, last⟩ := Relation.TransGen.tail'_iff.1 loop
    exact ih before last (Relation.TransGen.head' last onward)

/-- A node of an order can be reached only from nodes before it. -/
theorem IsOrder.acyclic {order : List graph.Node} (ordered : graph.IsOrder order) :
    graph.Acyclic := by
  have accessible (earlier later : List graph.Node) (split_order : order = earlier ++ later) :
      ∀ node ∈ earlier, Acc graph.Leads node := by
    induction earlier using List.reverseRecOn generalizing later with
    | nil => simp
    | append_singleton earlier last ih =>
      rw [List.append_assoc, List.singleton_append] at split_order
      have before := ih (last :: later) split_order
      intro node member
      rcases List.mem_append.1 member with member | member
      · exact before node member
      · obtain rfl := List.mem_singleton.1 member
        exact ⟨node, fun upstream leads =>
          before upstream (ordered.before split_order upstream leads)⟩
  intro node
  exact not_transGen_self_of_acc
    (accessible order [] (List.append_nil order).symm node (ordered.complete node))

/-- The nodes can be ordered just when none leads back to itself. -/
theorem orderedNodes_isOk_iff :
    (∃ order, graph.orderedNodes = .ok order) ↔ graph.Acyclic := by
  constructor
  · rintro ⟨order, ordered⟩
    exact (isOrder_of_orderedNodes ordered).acyclic
  · intro acyclic
    cases ordered : graph.orderedNodes with
    | ok order => exact ⟨order, rfl⟩
    | error node => exact absurd (loop_of_orderedNodes ordered) (acyclic node)

end PipelineConfig.DependencyGraph
