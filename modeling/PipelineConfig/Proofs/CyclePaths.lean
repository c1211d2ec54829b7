import Mathlib.Data.List.Chain
import Mathlib.Logic.Function.Iterate
import PipelineConfig.Proofs.CycleSearch

/-!
# What the search for cycles tells, and that it ends

A search that fails names an unknown pipeline, or it gives a path once round a loop. The path is cut
out of the walk from the root: from the first name that goes by the name met again. The search is
also followed step by step, as a loop over frames that each hold a pipeline and the upstream
pipelines still pending; after finitely many steps it stops with what the search finds.
-/

namespace PipelineConfig

theorem Failure.loopPath_of_same {root closing : Name} (rest : List Name)
    (same : root.same closing = true) :
    loopPath (root :: rest) closing = root :: (rest ++ [closing]) := by
  simp [loopPath, same]

theorem dropWhile_of_isOn {walk : List Name} {closing : Name}
    (met : DependencyView.isOn walk closing = true) :
    ∃ before first between, walk = before ++ first :: between ∧ first.same closing = true ∧
      (walk.dropWhile fun name => !name.same closing) = first :: between := by
  induction walk with
  | nil => simp [DependencyView.isOn] at met
  | cons head rest ih =>
    cases same : head.same closing with
    | true => exact ⟨[], head, rest, rfl, same, List.dropWhile_cons_of_neg (by simp [same])⟩
    | false =>
      rw [DependencyView.isOn_cons, same, Bool.false_or] at met
      obtain ⟨before, first, between, split_rest, first_same, dropped⟩ := ih met
      refine ⟨head :: before, first, between, by rw [split_rest]; rfl, first_same, ?_⟩
      rw [List.dropWhile_cons_of_pos (by simp [same]), dropped]

/-- The loop that a name closes on a walk begins where the walk first came by that name. -/
theorem Failure.loopPath_of_isOn {walk : List Name} {closing : Name}
    (met : DependencyView.isOn walk closing = true) :
    ∃ before first between, walk = before ++ first :: between ∧ first.same closing = true ∧
      loopPath walk closing = first :: (between ++ [closing]) := by
  obtain ⟨before, first, between, split_walk, same, dropped⟩ := dropWhile_of_isOn met
  refine ⟨before, first, between, split_walk, same, ?_⟩
  rw [loopPath, dropped]
  rfl

namespace DependencyView

variable {view : DependencyView}

/-! ## Round a loop -/

/-- A path once round a loop that can be reached from `root`. -/
structure Circuit (view : DependencyView) (root : Name) (path : List Name) : Prop where
  /-- Every name on the path waits for the next one. -/
  chain : path.IsChain view.Waits
  /-- The path comes back to the name it begins with, and that name is reached from the root. -/
  closed : ∃ first between last, path = first :: (between ++ [last]) ∧ first.same last = true ∧
    Relation.ReflTransGen view.Waits root first
  /-- No name comes twice before the last one. -/
  distinct : path.dropLast.Pairwise fun left right => left.same right = false

theorem Walk.isChain {root : Name} {names : List Name} (walked : view.Walk root names) :
    names.IsChain fun next current => view.Waits current next := by
  induction walked with
  | start => exact .singleton root
  | step _ waits _ ih => exact List.isChain_cons_cons.2 ⟨waits, ih⟩

theorem Walk.pairwise {root : Name} {names : List Name} (walked : view.Walk root names) :
    names.Pairwise fun next current => current.same next = false := by
  induction walked with
  | start => exact List.pairwise_singleton _ root
  | step _ _ fresh ih =>
    refine List.pairwise_cons.2 ⟨fun name member => ?_, ih⟩
    exact Bool.eq_false_iff.2 (List.any_eq_false.1 fresh name member)

theorem isOn_reverse (names : List Name) (name : Name) :
    isOn names.reverse name = isOn names name := by
  rw [isOn, isOn, List.any_reverse]

/-- A walk that meets one of its names again has gone round a loop. The walk is kept nearest first,
and the loop is told from its first visit on. -/
theorem Walk.circuit {root current next : Name} {outer : List Name}
    (walked : view.Walk root (current :: outer)) (waits : view.Waits current next)
    (met : isOn (current :: outer) next = true) :
    view.Circuit root (Failure.loopPath (current :: outer).reverse next) := by
  rw [← isOn_reverse] at met
  obtain ⟨before, first, between, turned, same, path⟩ := Failure.loopPath_of_isOn met
  have chained : (before ++ first :: (between ++ [next])).IsChain view.Waits := by
    have extended : (next :: current :: outer).IsChain fun next current =>
        view.Waits current next := List.isChain_cons_cons.2 ⟨waits, walked.isChain⟩
    rw [← List.isChain_reverse, List.reverse_cons, turned] at extended
    simpa using extended
  have apart : (before ++ first :: between).Pairwise fun left right => left.same right = false := by
    rw [← turned, List.pairwise_reverse]
    exact walked.pairwise
  have reached : Relation.ReflTransGen view.Waits root first := by
    have on_walk : first ∈ (current :: outer).reverse := by simp [turned]
    exact (walked.reaches first (List.mem_reverse.1 on_walk)).1
  rw [path]
  refine ⟨chained.right_of_append, ⟨first, between, next, rfl, same, reached⟩, ?_⟩
  rw [← List.cons_append, List.dropLast_concat]
  exact (List.pairwise_append.1 apart).2.1

/-! ## Step by step -/

/-- A search under way or at its end. -/
inductive Search where
  /-- The frames of the search, nearest first, and the names known to lead into no loop. A frame is
  a pipeline on the walk with the upstream pipelines that are still pending. -/
  | walking (frames : List (Name × List Name)) (cleared : List Name)
  /-- The search has come to a result. -/
  | ended (result : Except Failure Unit)

/-- One step of a search: it ends, leaves the nearest frame, or takes its next pending name. -/
def advance (view : DependencyView) : Search → Search
  | .ended result => .ended result
  | .walking [] _ => .ended (.ok ())
  | .walking ((current, []) :: frames) cleared => .walking frames (current :: cleared)
  | .walking ((current, next :: pending) :: frames) cleared =>
    let walk := current :: frames.map Prod.fst
    if view.knows next then
      if isOn walk next then .ended (.error (Failure.circular walk.reverse next))
      else if isOn cleared next then .walking ((current, pending) :: frames) cleared
      else
        .walking ((next, (view.upstreamsOf next).toList) :: (current, pending) :: frames) cleared
    else .ended (.error (.unknownPipeline next current))

/-- A search with nothing but its root on the walk. -/
def Search.start (view : DependencyView) (root : Name) : Search :=
  .walking [(root, (view.upstreamsOf root).toList)] []

/-- Whether finitely many steps lead from one search to another. -/
def Advances (view : DependencyView) (before after : Search) : Prop :=
  ∃ steps, view.advance^[steps] before = after

theorem Advances.single {before after : Search} (step : view.advance before = after) :
    view.Advances before after :=
  ⟨1, step⟩

theorem Advances.trans {first second third : Search} (left : view.Advances first second)
    (right : view.Advances second third) : view.Advances first third := by
  obtain ⟨earlier, rfl⟩ := left
  obtain ⟨later, rfl⟩ := right
  exact ⟨later + earlier, Function.iterate_add_apply _ _ _ _⟩

/-- The steps at one frame, until it is left or the search fails. A nested exploration is a run of
its own with one more frame below it. -/
theorem advances_explore (view : DependencyView) (current : Name)
    (outer cleared pending : List Name) (frames : List (Name × List Name))
    (below : frames.map Prod.fst = outer) :
    view.Advances (.walking ((current, pending) :: frames) cleared)
      (match view.explore current outer cleared pending with
        | .ok found => .walking frames (current :: found)
        | .error failure => .ended (.error failure)) := by
  fun_induction explore view current outer cleared pending generalizing frames with
  | case1 => exact .single rfl
  | case2 current outer cleared next pending known fresh before ih =>
    refine .trans (.single ?_) (ih frames below)
    rw [advance, below, if_pos known, if_neg (by simpa using fresh), if_pos before]
  | case3 current outer cleared next pending known fresh new inner nested ih =>
    have onward := ih ((current, pending) :: frames) (by simp [below])
    rw [nested] at onward
    refine .trans (.single ?_) onward
    rw [advance, below, if_pos known, if_neg (by simpa using fresh), if_neg new]
  | case4 current outer cleared next pending known fresh new deeper nested ih_nested ih =>
    have onward := ih_nested ((current, pending) :: frames) (by simp [below])
    rw [nested] at onward
    refine .trans (.single ?_) (onward.trans (ih frames below))
    rw [advance, below, if_pos known, if_neg (by simpa using fresh), if_neg new]
  | case5 current outer cleared next pending known met =>
    refine .single ?_
    rw [advance, below, if_pos known, if_pos (by simpa using met)]
  | case6 current outer cleared next pending unknown =>
    refine .single ?_
    rw [advance, if_neg unknown]

/-- A search comes to an end, with the result that `findCycle` gives. -/
theorem advances_findCycle (view : DependencyView) (root : Name) :
    view.Advances (.start view root) (.ended (view.findCycle root)) := by
  have steps := view.advances_explore root [] [] (view.upstreamsOf root).toList [] rfl
  rw [findCycle]
  cases explored : view.explore root [] [] (view.upstreamsOf root).toList with
  | error failure =>
    rw [explored] at steps
    exact steps
  | ok found =>
    rw [explored] at steps
    exact steps.trans (.single rfl)

/-! ## Everything a search tells -/

/-- What a search from `root` gives as the reason of its failure. -/
inductive Fault (view : DependencyView) (root : Name) : Failure → Prop where
  /-- A path once round a loop. -/
  | loop {path : List Name} (circuit : view.Circuit root path) :
      Fault view root (.circularDependency path)
  /-- A pipeline upstream of the root that waits for an unknown one. -/
  | unknown {upstream name : Name} (reached : Relation.ReflTransGen view.Waits root name)
      (waits : view.Waits name upstream) (unknown : view.knows upstream = false) :
      Fault view root (.unknownPipeline upstream name)

theorem Obstructed.fault {root : Name} {failure : Failure}
    (obstructed : view.Obstructed root failure) : view.Fault root failure := by
  obtain ⟨current, outer, next, walked, waits, ⟨unknown, rfl⟩ | ⟨met, rfl⟩⟩ := obstructed
  · exact .unknown (walked.reaches current List.mem_cons_self).1 waits unknown
  · exact .loop (walked.circuit waits met)

/-- A search ends after finitely many steps. It succeeds just when everything upstream of its root
is known and no loop can be reached, and otherwise gives a path once round such a loop or a pipeline
that waits for an unknown one. -/
theorem findCycle_told (view : DependencyView) (root : Name) :
    view.Advances (.start view root) (.ended (view.findCycle root)) ∧
    (view.Regular →
      (view.findCycle root = .ok () ↔
        (∀ name upstream, Relation.ReflTransGen view.Waits root name → view.Waits name upstream →
          view.knows upstream = true) ∧
        ∀ name, Relation.ReflTransGen view.Waits root name →
          ¬Relation.TransGen view.Waits name name)) ∧
    ∀ failure, view.findCycle root = .error failure → view.Fault root failure := by
  refine ⟨view.advances_findCycle root, fun regular => ⟨?followed, ?follow⟩,
    fun failure failed => (obstructed_of_findCycle failed).fault⟩
  case followed =>
    intro succeeded
    have settles := (findCycle_eq_ok_iff regular).1 succeeded
    exact ⟨fun name upstream reached waits => ((settles.of_reaches reached).of_waits waits).1,
      fun name reached => (settles.of_reaches reached).not_loop⟩
  case follow =>
    rintro ⟨known, loopless⟩
    cases searched : view.findCycle root with
    | ok => rfl
    | error failure =>
      obtain ⟨current, outer, next, walked, waits, ⟨unknown, _⟩ | ⟨met, _⟩⟩ :=
        obstructed_of_findCycle searched
      · have reached := (walked.reaches current List.mem_cons_self).1
        simp [known current next reached waits] at unknown
      · obtain ⟨name, reached, loop⟩ := walked.loop waits met
        exact absurd loop (loopless name reached)

theorem regular_ofEdges (edges : List (Name × List Name)) : (ofEdges edges).Regular := by
  intro left right same
  simp only [ofEdges]
  rw [Table.get?_congr _ (Name.compare_eq_iff_same.2 same)]

/-- Two pipelines that wait for each other, upstream of a third. -/
def roundabout : DependencyView :=
  ofEdges [(⟨"root"⟩, [⟨"x"⟩]), (⟨"x"⟩, [⟨"y"⟩]), (⟨"y"⟩, [⟨"X"⟩])]

theorem findCycle_roundabout :
    roundabout.Regular ∧ ∃ failure, roundabout.findCycle ⟨"root"⟩ = .error failure ∧
      roundabout.Fault ⟨"root"⟩ failure := by
  have regular : roundabout.Regular := regular_ofEdges _
  obtain ⟨_, succeeds_iff, fails⟩ := roundabout.findCycle_told ⟨"root"⟩
  have to_x : roundabout.Waits ⟨"root"⟩ ⟨"x"⟩ := by unfold Waits; decide
  have to_y : roundabout.Waits ⟨"x"⟩ ⟨"y"⟩ := by unfold Waits; decide
  have back : roundabout.Waits ⟨"y"⟩ ⟨"x"⟩ := by unfold Waits; decide
  cases searched : roundabout.findCycle ⟨"root"⟩ with
  | error failure => exact ⟨regular, failure, rfl, fails failure searched⟩
  | ok =>
    obtain ⟨_, loopless⟩ := (succeeds_iff regular).1 searched
    exact absurd (.head to_y (.single back)) (loopless ⟨"x"⟩ (.single to_x))

end DependencyView

end PipelineConfig
