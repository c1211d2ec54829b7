import Mathlib.Logic.Relation
import PipelineConfig.Cycle
import PipelineConfig.Proofs.Tables

/-!
# What the search for dependency cycles finds

The search succeeds just when the dependencies of a pipeline settle: whatever it waits for, at any
distance, is known, and no dependency leads into a loop. A search that fails has walked upstream to
a pipeline that waits for an unknown one or for one on the walk itself.
-/

namespace PipelineConfig

namespace DependencyView

variable {view : DependencyView}

/-- One pipeline waits directly for another. -/
def Waits (view : DependencyView) (name upstream : Name) : Prop :=
  (view.upstreamsOf name).has upstream = true

/-- Spellings of one name wait for the same pipelines. -/
def Regular (view : DependencyView) : Prop :=
  ∀ left right, left.same right = true → view.upstreamsOf left = view.upstreamsOf right

/-- Whatever a pipeline waits for is known and settles in turn. As the definition is inductive, no
dependency leads into a loop. -/
inductive Settles (view : DependencyView) : Name → Prop where
  /-- All direct dependencies are known and settle. -/
  | intro {name : Name} (known : ∀ upstream, view.Waits name upstream → view.knows upstream = true)
      (settle : ∀ upstream, view.Waits name upstream → Settles view upstream) : Settles view name

/-- A walk upstream from `root`, the name reached last in front, on which no name comes twice. -/
inductive Walk (view : DependencyView) (root : Name) : List Name → Prop where
  /-- The walk has not left its root. -/
  | start : Walk view root [root]
  /-- The walk goes on to a dependency of the name reached last. -/
  | step {current next : Name} {outer : List Name} (walked : Walk view root (current :: outer))
      (waits : view.Waits current next) (fresh : isOn (current :: outer) next = false) :
      Walk view root (next :: current :: outer)

theorem knows_congr (view : DependencyView) {left right : Name} (same : left.same right = true) :
    view.knows left = view.knows right :=
  isOn_congr view.known same

theorem Waits.congr_right {name left right : Name} (waits : view.Waits name left)
    (same : left.same right = true) : view.Waits name right := by
  rwa [Waits, ← NameSet.has_eq_of_same _ same]

theorem Waits.congr_left (regular : view.Regular) {left right upstream : Name}
    (waits : view.Waits left upstream) (same : left.same right = true) :
    view.Waits right upstream := by
  rwa [Waits, ← regular left right same]

namespace Settles

theorem congr (regular : view.Regular) {left right : Name} (settles : view.Settles left)
    (same : left.same right = true) : view.Settles right := by
  cases settles with
  | intro known settle =>
    have back {upstream : Name} (waits : view.Waits right upstream) : view.Waits left upstream :=
      waits.congr_left regular (Name.same_symm same)
    exact ⟨fun upstream waits => known upstream (back waits),
      fun upstream waits => settle upstream (back waits)⟩

theorem of_waits {name upstream : Name} (settles : view.Settles name)
    (waits : view.Waits name upstream) :
    view.knows upstream = true ∧ view.Settles upstream := by
  cases settles with
  | intro known settle => exact ⟨known upstream waits, settle upstream waits⟩

theorem of_reaches {name upstream : Name} (settles : view.Settles name)
    (reaches : Relation.ReflTransGen view.Waits name upstream) : view.Settles upstream := by
  induction reaches with
  | refl => exact settles
  | tail _ waits ih => exact (ih.of_waits waits).2

/-- What settles lies on no loop. -/
theorem not_loop {name : Name} (settles : view.Settles name) :
    ¬Relation.TransGen view.Waits name name := by
  induction settles with
  | intro _ _ ih =>
    intro loop
    obtain ⟨upstream, waits, onward⟩ := Relation.TransGen.head'_iff.1 loop
    exact ih upstream waits (Relation.TransGen.tail' onward waits)

end Settles

/-! ## Success -/

theorem isOn_cons (head : Name) (names : List Name) (name : Name) :
    isOn (head :: names) name = (head.same name || isOn names name) := by
  simp [isOn]

theorem settles_of_toList {name : Name}
    (upstreams : ∀ upstream ∈ (view.upstreamsOf name).toList,
      view.knows upstream = true ∧ view.Settles upstream) (regular : view.Regular) :
    view.Settles name := by
  refine ⟨fun upstream waits => ?_, fun upstream waits => ?_⟩
  · obtain ⟨member, listed, same⟩ := NameSet.has_iff.1 waits
    exact view.knows_congr same ▸ (upstreams member listed).1
  · obtain ⟨member, listed, same⟩ := NameSet.has_iff.1 waits
    exact (upstreams member listed).2.congr regular same

/-- A name settles if those it waits for wait for none. -/
theorem settles_of_idle {name : Name}
    (idle : ∀ upstream ∈ (view.upstreamsOf name).toList,
      view.knows upstream = true ∧ (view.upstreamsOf upstream).toList = [])
    (regular : view.Regular) : view.Settles name := by
  refine settles_of_toList (fun upstream listed => ?_) regular
  obtain ⟨known, nothing⟩ := idle upstream listed
  exact ⟨known, settles_of_toList (by simp [nothing]) regular⟩

/-- A search that succeeds clears what was pending, and clears only names that settle: the search
below a name has cleared all that the name waits for. -/
theorem settles_of_explore {current : Name} {outer cleared pending found : List Name}
    (regular : view.Regular)
    (settles : ∀ name, isOn cleared name = true → view.Settles name)
    (explored : view.explore current outer cleared pending = .ok found) :
    (∀ name, isOn found name = true → view.Settles name) ∧
      (∀ name, isOn cleared name = true → isOn found name = true) ∧
        ∀ name ∈ pending, view.knows name = true ∧ isOn found name = true := by
  fun_induction explore view current outer cleared pending generalizing found with
  | case1 current outer cleared =>
    obtain rfl := Except.ok.inj explored
    exact ⟨settles, fun _ on => on, by simp⟩
  | case2 current outer cleared next pending known _ before ih =>
    obtain ⟨sound, grown, done⟩ := ih settles explored
    refine ⟨sound, grown, List.forall_mem_cons.2 ⟨⟨known, grown next before⟩, done⟩⟩
  | case3 => simp at explored
  | case4 current outer cleared next pending known _ _ deeper nested ih_nested ih =>
    obtain ⟨sound, grown, done⟩ := ih_nested settles nested
    have next_settles : view.Settles next :=
      settles_of_toList (fun upstream listed =>
        ⟨(done upstream listed).1, sound upstream (done upstream listed).2⟩) regular
    have sound_next : ∀ name, isOn (next :: deeper) name = true → view.Settles name := by
      intro name on
      rw [isOn_cons, Bool.or_eq_true] at on
      rcases on with same | on
      · exact next_settles.congr regular same
      · exact sound name on
    obtain ⟨sound_all, grown_all, done_all⟩ := ih sound_next explored
    have next_found : isOn found next = true := grown_all next (by simp [isOn])
    refine ⟨sound_all, fun name on => grown_all name ?_,
      List.forall_mem_cons.2 ⟨⟨known, next_found⟩, done_all⟩⟩
    rw [isOn_cons, grown name on, Bool.or_true]
  | case5 => simp at explored
  | case6 => simp at explored

/-! ## Failure -/

/-- Why a search from `root` fails: it has walked to a name that waits for `next`, and nobody knows
`next`, or the walk has come by it. -/
def Obstructed (view : DependencyView) (root : Name) (failure : Failure) : Prop :=
  ∃ current outer next, view.Walk root (current :: outer) ∧ view.Waits current next ∧
    (view.knows next = false ∧ failure = .unknownPipeline next current ∨
      isOn (current :: outer) next = true ∧
        failure = Failure.circular (current :: outer).reverse next)

theorem obstructed_of_explore {root current : Name} {outer cleared pending : List Name}
    {failure : Failure} (walked : view.Walk root (current :: outer))
    (waits : ∀ next ∈ pending, view.Waits current next)
    (explored : view.explore current outer cleared pending = .error failure) :
    view.Obstructed root failure := by
  fun_induction explore view current outer cleared pending with
  | case1 => simp at explored
  | case2 current outer cleared next pending _ _ _ ih =>
    exact ih walked (List.forall_mem_cons.1 waits).2 explored
  | case3 current outer cleared next pending _ fresh _ inner nested ih =>
    obtain rfl := Except.error.inj explored
    have onward := walked.step (List.forall_mem_cons.1 waits).1 (by simpa using fresh)
    exact ih onward (fun upstream listed => NameSet.has_of_mem listed) nested
  | case4 current outer cleared next pending _ _ _ _ _ _ ih =>
    exact ih walked (List.forall_mem_cons.1 waits).2 explored
  | case5 current outer cleared next pending _ met =>
    obtain rfl := Except.error.inj explored
    exact ⟨current, outer, next, walked, (List.forall_mem_cons.1 waits).1,
      .inr ⟨by simpa using met, rfl⟩⟩
  | case6 current outer cleared next pending unknown =>
    obtain rfl := Except.error.inj explored
    exact ⟨current, outer, next, walked, (List.forall_mem_cons.1 waits).1,
      .inl ⟨by simpa using unknown, rfl⟩⟩

/-- A walk leads from its root to each of its names, and from each of them to the last one. -/
theorem Walk.reaches {root current : Name} {outer : List Name}
    (walked : view.Walk root (current :: outer)) :
    ∀ name ∈ current :: outer, Relation.ReflTransGen view.Waits root name ∧
      Relation.ReflTransGen view.Waits name current := by
  generalize names_eq : current :: outer = names at walked
  induction walked generalizing current outer with
  | start =>
    obtain ⟨rfl, rfl⟩ := List.cons.inj names_eq
    simp [Relation.ReflTransGen.refl]
  | @step previous next before _ waits _ ih =>
    obtain ⟨rfl, rfl⟩ := List.cons.inj names_eq
    have earlier := ih rfl
    have from_root := (earlier previous (by simp)).1
    refine List.forall_mem_cons.2 ⟨⟨from_root.tail waits, .refl⟩, ?_⟩
    exact fun name member => ⟨(earlier name member).1, (earlier name member).2.tail waits⟩

/-- A walk that comes back to itself has found a loop. -/
theorem Walk.loop {root current next : Name} {outer : List Name}
    (walked : view.Walk root (current :: outer)) (waits : view.Waits current next)
    (met : isOn (current :: outer) next = true) :
    ∃ name, Relation.ReflTransGen view.Waits root name ∧
      Relation.TransGen view.Waits name name := by
  obtain ⟨name, member, same⟩ := List.any_eq_true.1 met
  obtain ⟨from_root, onward⟩ := walked.reaches name member
  have closing : view.Waits current name := waits.congr_right (Name.same_symm same)
  exact ⟨name, from_root, Relation.TransGen.tail' onward closing⟩

theorem obstructed_of_findCycle {root : Name} {failure : Failure}
    (failed : view.findCycle root = .error failure) : view.Obstructed root failure := by
  rw [findCycle] at failed
  cases explored : view.explore root [] [] (view.upstreamsOf root).toList with
  | ok found => simp [explored, Except.map] at failed
  | error reason =>
    rw [explored] at failed
    obtain rfl := Except.error.inj failed
    exact obstructed_of_explore .start (fun upstream listed => NameSet.has_of_mem listed) explored

theorem Settles.not_obstructed {root : Name} {failure : Failure} (settles : view.Settles root) :
    ¬view.Obstructed root failure := by
  rintro ⟨current, outer, next, walked, waits, ⟨unknown, _⟩ | ⟨met, _⟩⟩
  · have current_settles := settles.of_reaches (walked.reaches current (by simp)).1
    simp [(current_settles.of_waits waits).1] at unknown
  · obtain ⟨name, from_root, loop⟩ := walked.loop waits met
    exact (settles.of_reaches from_root).not_loop loop

/-- The search succeeds just when the dependencies of its root settle. -/
theorem findCycle_eq_ok_iff (regular : view.Regular) {root : Name} :
    view.findCycle root = .ok () ↔ view.Settles root := by
  constructor
  · intro succeeded
    rw [findCycle] at succeeded
    cases explored : view.explore root [] [] (view.upstreamsOf root).toList with
    | error reason => simp [explored, Except.map] at succeeded
    | ok found =>
      obtain ⟨sound, _, done⟩ := settles_of_explore regular (by simp [isOn]) explored
      exact settles_of_toList (fun upstream listed =>
        ⟨(done upstream listed).1, sound upstream (done upstream listed).2⟩) regular
  · intro settles
    cases searched : view.findCycle root with
    | ok => rfl
    | error failure => exact absurd (obstructed_of_findCycle searched) settles.not_obstructed

/-! ## Views that cannot be told apart -/

theorem explore_congr {left right : DependencyView}
    (knows : ∀ name, left.knows name = right.knows name)
    (upstreams : ∀ name, left.upstreamsOf name = right.upstreamsOf name)
    (current : Name) (outer cleared pending : List Name) :
    left.explore current outer cleared pending = right.explore current outer cleared pending := by
  fun_induction explore left current outer cleared pending with
  | case1 => rw [explore]
  | case2 current outer cleared next pending known fresh before ih =>
    rw [explore, ← knows, if_pos known, if_pos fresh, if_pos before, ih]
  | case3 current outer cleared next pending known fresh new inner nested ih =>
    rw [explore, ← knows, if_pos known, if_pos fresh, if_neg new, ← upstreams, ← ih, nested]
  | case4 current outer cleared next pending known fresh new deeper nested ih_nested ih =>
    rw [explore, ← knows, if_pos known, if_pos fresh, if_neg new, ← upstreams, ← ih_nested, nested]
    exact ih
  | case5 current outer cleared next pending known met =>
    rw [explore, ← knows, if_pos known, if_neg met]
  | case6 current outer cleared next pending unknown =>
    rw [explore, ← knows, if_neg unknown]

/-- Searches in views with the same names and dependencies come to the same result. -/
theorem findCycle_congr {left right : DependencyView}
    (knows : ∀ name, left.knows name = right.knows name)
    (upstreams : ∀ name, left.upstreamsOf name = right.upstreamsOf name) (root : Name) :
    left.findCycle root = right.findCycle root := by
  rw [findCycle, findCycle, explore_congr knows upstreams, upstreams]

end DependencyView

end PipelineConfig
