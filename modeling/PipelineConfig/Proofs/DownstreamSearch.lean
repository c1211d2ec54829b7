import Mathlib.Logic.Relation
import PipelineConfig.Proofs.Insertion

/-!
# What the search downstream finds

The search finds the pipelines to which a chain of downstream edges leads, apart from the pipeline
it starts from. As it never goes through its start again, it cannot see what an insertion of the
start itself changes.
-/

namespace PipelineConfig

namespace Catalog

/-- The downstream table leads from one pipeline to another. -/
def Feeds (catalog : Catalog) (upstream name : Name) : Prop :=
  (catalog.downstreamsOf upstream).has name = true

variable {catalog : Catalog}

theorem Feeds.congr_left {left right name : Name} (feeds : catalog.Feeds left name)
    (same : left.same right = true) : catalog.Feeds right name := by
  rwa [Feeds, ← catalog.downstreamsOf_congr same]

/-- What the search passes on: names that were seen or are found on the way. -/
theorem feeds_of_exploreDownstream {origin : Name} {seen : NameSet} {queue : List Name}
    (seen_fed : ∀ name, seen.has name = true →
      name.same origin = false ∧ Relation.TransGen catalog.Feeds origin name)
    (queue_fed : ∀ name ∈ queue, Relation.TransGen catalog.Feeds origin name)
    (name : Name) (found : (catalog.exploreDownstream origin seen queue).has name = true) :
    name.same origin = false ∧ Relation.TransGen catalog.Feeds origin name := by
  fun_induction exploreDownstream catalog origin seen queue with
  | case1 seen => exact seen_fed name found
  | case2 seen next queue _ ih => exact ih seen_fed (List.forall_mem_cons.1 queue_fed).2 found
  | case3 seen next queue fresh ih =>
    obtain ⟨next_fed, rest_fed⟩ := List.forall_mem_cons.1 queue_fed
    simp only [Bool.or_eq_true, not_or, Bool.not_eq_true] at fresh
    refine ih ?_ ?_ found
    · intro other has
      rw [NameSet.has_add, Bool.or_eq_true] at has
      rcases has with same | has
      · rw [Name.same_congr_left origin same]
        refine ⟨fresh.1, ?_⟩
        obtain ⟨before, reaches, feeds⟩ := Relation.TransGen.tail'_iff.1 next_fed
        refine Relation.TransGen.tail' reaches ?_
        rwa [Feeds, NameSet.has_eq_of_same _ same]
      · exact seen_fed other has
    · intro other member
      rcases List.mem_append.1 member with queued | fed
      · exact rest_fed other queued
      · exact next_fed.tail (NameSet.has_of_mem fed)

/-- Downstream edges out of a set of names lead back to the origin, into the set, or into the
queue. -/
def Covers (catalog : Catalog) (origin : Name) (seen : NameSet) (queue : List Name) : Prop :=
  ∀ upstream name, upstream.same origin = true ∨ seen.has upstream = true →
    catalog.Feeds upstream name →
      name.same origin = true ∨ seen.has name = true ∨ ∃ queued ∈ queue, queued.same name = true

theorem covers_skip {origin next : Name} {seen : NameSet} {queue : List Name}
    (covers : catalog.Covers origin seen (next :: queue))
    (old : next.same origin = true ∨ seen.has next = true) :
    catalog.Covers origin seen queue := by
  intro upstream name inside feeds
  obtain back | has | ⟨queued, member, same⟩ := covers upstream name inside feeds
  · exact .inl back
  · exact .inr (.inl has)
  · obtain rfl | later := List.mem_cons.1 member
    · rcases old with back | has
      · exact .inl (Name.same_congr_left origin same ▸ back)
      · exact .inr (.inl (NameSet.has_eq_of_same seen same ▸ has))
    · exact .inr (.inr ⟨queued, later, same⟩)

theorem covers_visit {origin next : Name} {seen : NameSet} {queue : List Name}
    (covers : catalog.Covers origin seen (next :: queue)) :
    catalog.Covers origin (seen.add next)
      (queue ++ (catalog.downstreamsOf next).toList) := by
  intro upstream name inside feeds
  rw [NameSet.has_add, Bool.or_eq_true] at inside
  rcases or_left_comm.1 inside with same | inside
  · obtain ⟨member, listed, same⟩ := NameSet.has_iff.1 (feeds.congr_left same)
    exact .inr (.inr ⟨member, List.mem_append_right _ listed, same⟩)
  · obtain back | has | ⟨queued, member, same⟩ := covers upstream name inside feeds
    · exact .inl back
    · exact .inr (.inl (by rw [NameSet.has_add, has, Bool.or_true]))
    · obtain rfl | later := List.mem_cons.1 member
      · exact .inr (.inl (by rw [NameSet.has_add, Name.same_symm same, Bool.true_or]))
      · exact .inr (.inr ⟨queued, List.mem_append_left _ later, same⟩)

theorem covers_exploreDownstream {origin : Name} {seen : NameSet} {queue : List Name}
    (covers : catalog.Covers origin seen queue) :
    catalog.Covers origin (catalog.exploreDownstream origin seen queue) [] := by
  fun_induction exploreDownstream catalog origin seen queue with
  | case1 => exact covers
  | case2 seen next queue old ih =>
    rw [Bool.or_eq_true] at old
    exact ih (covers_skip covers old)
  | case3 seen next queue _ ih => exact ih (covers_visit covers)

/-- The search finds what a chain of downstream edges leads to, and leaves out its origin. -/
theorem has_transitiveDownstreamsOf_iff (catalog : Catalog) (origin name : Name) :
    (catalog.transitiveDownstreamsOf origin).has name = true ↔
      name.same origin = false ∧ Relation.TransGen catalog.Feeds origin name := by
  constructor
  · refine feeds_of_exploreDownstream (by simp) ?_ name
    exact fun name member => .single (NameSet.has_of_mem member)
  · rintro ⟨apart, fed⟩
    have start : catalog.Covers origin ∅ (catalog.downstreamsOf origin).toList := by
      intro upstream name inside feeds
      simp only [NameSet.has_empty, Bool.false_eq_true, or_false] at inside
      obtain ⟨member, listed, same⟩ := NameSet.has_iff.1 (feeds.congr_left inside)
      exact .inr (.inr ⟨member, listed, same⟩)
    have covers : catalog.Covers origin (catalog.transitiveDownstreamsOf origin) [] :=
      covers_exploreDownstream start
    have reached : name.same origin = true ∨
        (catalog.transitiveDownstreamsOf origin).has name = true := by
      induction fed with
      | single feeds => simpa using covers _ _ (.inl (Name.same_self origin)) feeds
      | @tail before name _ feeds ih =>
        cases back : before.same origin with
        | true => simpa using covers _ _ (.inl back) feeds
        | false => simpa using covers _ _ (.inr ((ih back).resolve_left (by simp [back]))) feeds
    exact reached.resolve_left (by simp [apart])

/-! ## Insertion of the origin -/

theorem exploreDownstream_skip (catalog : Catalog) {origin : Name} (seen : NameSet)
    {skipped : List Name} (back : ∀ name ∈ skipped, name.same origin = true)
    (queue : List Name) :
    catalog.exploreDownstream origin seen (skipped ++ queue) =
      catalog.exploreDownstream origin seen queue := by
  induction skipped with
  | nil => rfl
  | cons name rest ih =>
    obtain ⟨here, later⟩ := List.forall_mem_cons.1 back
    rw [List.cons_append, exploreDownstream, here, Bool.true_or, if_pos rfl, ih later]

/-- Searches come to the same set when their tables agree on all pipelines but the origin. -/
theorem exploreDownstream_congr {left right : Catalog} {origin : Name}
    (agree : ∀ name, ((left.downstreamsOf name).toList.filter fun other => !other.same origin) =
      (right.downstreamsOf name).toList.filter fun other => !other.same origin)
    (seen : NameSet) (queue queue' : List Name)
    (queued : (queue.filter fun other => !other.same origin) =
      queue'.filter fun other => !other.same origin) :
    left.exploreDownstream origin seen queue = right.exploreDownstream origin seen queue' := by
  fun_induction exploreDownstream left origin seen queue generalizing queue' with
  | case1 seen =>
    have back : ∀ name ∈ queue', name.same origin = true := by
      intro name member
      have kept := List.filter_eq_nil_iff.1 queued.symm name member
      simpa using kept
    have skip := right.exploreDownstream_skip seen back []
    rw [List.append_nil] at skip
    rw [skip, exploreDownstream]
  | case2 seen next queue old ih =>
    by_cases back : next.same origin = true
    · exact ih queue' (by simpa [back] using queued)
    · rw [List.filter_cons_of_pos (by simpa using back), eq_comm, List.filter_eq_cons_iff] at queued
      obtain ⟨skipped, rest, rfl, skippable, _, queued⟩ := queued
      rw [right.exploreDownstream_skip seen (by simpa using skippable), exploreDownstream,
        if_pos old]
      exact ih rest queued.symm
  | case3 seen next queue fresh ih =>
    have apart : next.same origin = false := by
      simp only [Bool.or_eq_true, not_or, Bool.not_eq_true] at fresh
      exact fresh.1
    rw [List.filter_cons_of_pos (by simpa using apart), eq_comm, List.filter_eq_cons_iff] at queued
    obtain ⟨skipped, rest, rfl, skippable, _, queued⟩ := queued
    rw [right.exploreDownstream_skip seen (by simpa using skippable), exploreDownstream,
      if_neg fresh]
    refine ih _ ?_
    rw [List.filter_append, List.filter_append, queued, agree]

theorem transitiveDownstreamsOf_insert (catalog : Catalog) (pipeline : Pipeline)
    (group : String) :
    (catalog.insert pipeline group).transitiveDownstreamsOf pipeline.name =
      catalog.transitiveDownstreamsOf pipeline.name :=
  exploreDownstream_congr (filter_downstreamsOf_insert catalog pipeline group) ∅ _ _
    (filter_downstreamsOf_insert catalog pipeline group pipeline.name)

end Catalog

end PipelineConfig
