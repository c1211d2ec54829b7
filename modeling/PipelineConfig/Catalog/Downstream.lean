import PipelineConfig.Catalog
import PipelineConfig.Marking

/-!
# Everything downstream

The pipelines that wait for a pipeline, directly or through others, found breadth first along the
table of downstream pipelines. The pipeline itself is left out even if it waits for itself.
-/

namespace PipelineConfig

namespace NameSet

theorem has_eq_of_same (names : NameSet) {left right : Name} (same : left.same right = true) :
    names.has left = names.has right := by
  simp only [has, Table.contains, Table.get?]
  congr 3
  funext entry
  rw [Std.TransCmp.congr_left (Name.compare_eq_iff_same.2 same)]

end NameSet

namespace Catalog

/-- The number of pipelines with downstream pipelines that are not in `seen`. -/
def unexplored (catalog : Catalog) (seen : NameSet) : Nat :=
  unmarked catalog.downstreams.keys seen.has

theorem unexplored_add_le (catalog : Catalog) (seen : NameSet) (name : Name) :
    catalog.unexplored (seen.add name) ≤ catalog.unexplored seen :=
  unmarked_le fun other old => by simp [NameSet.has_add, old]

/-- Adding a name that has downstream pipelines leaves fewer unexplored. -/
theorem unexplored_add_lt {catalog : Catalog} {seen : NameSet} {name : Name}
    (fresh : seen.has name = false) (known : (catalog.downstreams.get? name).isSome) :
    catalog.unexplored (seen.add name) < catalog.unexplored seen := by
  obtain ⟨names, found⟩ := Option.isSome_iff_exists.1 known
  rw [Table.get?, Option.map_eq_some_iff] at found
  obtain ⟨entry, found, rfl⟩ := found
  have same : name.same entry.1 = true :=
    Name.compare_eq_iff_same.1 (by simpa using List.find?_some found)
  refine @unmarked_lt _ _ _ _ ?_ entry.1 ?_ ?_ ?_
  · intro other old
    simp [NameSet.has_add, old]
  · exact List.mem_map_of_mem (List.mem_of_find?_eq_some found)
  · rw [← NameSet.has_eq_of_same seen same, fresh]
  · rw [NameSet.has_add, Name.same_comm, same, Bool.true_or]

/-- Follow the downstream table from the queued names, leaving out `origin`. -/
def exploreDownstream (catalog : Catalog) (origin : Name) (seen : NameSet) : List Name → NameSet
  | [] => seen
  | next :: queue =>
    if next.same origin || seen.has next then exploreDownstream catalog origin seen queue
    else
      exploreDownstream catalog origin (seen.add next)
        (queue ++ (catalog.downstreamsOf next).toList)
termination_by queue => (catalog.unexplored seen, queue.length)
decreasing_by
  · exact Prod.Lex.right _ (by simp)
  · rename_i fresh
    simp only [Bool.or_eq_true, not_or, Bool.not_eq_true] at fresh
    cases found : catalog.downstreams.get? next with
    | none =>
      have empty : (catalog.downstreamsOf next).toList = [] := by
        rw [downstreamsOf, found]
        rfl
      rw [empty, List.append_nil]
      rcases Nat.lt_or_eq_of_le (catalog.unexplored_add_le seen next) with less | equal
      · exact Prod.Lex.left _ _ less
      · rw [equal]
        exact Prod.Lex.right _ (by simp)
    | some names =>
      exact Prod.Lex.left _ _ (unexplored_add_lt fresh.2 (by simp [found]))

/-- The pipelines downstream of a pipeline, at any distance. -/
def transitiveDownstreamsOf (catalog : Catalog) (name : Name) : NameSet :=
  exploreDownstream catalog name ∅ (catalog.downstreamsOf name).toList

end Catalog

end PipelineConfig
