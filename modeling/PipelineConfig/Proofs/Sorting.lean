import Mathlib.Data.List.Basic

/-!
# Sorting by a comparison

Sorting moves the members of a list and keeps them all. Where the comparison tells the members
apart there is only one sorted list of them, whatever order they were met in.
-/

namespace PipelineConfig

section Sorting

variable {α : Type} (order : α → α → Ordering)

theorem isLE_total [Std.OrientedCmp order] (left right : α) :
    ((order left right).isLE || (order right left).isLE) = true := by
  have swapped : order left right = (order right left).swap := Std.OrientedCmp.eq_swap
  rw [swapped]
  cases order right left <;> rfl

theorem pairwise_isLE_mergeSort [Std.TransCmp order] (members : List α) :
    (members.mergeSort fun left right => (order left right).isLE).Pairwise
      fun left right => (order left right).isLE = true :=
  List.pairwise_mergeSort (fun _ _ _ => Std.TransCmp.isLE_trans) (isLE_total order) members

variable {order}

/-- There is one sorted list of members that the comparison tells apart. -/
theorem eq_of_perm_of_pairwise [Std.OrientedCmp order] {left right : List α}
    (rearranged : left.Perm right)
    (apart : ∀ first ∈ left, ∀ second ∈ left, order first second = .eq → first = second)
    (left_sorted : left.Pairwise fun first second => (order first second).isLE = true)
    (right_sorted : right.Pairwise fun first second => (order first second).isLE = true) :
    left = right := by
  refine List.Perm.eq_of_pairwise (fun first second listed listed' before behind => ?_)
    left_sorted right_sorted rearranged
  exact apart first listed second (rearranged.mem_iff.2 listed')
    (Std.OrientedCmp.isLE_antisymm before behind)

end Sorting

end PipelineConfig
