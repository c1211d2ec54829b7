import PipelineConfig.Catalog
import PipelineConfig.Failure
import PipelineConfig.Marking

/-!
# Dependency cycles

A walk from a pipeline to its upstream pipelines, depth first and in the order of names. It stops
at the first dependency that leads back onto the path it came by, or that names a pipeline nobody
knows. Where the edges come from is left open, so that the same walk serves committed pipelines
and a proposed edit.
-/

namespace PipelineConfig

/-- The dependencies a walk follows. -/
structure DependencyView where
  /-- The pipelines that exist. -/
  known : List Name
  /-- The pipelines that a pipeline waits for. -/
  upstreamsOf : Name → NameSet

namespace DependencyView

/-- Whether a pipeline of this name exists. -/
def knows (view : DependencyView) (name : Name) : Bool :=
  view.known.any fun other => other.same name

/-- Whether a name stands in a list in any spelling. -/
def isOn (names : List Name) (name : Name) : Bool := names.any fun other => other.same name

theorem isOn_congr (names : List Name) {left right : Name} (same : left.same right = true) :
    isOn names left = isOn names right := by
  induction names with
  | nil => rfl
  | cons head rest ih =>
    have agree : head.same left = head.same right := by
      rw [Bool.eq_iff_iff]
      constructor
      · exact fun hit => Name.same_trans hit same
      · exact fun hit => Name.same_trans hit (by rwa [Name.same_comm])
    simp only [isOn, List.any_cons, agree] at *
    rw [ih]

/-- Stepping to a known name that is not on the path leaves fewer known names off the path. -/
theorem unmarked_cons_lt {view : DependencyView} {path : List Name} {next : Name}
    (known : view.knows next = true) (fresh : isOn path next = false) :
    unmarked view.known (isOn (next :: path)) < unmarked view.known (isOn path) := by
  obtain ⟨name, member, same⟩ := List.any_eq_true.1 known
  refine unmarked_lt ?_ member ?_ ?_
  · intro other old
    simp only [isOn, List.any_cons, Bool.or_eq_true] at *
    exact .inr old
  · rw [isOn_congr path same, fresh]
  · rw [isOn_congr (next :: path) same]
    simp [isOn]

/-- Walk the pending upstream pipelines of `current`, which was reached from `outer`, nearest
first. Names in `cleared` are known to lead into no loop; those that are cleared on the way are
added. -/
def explore (view : DependencyView) (current : Name) (outer cleared : List Name) :
    List Name → Except Failure (List Name)
  | [] => .ok cleared
  | next :: pending =>
    if view.knows next then
      if !isOn (current :: outer) next then
        if isOn cleared next then explore view current outer cleared pending
        else
          match explore view next (current :: outer) cleared (view.upstreamsOf next).toList with
          | .error failure => .error failure
          | .ok cleared => explore view current outer (next :: cleared) pending
      else .error (Failure.circular (current :: outer).reverse next)
    else .error (.unknownPipeline next current)
termination_by pending => (unmarked view.known (isOn (current :: outer)), pending.length)
decreasing_by
  · exact Prod.Lex.right _ (by simp)
  · rename_i known fresh _
    exact Prod.Lex.left _ _ (unmarked_cons_lt known (by simpa using fresh))
  · exact Prod.Lex.right _ (by simp)

/-- Walk everything upstream of a pipeline. -/
def findCycle (view : DependencyView) (root : Name) : Except Failure Unit :=
  (explore view root [] [] (view.upstreamsOf root).toList).map fun _ => ()

/-- The dependencies of a list of edges. A name that is listed again gets further upstreams. -/
def ofEdges (edges : List (Name × List Name)) : DependencyView :=
  let table := edges.foldl (fun (table : Table Name NameSet) edge =>
    table.insert edge.1 (edge.2.foldl NameSet.add ((table.get? edge.1).getD ∅))) ∅
  ⟨table.keys, fun name => (table.get? name).getD ∅⟩

end DependencyView

/-- The committed dependencies. -/
def Catalog.dependencyView (catalog : Catalog) : DependencyView :=
  ⟨catalog.names, catalog.upstreamsOf⟩

end PipelineConfig
