import PipelineConfig.Review

/-!
# The verdict of a report

A review keeps a verdict while its checks go on, and ends with a report on every node. The verdict
is good just when the report holds no message, so the report says all that came of the review.
-/

namespace PipelineConfig

namespace FieldErrors

/-- Nothing is recorded just when there are no problems. -/
theorem isEmpty_ofProblems {problems : List Problem} :
    (ofProblems problems).isEmpty = true ↔ problems = [] := by
  constructor
  · intro empty
    have counted := count_addProblems none problems
    rw [isEmpty, List.isEmpty_iff] at empty
    have nothing : (none.addProblems problems).count = 0 := by
      rw [count, ← ofProblems, empty]
      rfl
    rw [nothing, count_none, Nat.zero_add] at counted
    exact List.eq_nil_of_length_eq_zero counted.symm
  · rintro rfl
    rfl

theorem isEmpty_ofProblems_append (left right : List Problem) :
    (ofProblems (left ++ right)).isEmpty =
      ((ofProblems left).isEmpty && (ofProblems right).isEmpty) := by
  rw [Bool.eq_iff_iff, Bool.and_eq_true, isEmpty_ofProblems, isEmpty_ofProblems,
    isEmpty_ofProblems, List.append_eq_nil_iff]

/-- What is absent is told nothing. -/
theorem getD_map_ofProblems {α : Type} (node : Option α) (problems : α → List Problem) :
    (node.map fun node => ofProblems (problems node)).getD none =
      ofProblems ((node.map problems).getD []) := by
  cases node <;> rfl

theorem all_isEmpty_toList (errors : Option FieldErrors) :
    errors.toList.all isEmpty = (errors.getD none).isEmpty := by
  cases errors <;> simp

end FieldErrors

/-- The report with the verdict that its messages call for. -/
def PipelineReport.judged (report : PipelineReport) : PipelineReport :=
  { report with valid := report.isClean }

/-- A verdict that is kept while members are looked at is good if it was and all of them pass. -/
theorem foldl_and {α : Type} (passes : α → Bool) (valid : Bool) (members : List α) :
    members.foldl (fun valid member => passes member && valid) valid =
      (valid && members.all passes) := by
  induction members generalizing valid with
  | nil => simp
  | cons member rest ih =>
    rw [List.foldl_cons, ih, List.all_cons, Bool.and_left_comm, Bool.and_assoc]

namespace Pipeline

variable [Pattern.Engine]

/-- What the checks of a review find, node by node. -/
def told (pipeline : Pipeline) (scope : Scope) : PipelineReport :=
  let inside := scope.within (.pipeline pipeline)
  { errors := .ofProblems (pipeline.problems scope)
    materials := .ofProblems (pipeline.dependencyProblems scope)
    materialErrors := pipeline.materials.items.map fun material =>
      .ofProblems (material.problems inside)
    stages := pipeline.stages.map fun stage => stage.review inside
    params := pipeline.params.map fun parameter => .ofProblems (parameter.problems inside)
    environmentVariables := pipeline.environmentVariables.map fun binding =>
      .ofProblems (binding.problems inside)
    trackingTool := .ofProblems ((pipeline.trackingTool.map TrackingTool.problems).getD [])
    mingle := .ofProblems ((pipeline.mingle.map Mingle.problems).getD [])
    timer := .ofProblems ((pipeline.timer.map Timer.problems).getD []) }

/-- The verdict that is kept during a review is the one that its messages call for. -/
theorem reviewIn_eq (pipeline : Pipeline) (scope : Scope) :
    pipeline.reviewIn scope = (pipeline.told scope).judged := by
  rw [PipelineReport.judged, PipelineReport.isClean, PipelineReport.parts, told]
  simp only [reviewIn, confirm, foldl_and, problems, FieldErrors.isEmpty_ofProblems_append,
    FieldErrors.all_isEmpty_toList, FieldErrors.getD_map_ofProblems, List.all_append,
    List.all_cons, List.all_nil, List.all_flatMap, Bool.and_true,
    ← StageReport.isClean_eq_parts, PipelineReport.mk.injEq, and_true]
  ac_rfl

/-- The verdict of a review is that its report is clean. -/
theorem valid_review (pipeline : Pipeline) (catalog : Catalog) :
    (pipeline.review catalog).valid = (pipeline.review catalog).isClean := by
  rw [review, reviewIn_eq]
  rfl

theorem validate_fst (pipeline : Pipeline) (catalog : Catalog) :
    (pipeline.validate catalog).1 = (pipeline.review catalog).isClean :=
  pipeline.valid_review catalog

end Pipeline

end PipelineConfig
