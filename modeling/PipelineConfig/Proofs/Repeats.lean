import Mathlib.Data.List.Basic
import PipelineConfig.Proofs.Breakage
import PipelineConfig.Proofs.Verdicts

/-!
# Names that are repeated

Stages, jobs, materials, parameters and variables are told apart by name among their siblings. Each
node counts its own name among all siblings, itself included, so a node is told that its name is
repeated just when another node has an equal one. Equality is symmetric, so nobody is told of it
alone, and nobody is told just when all names differ.
-/

namespace PipelineConfig

namespace FieldErrors

theorem count_all_add (errors : FieldErrors) (field message text : String) :
    (errors.add field message).all.count text =
      errors.all.count text + if message = text then 1 else 0 := by
  obtain ⟨entries⟩ := errors
  simp only [add, all]
  induction entries with
  | nil => simp [addTo, List.count_singleton]
  | cons entry rest ih =>
    rw [addTo]
    by_cases here : entry.1 = field
    · simp only [here, if_true, List.flatMap_cons, List.count_append, List.count_singleton,
        beq_iff_eq]
      omega
    · simp only [here, if_false, List.flatMap_cons, List.count_append, ih]
      omega

/-- The messages of a record are those of its problems, field by field. -/
theorem count_all_ofProblems (problems : List Problem) (text : String) :
    (ofProblems problems).all.count text = (problems.map Problem.message).count text := by
  have step (errors : FieldErrors) : (errors.addProblems problems).all.count text =
      errors.all.count text + (problems.map Problem.message).count text := by
    induction problems generalizing errors with
    | nil => rfl
    | cons problem rest ih =>
      have later := ih (errors.add problem.field problem.message)
      rw [count_all_add] at later
      rw [List.map_cons, List.count_cons, addProblems, List.foldl_cons]
      simp only [beq_iff_eq]
      rw [addProblems] at later
      omega
  exact (step none).trans (Nat.zero_add _)

end FieldErrors

/-- How the nodes of a collection are told apart. -/
structure Naming (α κ : Type) where
  /-- The name that a node goes by, if it has one to compare. -/
  name? : α → Option String
  /-- What counts of a name. -/
  fold : String → κ
  /-- What is told of a repeated name. -/
  problem : String → Problem
  /-- What is recorded on a node. -/
  errors : α → FieldErrors

namespace Naming

variable {α κ : Type} (naming : Naming α κ)

/-- Another node has a name equal to that of the node at a position. -/
def Shared (nodes : List α) (position : Nat) (name : String) : Prop :=
  ∃ other sibling again, other ≠ position ∧ nodes[other]? = some sibling ∧
    naming.name? sibling = some again ∧ naming.fold again = naming.fold name

/-- How often a node is told that its name is repeated. -/
def timesTold (node : α) : Nat :=
  ((naming.name? node).map fun name =>
    (naming.errors node).all.count (naming.problem name).message).getD 0

/-- The nodes of a collection are told of repeated names. -/
structure Told (nodes : List α) : Prop where
  /-- A node whose name another one has is told so once. -/
  repeated : ∀ position node name, nodes[position]? = some node → naming.name? node = some name →
    naming.Shared nodes position name →
      (naming.errors node).all.count (naming.problem name).message = 1
  /-- A node with a name of its own is not. -/
  single : ∀ position node name, nodes[position]? = some node → naming.name? node = some name →
    ¬naming.Shared nodes position name →
      (naming.errors node).all.count (naming.problem name).message = 0
  /-- A node without a name to compare is not either. -/
  nameless : ∀ node ∈ nodes, naming.name? node = none → ∀ name,
    (naming.errors node).all.count (naming.problem name).message = 0
  /-- Nobody is told just when the names differ pairwise. -/
  silent_iff : (∀ node ∈ nodes, naming.timesTold node = 0) ↔
    ((nodes.filterMap naming.name?).map naming.fold).Nodup
  /-- Nobody is told alone. -/
  not_alone : nodes.countP (fun node => naming.timesTold node ≠ 0) ≠ 1

variable {naming} {nodes : List α} {position : Nat} {node : α} {name : String}
  {problems : List Problem}

theorem timesTold_of_name? (named : naming.name? node = some name) :
    naming.timesTold node = (naming.errors node).all.count (naming.problem name).message := by
  rw [timesTold, named, Option.map_some, Option.getD_some]

/-- Names differ pairwise just when no node shares its name. -/
theorem nodup_iff_not_shared :
    ((nodes.filterMap naming.name?).map naming.fold).Nodup ↔
      ∀ position node name, nodes[position]? = some node → naming.name? node = some name →
        ¬naming.Shared nodes position name := by
  rw [List.Nodup, List.pairwise_map, List.pairwise_filterMap, List.pairwise_iff_getElem]
  constructor
  · rintro distinct position node name placed named
      ⟨other, sibling, again, apart, placed', named', same⟩
    obtain ⟨bound, rfl⟩ := List.getElem?_eq_some_iff.1 placed
    obtain ⟨bound', rfl⟩ := List.getElem?_eq_some_iff.1 placed'
    rcases Nat.lt_or_gt_of_ne apart with before | behind
    · exact distinct other position bound' bound before again named' name named same
    · exact distinct position other bound bound' behind name named again named' same.symm
  · intro alone left right left_bound right_bound before name named again named' same
    exact alone left _ name (List.getElem?_eq_getElem left_bound) named
      ⟨right, _, again, Nat.ne_of_gt before, List.getElem?_eq_getElem right_bound, named',
        same.symm⟩

variable [DecidableEq κ]

/-- What is told of a node for its name among its siblings. -/
def repeats (naming : Naming α κ) (siblings : List α) (node : α) : List Problem :=
  ((naming.name? node).map fun name =>
    Problem.when (occursTwice siblings fun other =>
      (naming.name? other).any fun again => naming.fold again = naming.fold name)
      (naming.problem name)).getD []

/-- What is wrong with a node: its name is repeated, or it is something told in other words. -/
def Finds (naming : Naming α κ) (siblings : List α) (node : α) (problems : List Problem) : Prop :=
  ∃ before after, problems = before ++ naming.repeats siblings node ++ after ∧
    ∀ problem ∈ before ++ after, ∀ name, problem.message ≠ (naming.problem name).message

/-- Only a repeated name is told in the words for it. -/
theorem Finds.count (finds : naming.Finds nodes node problems) (name : String) :
    (FieldErrors.ofProblems problems).all.count (naming.problem name).message =
      ((naming.repeats nodes node).map Problem.message).count (naming.problem name).message := by
  obtain ⟨before, after, rfl, apart⟩ := finds
  have silent {others : List Problem}
      (apart : ∀ problem ∈ others, problem.message ≠ (naming.problem name).message) :
      (others.map Problem.message).count (naming.problem name).message = 0 :=
    List.count_eq_zero.2 fun member => by
      obtain ⟨problem, listed, same⟩ := List.mem_map.1 member
      exact apart problem listed same
  rw [FieldErrors.count_all_ofProblems, List.map_append, List.map_append, List.count_append,
    List.count_append,
    silent fun problem member => apart problem (List.mem_append_left _ member) name,
    silent fun problem member => apart problem (List.mem_append_right _ member) name,
    Nat.zero_add, Nat.add_zero]

theorem occursTwice_iff_shared (placed : nodes[position]? = some node)
    (named : naming.name? node = some name) :
    occursTwice nodes (fun other =>
        (naming.name? other).any fun again => naming.fold again = naming.fold name) = true ↔
      naming.Shared nodes position name := by
  rw [occursTwice_iff placed (by simp [named])]
  simp only [Option.any_eq_true, decide_eq_true_iff, Shared]
  constructor
  · rintro ⟨other, sibling, apart, there, again, found, same⟩
    exact ⟨other, sibling, again, apart, there, found, same⟩
  · rintro ⟨other, sibling, again, apart, there, found, same⟩
    exact ⟨other, sibling, apart, there, again, found, same⟩

/-- A node that is checked among its siblings is told once of a name that it shares. -/
theorem Finds.count_shared (finds : naming.Finds nodes node problems)
    (placed : nodes[position]? = some node) (named : naming.name? node = some name)
    (shared : naming.Shared nodes position name) :
    (FieldErrors.ofProblems problems).all.count (naming.problem name).message = 1 := by
  rw [finds.count, repeats, named, Option.map_some, Option.getD_some,
    (occursTwice_iff_shared placed named).2 shared]
  simp [Problem.when]

/-- It is not told of a name of its own. -/
theorem Finds.count_alone (finds : naming.Finds nodes node problems)
    (placed : nodes[position]? = some node) (named : naming.name? node = some name)
    (alone : ¬naming.Shared nodes position name) :
    (FieldErrors.ofProblems problems).all.count (naming.problem name).message = 0 := by
  rw [finds.count, repeats, named, Option.map_some, Option.getD_some,
    Bool.eq_false_iff.2 (mt (occursTwice_iff_shared placed named).1 alone)]
  rfl

/-- Without a name to compare it is told of none. -/
theorem Finds.count_nameless (finds : naming.Finds nodes node problems)
    (nameless : naming.name? node = none) (name : String) :
    (FieldErrors.ofProblems problems).all.count (naming.problem name).message = 0 := by
  rw [finds.count, repeats, nameless]
  rfl

/-- A collection in which every node is checked among its siblings is told of repeated names. A node
is told just when it shares its name, so whoever it shares it with is told, too. -/
theorem told_of_finds (finds : ∀ node ∈ nodes, ∃ problems,
    naming.errors node = .ofProblems problems ∧ naming.Finds nodes node problems) :
    naming.Told nodes := by
  have repeated (position : Nat) (node : α) (name : String)
      (placed : nodes[position]? = some node) (named : naming.name? node = some name)
      (shared : naming.Shared nodes position name) :
      (naming.errors node).all.count (naming.problem name).message = 1 := by
    obtain ⟨problems, recorded, found⟩ := finds node (List.mem_of_getElem? placed)
    rw [recorded, found.count_shared placed named shared]
  have single (position : Nat) (node : α) (name : String)
      (placed : nodes[position]? = some node) (named : naming.name? node = some name)
      (alone : ¬naming.Shared nodes position name) :
      (naming.errors node).all.count (naming.problem name).message = 0 := by
    obtain ⟨problems, recorded, found⟩ := finds node (List.mem_of_getElem? placed)
    rw [recorded, found.count_alone placed named alone]
  have told_iff {position : Nat} {node : α} (placed : nodes[position]? = some node) :
      naming.timesTold node ≠ 0 ↔
        ∃ name, naming.name? node = some name ∧ naming.Shared nodes position name := by
    constructor
    · intro told
      cases named : naming.name? node with
      | none => simp [timesTold, named] at told
      | some name =>
        refine ⟨name, rfl, not_not.1 fun alone => told ?_⟩
        rw [timesTold_of_name? named, single position node name placed named alone]
    · rintro ⟨name, named, shared⟩
      rw [timesTold_of_name? named, repeated position node name placed named shared]
      exact Nat.one_ne_zero
  refine ⟨repeated, single, ?nameless, ?silent, ?alone⟩
  case nameless =>
    intro node member nameless name
    obtain ⟨problems, recorded, found⟩ := finds node member
    rw [recorded, found.count_nameless nameless]
  case silent =>
    rw [nodup_iff_not_shared]
    constructor
    · intro silent position node name placed named shared
      exact (told_iff placed).2 ⟨name, named, shared⟩ (silent node (List.mem_of_getElem? placed))
    · intro alone node member
      obtain ⟨position, placed⟩ := List.getElem?_of_mem member
      refine not_not.1 fun told => ?_
      obtain ⟨name, named, shared⟩ := (told_iff placed).1 told
      exact alone position node name placed named shared
  case alone =>
    intro one
    obtain ⟨node, member, told⟩ := List.countP_pos_iff.1 (Nat.lt_of_lt_of_eq Nat.one_pos one.symm)
    obtain ⟨position, placed⟩ := List.getElem?_of_mem member
    obtain ⟨name, named, other, sibling, again, apart, placed', named', same⟩ :=
      (told_iff placed).1 (of_decide_eq_true told)
    have told' := (told_iff placed').2
      ⟨again, named', position, node, name, apart.symm, placed, named, same.symm⟩
    have several : occursTwice nodes (fun node => naming.timesTold node ≠ 0) = true :=
      (occursTwice_iff placed told).2 ⟨other, sibling, apart, placed', decide_eq_true told'⟩
    rw [occursTwice, one] at several
    exact absurd several (by decide)

theorem finds_append {siblings : List α} {before told after : List Problem}
    (repeated : told = naming.repeats siblings node)
    (apart : ∀ problem ∈ before ++ after, ∀ name, problem.message ≠ (naming.problem name).message) :
    naming.Finds siblings node (before ++ told ++ after) :=
  ⟨before, after, by rw [repeated], apart⟩

theorem repeats_map (write : α → α) (named : ∀ node, naming.name? (write node) = naming.name? node)
    (items : List α) (node : α) :
    naming.repeats (items.map write) (write node) = naming.repeats items node := by
  rw [repeats, repeats, named]
  congr 2
  funext name
  rw [occursTwice_map write fun other => by rw [named]]

/-- What a review records on a collection keeps the names, so the nodes may be checked among the
siblings as they were before. -/
theorem told_map (write : α → α) {items : List α}
    (named : ∀ node, naming.name? (write node) = naming.name? node)
    (finds : ∀ node ∈ items, ∃ problems,
      naming.errors (write node) = .ofProblems problems ∧ naming.Finds items node problems) :
    naming.Told (items.map write) := by
  refine told_of_finds fun node member => ?_
  obtain ⟨node, listed, rfl⟩ := List.mem_map.1 member
  obtain ⟨problems, recorded, before, after, split, apart⟩ := finds node listed
  exact ⟨problems, recorded, before, after, by rw [split, repeats_map write named], apart⟩

end Naming

/-! ## How messages begin -/

namespace Problem

/-- The first character of a message. -/
def initial? (problem : Problem) : Option Char := problem.message.toList.head?

theorem message_ne_of_initial? {left right : Problem} (apart : left.initial? ≠ right.initial?) :
    left.message ≠ right.message :=
  fun same => apart (congrArg (fun message => message.toList.head?) same)

theorem initial?_invalidName (field kind name : String) :
    (invalidName field kind name).initial? = some 'I' := by
  unfold initial? message
  simp only [String.toList_append, List.head?_append]
  rfl

theorem initial?_repeated (name : Name) :
    (duplicateStage name).initial? = some 'Y' ∧ (duplicateJob name).initial? = some 'Y' ∧
      (duplicateMaterial name).initial? = some 'Y' ∧
        (duplicateParameter name.text).initial? = some 'P' := by
  unfold initial? message
  simp only [String.toList_append, List.head?_append]
  exact ⟨rfl, rfl, rfl, rfl⟩

theorem initial?_empty (name : Name) :
    (noJobs name).initial? = some 'S' ∧ (noTasks name).initial? = some 'J' := by
  unfold initial? message
  simp only [String.toList_append, List.head?_append]
  exact ⟨rfl, rfl⟩

theorem initial?_folderOutside (folder : String) :
    (folderOutside folder).initial? = some 'D' := by
  unfold initial? message
  simp only [String.toList_append, List.head?_append]
  rfl

theorem initial?_unknown (upstream stage : Name) (pipeline : String) :
    (unknownUpstream upstream pipeline).initial? = some 'P' ∧
      (unknownUpstreamStage stage upstream).initial? = some 'S' := by
  unfold initial? message
  simp only [String.toList_append, List.head?_append]
  exact ⟨rfl, rfl⟩

theorem initial?_autoUpdateConflict (sourceType address : String) :
    (autoUpdateConflict sourceType address).initial? = some 'M' := by
  unfold initial? message
  simp only [String.toList_append, List.head?_append]
  rfl

/-- Variables without a name are told something else. -/
theorem message_blankVariable_ne (name pipeline : String) :
    blankVariable.message ≠ (duplicateVariable name pipeline).message := by
  intro same
  have later := congrArg (fun message => (message.toList.drop 21).head?) same
  unfold message at later
  simp only [String.toList_append] at later
  cases later

end Problem

namespace Name

theorem same_eq_decide (left right : Name) : left.same right = decide (left.key = right.key) := by
  rw [Bool.eq_iff_iff, same_iff, decide_eq_true_iff]

end Name

/-! ## Stages and jobs -/

/-- Stages are told apart without regard to case. -/
def Stage.naming : Naming Stage (List UInt8) where
  name? stage := some stage.name.text
  fold text := Name.key ⟨text⟩
  problem text := .duplicateStage ⟨text⟩
  errors := Stage.errors

/-- Jobs are told apart without regard to case. -/
def Job.naming : Naming Job (List UInt8) where
  name? job := some job.name.text
  fold text := Name.key ⟨text⟩
  problem text := .duplicateJob ⟨text⟩
  errors := Job.errors

/-- Materials are told apart by the names they go by, without regard to case. -/
def Material.naming : Naming Material (List UInt8) where
  name? material := material.effectiveName?.map Name.text
  fold text := Name.key ⟨text⟩
  problem text := .duplicateMaterial ⟨text⟩
  errors := Material.errors

/-- Parameters are told apart without regard to case. -/
def Parameter.naming : Naming Parameter (List UInt8) where
  name? parameter := some parameter.name
  fold text := Name.key ⟨text⟩
  problem text := .duplicateParameter text
  errors := Parameter.errors

/-- Variables are told apart as they are written; a blank name is none. -/
def Variable.naming (pipeline : Name) : Naming Variable String where
  name? binding := if Text.isBlank binding.name then none else some binding.name
  fold text := text
  problem text := .duplicateVariable text pipeline.text
  errors := Variable.errors

theorem Stage.finds (stage : Stage) (scope : Scope) :
    naming.Finds (siblings scope) stage (stage.problems scope) := by
  refine Naming.finds_append ?_ fun problem member name =>
    Problem.message_ne_of_initial? ?_
  · simp only [Naming.repeats, naming, Option.map_some, Option.getD_some, Option.any_some,
      Name.same_eq_decide]
    rfl
  · have repeated := (Problem.initial?_repeated ⟨name⟩).1
    rw [naming, repeated]
    rcases List.mem_append.1 member with member | member
    · obtain rfl := Problem.eq_of_mem_when member
      simp [Problem.initial?_invalidName]
    · obtain rfl := Problem.eq_of_mem_when member
      simp [(Problem.initial?_empty _).1]

theorem Job.finds (job : Job) {scope : Scope} {stage : Stage} (around : scope.stage? = some stage) :
    naming.Finds stage.jobs job (job.problems scope) := by
  refine Naming.finds_append ?_ fun problem member name =>
    Problem.message_ne_of_initial? ?_
  · simp only [around, Naming.repeats, naming, Option.map_some, Option.getD_some, Option.any_some,
      Name.same_eq_decide]
    rfl
  · have repeated := (Problem.initial?_repeated ⟨name⟩).2.1
    rw [naming, repeated]
    rcases List.mem_append.1 member with member | member
    · obtain rfl := Problem.eq_of_mem_when member
      simp [Problem.initial?_invalidName]
    · obtain rfl := Problem.eq_of_mem_when member
      simp [(Problem.initial?_empty _).2]

/-! ## Materials, parameters and variables -/

namespace Material

/-- Nothing else is told of a material in words that begin like those for a repeated name. -/
theorem initial?_ne (material : Material) (scope : Scope) {problem : Problem}
    (member : problem ∈ material.nameProblems ++
      (material.folderProblems ++ material.sourceProblems scope ++
        material.pollingProblems scope)) :
    problem.initial? ≠ some 'Y' := by
  simp only [List.mem_append] at member
  rcases member with member | (member | member) | member
  · rw [nameProblems] at member
    split at member
    · obtain rfl := Problem.eq_of_mem_when member
      simp [Problem.initial?_invalidName]
    · simp at member
  · rw [folderProblems] at member
    split at member
    · obtain rfl := Problem.eq_of_mem_when member
      simp [Problem.initial?_folderOutside]
    · simp at member
  · rw [sourceProblems] at member
    cases source : material.source <;> simp only [source, List.mem_append] at member
    case dependency upstream stage =>
      rw [dependencyProblems] at member
      split at member
      · obtain rfl := List.mem_singleton.1 member
        simp [(Problem.initial?_unknown _ stage _).1]
      · obtain rfl := Problem.eq_of_mem_when member
        simp [(Problem.initial?_unknown upstream stage "").2]
    case p4 =>
      rcases member with member | member <;>
        · obtain rfl := Problem.eq_of_mem_when member
          decide
    case tfs =>
      rcases member with member | member <;>
        · obtain rfl := Problem.eq_of_mem_when member
          decide
    all_goals
      obtain rfl := Problem.eq_of_mem_when member
      decide
  · rw [pollingProblems] at member
    split at member
    · simp at member
    · obtain rfl := Problem.eq_of_mem_when member
      simp [Problem.initial?_autoUpdateConflict]

theorem finds (material : Material) {scope : Scope} {pipeline : Pipeline}
    (around : scope.pipeline? = some pipeline) :
    naming.Finds pipeline.materials.items material (material.problems scope) := by
  have split : material.problems scope =
      material.nameProblems ++ material.sharedNameProblems scope ++
        (material.folderProblems ++ material.sourceProblems scope ++
          material.pollingProblems scope) := by
    simp only [problems, List.append_assoc]
  rw [split]
  refine Naming.finds_append ?_ fun problem member name =>
    Problem.message_ne_of_initial? ?_
  · rw [sharedNameProblems, around]
    cases named : material.effectiveName? with
    | none => simp [Naming.repeats, naming, named]
    | some name =>
      simp only [Naming.repeats, naming, named, Option.map_some, Option.getD_some, goesBy,
        Option.any_map, Name.same_eq_decide]
      rfl
  · have repeated := (Problem.initial?_repeated ⟨name⟩).2.2.1
    rw [naming, repeated]
    exact material.initial?_ne scope member

end Material

theorem Parameter.finds (parameter : Parameter) {scope : Scope} {pipeline : Pipeline}
    (around : scope.pipeline? = some pipeline) :
    naming.Finds pipeline.params parameter (parameter.problems scope) := by
  rw [problems, ← List.append_nil (_ ++ _)]
  refine Naming.finds_append ?_ fun problem member name =>
    Problem.message_ne_of_initial? ?_
  · simp only [around, Naming.repeats, naming, Option.map_some, Option.getD_some, Option.any_some,
      Name.same_eq_decide]
    rfl
  · have repeated := (Problem.initial?_repeated ⟨name⟩).2.2.2
    rw [List.append_nil] at member
    obtain rfl := Problem.eq_of_mem_when member
    rw [naming, repeated]
    simp [Problem.initial?_invalidName]

/-- A blank name is compared with none, and it equals none that is not blank. -/
theorem Variable.finds (binding : Variable) {scope : Scope} {pipeline : Pipeline}
    (around : scope.pipeline? = some pipeline) :
    (naming pipeline.name).Finds pipeline.environmentVariables binding
      (binding.problems scope) := by
  rw [problems, around]
  by_cases blank : Text.isBlank binding.name = true
  · rw [if_pos blank]
    refine ⟨[.blankVariable], [], ?_, ?_⟩
    · simp [Naming.repeats, naming, blank]
    · intro problem member name
      obtain rfl := List.mem_singleton.1 member
      exact Problem.message_blankVariable_ne name pipeline.name.text
  · rw [if_neg blank]
    refine ⟨[], [], ?_, by simp⟩
    have alike (other : Variable) :
        (((naming pipeline.name).name? other).any fun again => decide (again = binding.name)) =
          (other.name == binding.name) := by
      rw [naming]
      by_cases same : other.name = binding.name
      · simp [same, blank]
      · cases blank' : Text.isBlank other.name <;> simp [same, blank']
    have named : (naming pipeline.name).name? binding = some binding.name := if_neg blank
    rw [Naming.repeats, named]
    simp only [Option.map_some, Option.getD_some, List.nil_append, List.append_nil]
    have meets : (fun other => ((naming pipeline.name).name? other).any fun again =>
        decide ((naming pipeline.name).fold again = (naming pipeline.name).fold binding.name)) =
          fun other => other.name == binding.name := funext alike
    rw [meets]
    rfl

/-! ## Pipelines -/

namespace Pipeline

/-- The check of a pipeline, which changes nothing but the recorded messages, tells of repeated
names in each of its collections: of stages, of the jobs of a stage, of materials by the names they
go by, of parameters, all without regard to case, and of variables as they are spelled. Whoever
shares a name is told so once, whoever does not is not told; so nobody is told just when the names
differ pairwise, and nobody is told alone. A variable with a blank name is told that instead. -/
theorem repeats_told [Pattern.Engine] (pipeline : Pipeline) (catalog : Catalog) :
    let checked := (pipeline.validate catalog).2
    checked.clearErrors = pipeline.clearErrors ∧
      Stage.naming.Told checked.stages ∧
      (∀ stage ∈ checked.stages, Job.naming.Told stage.jobs) ∧
      Material.naming.Told checked.materials.items ∧
      Parameter.naming.Told checked.params ∧
      (Variable.naming pipeline.name).Told checked.environmentVariables := by
  intro checked
  have inside : (Scope.inside catalog pipeline).pipeline? = some pipeline := rfl
  refine ⟨(pipeline.review catalog).clearErrors_apply pipeline, ?stages, ?jobs, ?materials,
    ?params, ?bindings⟩
  case stages =>
    rw [stages_validate]
    exact Naming.told_map _ (fun _ => rfl) fun stage _ => ⟨_, rfl, stage.finds _⟩
  case jobs =>
    rw [stages_validate]
    intro stage member
    obtain ⟨stage, _, rfl⟩ := List.mem_map.1 member
    rw [stage.jobs_apply_review]
    exact Naming.told_map _ (fun _ => rfl) fun job _ => ⟨_, rfl, job.finds rfl⟩
  case materials =>
    rw [materials_validate]
    exact Naming.told_map _ (fun _ => rfl) fun material _ => ⟨_, rfl, material.finds inside⟩
  case params =>
    rw [params_validate]
    exact Naming.told_map _ (fun _ => rfl) fun parameter _ => ⟨_, rfl, parameter.finds inside⟩
  case bindings =>
    rw [environmentVariables_validate]
    exact Naming.told_map _ (fun _ => rfl) fun binding _ => ⟨_, rfl, binding.finds inside⟩

end Pipeline

end PipelineConfig
