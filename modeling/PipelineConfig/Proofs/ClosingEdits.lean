import PipelineConfig.Proofs.CyclePaths
import PipelineConfig.Proofs.Messages
import PipelineConfig.Proofs.Removal

/-!
# Edits that close a loop

In a sound catalog the dependencies lead into no loop, so every loop that an edit closes goes
through the edited pipeline. The search for a loop starts there and comes back there, and the
pipelines it goes through are found downstream of the edited pipeline before the edit is made.
-/

namespace PipelineConfig

namespace DependencyView

variable {view : DependencyView}

theorem Walk.root_mem {root : Name} {names : List Name} (walked : view.Walk root names) :
    root ∈ names := by
  induction walked with
  | start => simp
  | step _ _ _ ih => exact List.mem_cons_of_mem _ ih

theorem Walk.reverse_eq {root : Name} {names : List Name} (walked : view.Walk root names) :
    ∃ rest, names.reverse = root :: rest := by
  induction walked with
  | start => exact ⟨[], rfl⟩
  | @step current next outer _ _ _ ih =>
    obtain ⟨rest, turned⟩ := ih
    exact ⟨rest ++ [next], by rw [List.reverse_cons, turned, List.cons_append]⟩

/-- A walk comes by its root only once. -/
theorem Walk.current_apart {root current name : Name} {outer : List Name}
    (walked : view.Walk root (current :: outer)) (member : name ∈ current :: outer)
    (apart : name.same root = false) : current.same root = false := by
  cases walked with
  | start =>
    obtain rfl := List.mem_singleton.1 member
    exact apart
  | step before _ fresh =>
    rw [Name.same_comm]
    exact Bool.eq_false_iff.2 (List.any_eq_false.1 fresh root before.root_mem)

/-- From any name but its root, a walk goes on without leaving the root again. -/
theorem Walk.onward {root current : Name} {outer : List Name}
    (walked : view.Walk root (current :: outer)) :
    ∀ name ∈ current :: outer, name.same root = false →
      Relation.ReflTransGen
        (fun left right => left.same root = false ∧ view.Waits left right) name current := by
  generalize names_eq : current :: outer = names at walked
  induction walked generalizing current outer with
  | start =>
    obtain ⟨rfl, rfl⟩ := List.cons.inj names_eq
    intro name member _
    obtain rfl := List.mem_singleton.1 member
    exact .refl
  | @step previous next before walked waits _ ih =>
    obtain ⟨rfl, rfl⟩ := List.cons.inj names_eq
    intro name member apart
    rcases List.mem_cons.1 member with rfl | earlier
    · exact .refl
    · have previous_apart := walked.current_apart earlier apart
      exact (ih rfl name earlier apart).tail ⟨previous_apart, waits⟩

end DependencyView

namespace Catalog

/-- A dependency of an edited pipeline on this upstream pipeline leads back to the edited one. -/
def closesLoop (catalog : Catalog) (edited upstream : Name) : Bool :=
  upstream.same edited || (catalog.transitiveDownstreamsOf edited).has upstream

end Catalog

namespace Pipeline

/-- What a review records against the materials of a pipeline as a whole. -/
def collectionMessages [Pattern.Engine] (pipeline : Pipeline) (catalog : Catalog) : List String :=
  (pipeline.validate catalog).2.materials.errors.on FieldErrors.base

/-- Whatever it waits for is committed, or is the pipeline itself. -/
def UpstreamsKnown (pipeline : Pipeline) (catalog : Catalog) : Prop :=
  ∀ upstream, pipeline.upstreams.has upstream = true →
    catalog.contains upstream = true ∨ upstream.same pipeline.name = true

/-- The pipeline without the dependency materials that lead back to it. -/
def withoutClosing (pipeline : Pipeline) (catalog : Catalog) : Pipeline :=
  { pipeline with
    materials.items := pipeline.materials.items.filter fun material =>
      !material.upstream?.any (catalog.closesLoop pipeline.name) }

theorem collectionMessages_eq [Pattern.Engine] (pipeline : Pipeline) (catalog : Catalog)
    (group : String) :
    pipeline.collectionMessages catalog =
      match (catalog.insert pipeline group).dependencyView.findCycle pipeline.name with
      | .error failure => [failure.message]
      | .ok () => [] := by
  have searched : ((Scope.ofEdit catalog pipeline).proposedView pipeline).findCycle pipeline.name =
      (catalog.insert pipeline group).dependencyView.findCycle pipeline.name :=
    pipeline.findCycle_proposedView catalog group rfl (.inr rfl) pipeline.name
  have recorded : pipeline.collectionMessages catalog =
      (FieldErrors.ofProblems (pipeline.dependencyProblems (.ofEdit catalog pipeline))).on
        FieldErrors.base := rfl
  rw [recorded, dependencyProblems, searched]
  cases (catalog.insert pipeline group).dependencyView.findCycle pipeline.name <;> rfl

end Pipeline

namespace Catalog

variable {catalog : Catalog} {edited : Pipeline} {group : String}

/-- Once an edit is made whose dependencies are known, all dependencies of a sound catalog are. -/
theorem Sound.knows_of_waits_insert [Pattern.Engine] (sound : catalog.Sound)
    (consistent : catalog.Consistent) (known : edited.UpstreamsKnown catalog) {name upstream : Name}
    (waits : (catalog.insert edited group).dependencyView.Waits name upstream) :
    (catalog.insert edited group).dependencyView.knows upstream = true := by
  have committed_or_own : (catalog.pipeline? upstream).isSome = true ∨
      edited.name.same upstream = true := by
    have waits : ((catalog.insert edited group).upstreamsOf name).has upstream = true := waits
    rw [upstreamsOf_insert] at waits
    split at waits
    · rw [← contains_eq_isSome, Name.same_comm]
      exact known upstream waits
    · have waited : catalog.dependencyView.Waits name upstream := waits
      have committed := ((sound.settles consistent name).of_waits waited).1
      exact .inl (by rwa [knows_dependencyView] at committed)
  rw [knows_dependencyView, pipeline?_insert]
  rcases committed_or_own with committed | own
  · split
    · rfl
    · exact committed
  · rw [if_pos own]
    rfl

/-- A sound catalog has no loop, so one that a walk from the edit meets comes back to the edit. -/
theorem Sound.same_of_walk_insert [Pattern.Engine] (sound : catalog.Sound)
    (consistent : catalog.Consistent) {current next : Name} {outer : List Name}
    (walked : (catalog.insert edited group).dependencyView.Walk edited.name (current :: outer))
    (waits : (catalog.insert edited group).dependencyView.Waits current next)
    (met : DependencyView.isOn (current :: outer) next = true) :
    edited.name.same next = true := by
  obtain ⟨name, member, same⟩ := List.any_eq_true.1 met
  cases apart : name.same edited.name with
  | true => exact Name.same_trans (Name.same_symm apart) same
  | false =>
    have committed {left right : Name} (left_apart : left.same edited.name = false)
        (edge : (catalog.insert edited group).dependencyView.Waits left right) :
        catalog.dependencyView.Waits left right := by
      have edge : ((catalog.insert edited group).upstreamsOf left).has right = true := edge
      rwa [upstreamsOf_insert, Name.same_comm, left_apart, if_neg Bool.false_ne_true] at edge
    have onward : Relation.ReflTransGen catalog.dependencyView.Waits name current :=
      (walked.onward name member apart).lift id fun _ _ edge => committed edge.1 edge.2
    have closing : catalog.dependencyView.Waits current name :=
      (committed (walked.current_apart member apart) waits).congr_right (Name.same_symm same)
    exact absurd (.tail' onward closing) (sound.settles consistent name).not_loop

/-- An edit waits for itself, at any distance, just when one of its dependencies closes a loop. -/
theorem Consistent.loop_insert_iff (consistent : catalog.Consistent) (group : String) :
    Relation.TransGen (catalog.insert edited group).dependencyView.Waits edited.name edited.name ↔
      ∃ upstream, edited.upstreams.has upstream = true ∧
        catalog.closesLoop edited.name upstream = true := by
  have now := consistent.insert edited group
  have waits_iff (upstream : Name) :
      (catalog.insert edited group).dependencyView.Waits edited.name upstream ↔
        edited.upstreams.has upstream = true := by
    have waits : (catalog.insert edited group).dependencyView.Waits edited.name upstream ↔
        ((catalog.insert edited group).upstreamsOf edited.name).has upstream = true := Iff.rfl
    rw [waits, upstreamsOf_insert, Name.same_self, if_pos rfl]
  have downstream_iff {upstream : Name} (apart : upstream.same edited.name = false) :
      (catalog.transitiveDownstreamsOf edited.name).has upstream = true ↔
        Relation.TransGen (catalog.insert edited group).dependencyView.Waits upstream
          edited.name := by
    rw [← now.leads_iff, leads_iff_has_transitiveDownstreamsOf apart,
      transitiveDownstreamsOf_insert]
  constructor
  · intro loop
    obtain ⟨upstream, first, onward⟩ := Relation.TransGen.head'_iff.1 loop
    refine ⟨upstream, (waits_iff upstream).1 first, ?_⟩
    rw [closesLoop, Bool.or_eq_true]
    rcases Relation.reflTransGen_iff_eq_or_transGen.1 onward with rfl | onward
    · exact .inl (Name.same_self _)
    · cases apart : upstream.same edited.name with
      | true => exact .inl rfl
      | false => exact .inr ((downstream_iff apart).2 onward)
  · rintro ⟨upstream, proposed, closes⟩
    have first := (waits_iff upstream).2 proposed
    cases apart : upstream.same edited.name with
    | true => exact .single (first.congr_right apart)
    | false =>
      rw [closesLoop, apart, Bool.false_or] at closes
      exact .head first ((downstream_iff apart).1 closes)

/-- What the search for a loop finds when an edit is made to a sound catalog. -/
theorem Sound.findCycle_insert [Pattern.Engine] (sound : catalog.Sound)
    (consistent : catalog.Consistent) (known : edited.UpstreamsKnown catalog) {failure : Failure}
    (failed : (catalog.insert edited group).dependencyView.findCycle edited.name =
      .error failure) :
    Relation.TransGen (catalog.insert edited group).dependencyView.Waits edited.name edited.name ∧
      ∃ between last, failure = .circularDependency (edited.name :: (between ++ [last])) ∧
        last.same edited.name = true := by
  obtain ⟨current, outer, next, walked, waits, ⟨unknown, _⟩ | ⟨met, rfl⟩⟩ :=
    DependencyView.obstructed_of_findCycle failed
  · simp [sound.knows_of_waits_insert consistent known waits] at unknown
  · have back := sound.same_of_walk_insert consistent walked waits met
    obtain ⟨between, turned⟩ := walked.reverse_eq
    have from_root := (walked.reaches current (by simp)).1
    refine ⟨.tail' from_root (waits.congr_right (Name.same_symm back)), between, next, ?_,
      Name.same_symm back⟩
    rw [turned, Failure.circular, Failure.loopPath_of_same between back]

theorem Sound.collectionMessages_ne_nil_iff [Pattern.Engine] (sound : catalog.Sound)
    (consistent : catalog.Consistent) (known : edited.UpstreamsKnown catalog) :
    edited.collectionMessages catalog ≠ [] ↔
      ∃ upstream, edited.upstreams.has upstream = true ∧
        catalog.closesLoop edited.name upstream = true := by
  rw [← consistent.loop_insert_iff "", edited.collectionMessages_eq catalog ""]
  cases searched : (catalog.insert edited "").dependencyView.findCycle edited.name with
  | error failure =>
    have loop := (sound.findCycle_insert consistent known searched).1
    simpa using loop
  | ok =>
    have settles := (DependencyView.findCycle_eq_ok_iff (regular_dependencyView _)).1 searched
    simpa using settles.not_loop

theorem closesLoop_congr (catalog : Catalog) (edited : Name) {left right : Name}
    (same : left.same right = true) :
    catalog.closesLoop edited left = catalog.closesLoop edited right := by
  rw [closesLoop, closesLoop, Name.same_congr_left edited same, NameSet.has_eq_of_same _ same]

theorem of_has_upstreams_withoutClosing {upstream : Name}
    (has : (edited.withoutClosing catalog).upstreams.has upstream = true) :
    edited.upstreams.has upstream = true ∧
      catalog.closesLoop edited.name upstream = false := by
  obtain ⟨material, kept, waits⟩ := Pipeline.has_upstreams_iff.1 has
  obtain ⟨member, harmless⟩ := List.mem_filter.1 kept
  refine ⟨Pipeline.has_upstreams_iff.2 ⟨material, member, waits⟩, ?_⟩
  obtain ⟨named, target, same⟩ := (Option.any_eq_true _ _).1 waits
  rw [← catalog.closesLoop_congr edited.name same]
  simpa [target] using harmless

/-- An edit of a sound catalog that waits for known pipelines only is told of a loop just when one
of its dependencies closes one. It is told so once, with a path that starts at the edited pipeline
and comes back to it, and not at all without the dependency materials that lead back. -/
theorem Reachable.collectionMessages_closing [Pattern.Engine] (reachable : catalog.Reachable)
    (sound : catalog.Sound) (known : edited.UpstreamsKnown catalog) :
    (edited.collectionMessages catalog ≠ [] ↔
      ∃ upstream, edited.upstreams.has upstream = true ∧
        catalog.closesLoop edited.name upstream = true) ∧
    (edited.collectionMessages catalog ≠ [] →
      ∃ path between last,
        edited.collectionMessages catalog = [(Failure.circularDependency path).message] ∧
        (Failure.circularDependency path).message =
          "Circular dependency: " ++ " <- ".intercalate (path.map Name.text) ∧
        path = edited.name :: (between ++ [last]) ∧ last.same edited.name = true) ∧
    (edited.withoutClosing catalog).collectionMessages catalog = [] := by
  have consistent := reachable.consistent
  refine ⟨sound.collectionMessages_ne_nil_iff consistent known, ?told, ?silent⟩
  case told =>
    rw [edited.collectionMessages_eq catalog ""]
    cases searched : (catalog.insert edited "").dependencyView.findCycle edited.name with
    | error failure =>
      obtain ⟨_, between, last, rfl, back⟩ := sound.findCycle_insert consistent known searched
      exact fun _ =>
        ⟨_, between, last, rfl, Failure.message_circularDependency _, rfl, back⟩
    | ok => exact fun told => absurd rfl told
  case silent =>
    have known_kept : (edited.withoutClosing catalog).UpstreamsKnown catalog :=
      fun upstream has => known upstream (of_has_upstreams_withoutClosing has).1
    by_contra told
    obtain ⟨upstream, has, closes⟩ :=
      (sound.collectionMessages_ne_nil_iff consistent known_kept).1 told
    have harmless := (of_has_upstreams_withoutClosing has).2
    rw [show (edited.withoutClosing catalog).name = edited.name from rfl, harmless] at closes
    exact Bool.false_ne_true closes

/-- A version of `build`, in another spelling, that waits for what waits for `build`. -/
def closingBuild : Pipeline :=
  { name := ⟨"Build"⟩,
    materials.items := [⟨.dependency ⟨"deploy"⟩ ⟨"run"⟩, none, none, true, .none⟩] }

theorem collectionMessages_closingBuild :
    closingBuild.collectionMessages (initial (some declaredTogether)) ≠ [] ∧
      (closingBuild.withoutClosing (initial (some declaredTogether))).collectionMessages
        (initial (some declaredTogether)) = [] := by
  have sound : (initial (some declaredTogether)).Sound :=
    (sound_ofConfiguration_iff declaredTogether_distinct).2 declaredTogether_allValid
  have known : closingBuild.UpstreamsKnown (initial (some declaredTogether)) := by
    intro upstream has
    obtain ⟨material, member, waits⟩ := Pipeline.has_upstreams_iff.1 has
    obtain rfl := List.mem_singleton.1 member
    have same : (⟨"deploy"⟩ : Name).same upstream = true := waits
    rw [contains_eq_isSome, ← pipeline?_congr _ same]
    exact .inl (by decide +kernel)
  have feeds : (initial (some declaredTogether)).Feeds ⟨"Build"⟩ ⟨"deploy"⟩ := by
    unfold Feeds
    decide +kernel
  have closes : (initial (some declaredTogether)).closesLoop ⟨"Build"⟩ ⟨"deploy"⟩ = true := by
    have apart : (⟨"deploy"⟩ : Name).same ⟨"Build"⟩ = false := by decide +kernel
    have downstream := (leads_iff_has_transitiveDownstreamsOf apart).1 (.single feeds)
    rw [closesLoop, downstream, Bool.or_true]
  have closing := Reachable.collectionMessages_closing ⟨some declaredTogether, [], rfl⟩ sound known
  exact ⟨closing.1.2 ⟨⟨"deploy"⟩, by decide +kernel, closes⟩, closing.2.2⟩

end Catalog

end PipelineConfig
