import Mathlib.Data.List.Sort
import PipelineConfig.Proofs.Committed
import PipelineConfig.Proofs.Declarations

/-!
# Which spelling is shown

Names that differ only in case are one key, and each table has its own way to choose the spelling
that it keeps. The committed pipelines are listed under the spelling of their first write. Lists of
downstream pipelines are rebuilt with every write and follow the last one.
-/

namespace PipelineConfig

namespace Table

universe u v w

variable {κ : Type u} {α : Type v} {β : Type w} [Ord κ]

/-- The form in which a key is kept. -/
def form? (table : Table κ α) (key : κ) : Option κ :=
  (table.entries.find? fun entry => (compare key entry.1).isEq).map Prod.fst

theorem form?_eq_find? (table : Table κ α) (key : κ) :
    table.form? key = table.keys.find? fun other => (compare key other).isEq := by
  rw [form?, keys, List.find?_map]
  rfl

variable [Std.TransOrd κ]

theorem form?_congr (table : Table κ α) {left right : κ} (equal : compare left right = .eq) :
    table.form? left = table.form? right := by
  simp only [form?, isEq_compare_left _ equal]

/-- A table lists the keys that are kept in their own form. -/
theorem mem_keys_iff {table : Table κ α} {key : κ} :
    key ∈ table.keys ↔ table.form? key = some key := by
  rw [keys, List.mem_map, form?, Option.map_eq_some_iff]
  constructor
  · rintro ⟨entry, member, rfl⟩
    exact ⟨entry, find?_of_mem_ordered table.ordered member, rfl⟩
  · rintro ⟨entry, found, rfl⟩
    exact ⟨entry, List.mem_of_find?_eq_some found, rfl⟩

theorem find?_insertEntry_fst {entries : List (κ × α)}
    (ordered : entries.Pairwise fun left right => compare left.1 right.1 = .lt)
    (key other : κ) (value : α) :
    ((insertEntry key value entries).find? fun entry => (compare other entry.1).isEq).map
        Prod.fst =
      if (compare other key).isEq then
        some (((entries.find? fun entry => (compare key entry.1).isEq).map Prod.fst).getD key)
      else (entries.find? fun entry => (compare other entry.1).isEq).map Prod.fst := by
  induction ordered with
  | nil =>
    by_cases hit : (compare other key).isEq <;> simp [insertEntry, hit]
  | @cons head rest before _ ih =>
    rw [insertEntry]
    cases order : compare key head.1 with
    | lt =>
      rw [find?_eq_none_of_lt before order]
      by_cases hit : (compare other key).isEq
      · simp [hit]
      · simp [List.find?_cons, hit]
    | eq =>
      have agree : (compare other head.1).isEq = (compare other key).isEq := by
        rw [Std.TransCmp.congr_right order]
      by_cases hit : (compare other key).isEq
      · simp [agree, hit, order]
      · simp [agree, hit]
    | gt =>
      by_cases hit : (compare other head.1).isEq
      · have apart : (compare other key).isEq = false := by
          have equal : compare other head.1 = .eq := by simpa using hit
          rw [isEq_compare_left key equal, Std.OrientedCmp.lt_of_gt order]
          rfl
        simp [hit, apart]
      · simpa [List.find?_cons, hit, order] using ih

/-- A new key is kept as it comes. A key that is there keeps its form. -/
theorem form?_insert (table : Table κ α) (key other : κ) (value : α) :
    (table.insert key value).form? other =
      if (compare other key).isEq then some ((table.form? key).getD key)
      else table.form? other :=
  find?_insertEntry_fst table.ordered key other value

/-- Lists in strict order are told apart by their members. -/
theorem eq_of_mem_iff {left right : List κ}
    (left_ordered : left.Pairwise fun first second => compare first second = .lt)
    (right_ordered : right.Pairwise fun first second => compare first second = .lt)
    (members : ∀ key, key ∈ left ↔ key ∈ right) : left = right := by
  have irreflexive : Std.Irrefl fun first second : κ => compare first second = .lt :=
    ⟨fun key => by simp⟩
  have antisymmetric : Std.Antisymm fun first second : κ => compare first second = .lt :=
    ⟨fun first second before after => by simp [Std.OrientedCmp.gt_of_lt before] at after⟩
  exact left_ordered.eq_of_mem_iff right_ordered members

theorem keys_eq_of_mem_iff {left : Table κ α} {right : Table κ β}
    (members : ∀ key, key ∈ left.keys ↔ key ∈ right.keys) : left.keys = right.keys :=
  eq_of_mem_iff left.pairwise_keys right.pairwise_keys members

theorem keys_eq_iff {left : Table κ α} {right : Table κ β} :
    left.keys = right.keys ↔ ∀ key, left.form? key = right.form? key := by
  constructor
  · intro equal key
    rw [form?_eq_find?, form?_eq_find?, equal]
  · intro agree
    exact keys_eq_of_mem_iff fun key => by rw [mem_keys_iff, mem_keys_iff, agree]

end Table

namespace Catalog

/-! ## Downstream pipelines -/

/-- Lists of downstream pipelines show a name in one spelling. -/
def ShownAs (name : Name) (downstreams : Table Name NameSet) : Prop :=
  ∀ upstream, ∀ member ∈ ((downstreams.get? upstream).getD ∅).toList,
    member.same name = true → member = name

theorem shownAs_addDownstream {name : Name} {downstreams : Table Name NameSet}
    (shown : ShownAs name downstreams) (upstream : Name) :
    ShownAs name (addDownstream downstreams upstream name) := by
  intro other
  rw [getD_addDownstream]
  split
  · intro member listed
    obtain ⟨entry, inside, rfl⟩ := List.mem_map.1 listed
    refine Table.forall_key_insertEntry
      (motive := fun member => member.same name = true → member = name) (fun _ => rfl) ?_
      entry inside
    exact fun entry inside => shown other entry.1 (List.mem_map_of_mem inside)
  · exact shown other

theorem shownAs_foldl_addDownstream {name : Name} (upstreams : List Name)
    {downstreams : Table Name NameSet} (shown : ShownAs name downstreams) :
    ShownAs name
      (upstreams.foldl (fun table upstream => addDownstream table upstream name) downstreams) := by
  induction upstreams generalizing downstreams with
  | nil => exact shown
  | cons upstream rest ih => exact ih (shownAs_addDownstream shown upstream)

/-- An insertion takes every earlier mention of the pipeline away, so only its new spelling is
left. -/
theorem Consistent.shownAs_insert {catalog : Catalog} (consistent : catalog.Consistent)
    (pipeline : Pipeline) (group : String) :
    ShownAs pipeline.name (catalog.insert pipeline group).downstreams := by
  refine shownAs_foldl_addDownstream _ fun upstream member listed same => ?_
  have mentioned := (NameSet.has_eq_of_same _ same).symm.trans (NameSet.has_of_mem listed)
  rw [has_foldl_dropDownstream, ← NameSet.has_eq_any] at mentioned
  have waited := Mirrors.has_downstreamsOf consistent upstream pipeline.name
  simp only [downstreamsOf, upstreamsOf] at waited
  simp [waited] at mentioned

namespace Written

variable {catalog : Catalog} {written : List Entry}

theorem consistent (came : catalog.Written written) : catalog.Consistent :=
  came.mirrors.consistent

/-- Downstream pipelines are shown as they are committed. -/
theorem committed_of_mem_downstreamsOf (came : catalog.Written written) {upstream member : Name}
    (listed : member ∈ (catalog.downstreamsOf upstream).toList) :
    ∃ pipeline, catalog.pipeline? member = some pipeline ∧ pipeline.name = member := by
  induction came with
  | start => simp [downstreamsOf] at listed
  | @insert catalog written before pipeline group ih =>
    rw [pipeline?_insert]
    by_cases own : pipeline.name.same member = true
    · refine ⟨pipeline, if_pos own, ?_⟩
      exact (before.consistent.shownAs_insert pipeline group upstream member listed
        (Name.same_symm own)).symm
    · rw [if_neg own]
      have kept : member ∈ (catalog.downstreamsOf upstream).toList.filter
          fun member => !member.same pipeline.name := by
        rw [← filter_downstreamsOf_insert catalog pipeline group]
        exact List.mem_filter.2 ⟨listed, by simpa [Name.same_comm] using own⟩
      exact ih (List.mem_filter.1 kept).1
  | furnish _ _ _ ih => exact ih listed

theorem mem_downstreamsOf_iff (came : catalog.Written written) (upstream member : Name) :
    member ∈ (catalog.downstreamsOf upstream).toList ↔
      ∃ pipeline, catalog.pipeline? member = some pipeline ∧ pipeline.name = member ∧
        pipeline.upstreams.has upstream = true := by
  have waits (name : Name) {pipeline : Pipeline} (found : catalog.pipeline? name = some pipeline) :
      (catalog.downstreamsOf upstream).has name = pipeline.upstreams.has upstream := by
    obtain ⟨group, found⟩ := pipeline?_eq_some_iff.1 found
    rw [Mirrors.downstreams came.consistent, found]
    rfl
  constructor
  · intro listed
    obtain ⟨pipeline, found, spelled⟩ := came.committed_of_mem_downstreamsOf listed
    exact ⟨pipeline, found, spelled, waits member found ▸ NameSet.has_of_mem listed⟩
  · rintro ⟨pipeline, found, rfl, waiting⟩
    rw [← waits _ found] at waiting
    obtain ⟨member, listed, same⟩ := NameSet.has_iff.1 waiting
    obtain ⟨shown, shown_found, rfl⟩ := came.committed_of_mem_downstreamsOf listed
    rw [catalog.pipeline?_congr same, found, Option.some.injEq] at shown_found
    rwa [shown_found]

/-! ## Committed pipelines -/

theorem form?_entries (came : catalog.Written written) (name : Name) :
    catalog.entries.form? name =
      (firstWrite? written name).map fun entry => entry.pipeline.name := by
  induction came with
  | start => rfl
  | @insert catalog written _ pipeline group ih =>
    have entries : (catalog.insert pipeline group).entries =
        catalog.entries.insert pipeline.name ⟨group, pipeline⟩ := rfl
    rw [entries, Table.form?_insert, firstWrite?_append_singleton, ← Name.same_eq_isEq,
      Name.same_comm]
    by_cases own : pipeline.name.same name = true
    · rw [catalog.entries.form?_congr (Name.compare_eq_iff_same.2 own), ih, if_pos own, if_pos own]
      cases firstWrite? written name <;> rfl
    · rw [if_neg own, if_neg own, ih, Option.or_none]
  | furnish _ _ _ ih => exact ih

/-- Committed pipelines are listed as they were first written. -/
theorem mem_names_iff (came : catalog.Written written) {name : Name} :
    name ∈ catalog.names ↔
      ∃ first, firstWrite? written name = some first ∧ first.pipeline.name = name := by
  rw [names, Table.mem_keys_iff, came.form?_entries, Option.map_eq_some_iff]

end Written

end Catalog

end PipelineConfig
