import PipelineConfig.Proofs.History

/-!
# The order of the uses of a source

A write lasts until its name is written again. The uses of a source stand in the order of the writes
that last, whatever was written and replaced in between, and the uses by one pipeline stand in the
order of its materials.
-/

namespace PipelineConfig

/-- The writes that no later write replaces, oldest first. -/
def lastingWrites : List Entry → List Entry
  | [] => []
  | entry :: later =>
    if later.any fun other => other.pipeline.name.same entry.pipeline.name then
      lastingWrites later
    else entry :: lastingWrites later

/-- A write replaces the one of its name and comes last. -/
theorem lastingWrites_append_singleton (written : List Entry) (entry : Entry) :
    lastingWrites (written ++ [entry]) =
      (lastingWrites written).filter
        (fun other => !other.pipeline.name.same entry.pipeline.name) ++ [entry] := by
  induction written with
  | nil => rfl
  | cons head rest ih =>
    rw [List.cons_append, lastingWrites, lastingWrites, ih, List.any_append, List.any_cons,
      List.any_nil, Bool.or_false, Name.same_comm entry.pipeline.name]
    cases replaced : rest.any fun other => other.pipeline.name.same head.pipeline.name with
    | true => simp
    | false => cases same : head.pipeline.name.same entry.pipeline.name <;> simp [same]

/-- The writes that last are the last ones of their names. -/
theorem mem_lastingWrites_iff {written : List Entry} {entry : Entry} :
    entry ∈ lastingWrites written ↔ lastWrite? written entry.pipeline.name = some entry := by
  induction written using List.reverseRecOn with
  | nil => simp [lastingWrites, lastWrite?]
  | append_singleton earlier last ih =>
    rw [lastingWrites_append_singleton, List.mem_append, List.mem_filter, ih, List.mem_singleton,
      lastWrite?_append_singleton, Name.same_comm entry.pipeline.name]
    cases same : last.pipeline.name.same entry.pipeline.name with
    | true => simp [eq_comm]
    | false =>
      have apart : entry ≠ last := by
        rintro rfl
        exact Bool.false_ne_true (same.symm.trans (Name.same_self _))
      simp [apart]

namespace Catalog

/-- The uses of a source by one committed pipeline. -/
def usesIn (fingerprint : String) (entry : Entry) : List Use :=
  (usesOf entry.pipeline).filter fun use => use.material.fingerprint = fingerprint

theorem filter_flatMap_usesIn (fingerprint : String) (name : Name) (entries : List Entry) :
    (entries.flatMap (usesIn fingerprint)).filter (fun use => !use.pipeline.name.same name) =
      (entries.filter fun entry => !entry.pipeline.name.same name).flatMap
        (usesIn fingerprint) := by
  have owner (entry : Entry) : ∀ use ∈ usesIn fingerprint entry, use.pipeline = entry.pipeline :=
    fun _ member => pipeline_of_mem_usesOf (List.mem_filter.1 member).1
  induction entries with
  | nil => rfl
  | cons entry rest ih =>
    rw [List.flatMap_cons, List.filter_append, ih, List.filter_cons]
    cases same : entry.pipeline.name.same name with
    | true =>
      have gone : (usesIn fingerprint entry).filter
          (fun use => !use.pipeline.name.same name) = [] := by
        rw [List.filter_eq_nil_iff]
        intro use member
        simp [owner entry use member, same]
      simp [gone]
    | false =>
      have kept : (usesIn fingerprint entry).filter
          (fun use => !use.pipeline.name.same name) = usesIn fingerprint entry := by
        rw [List.filter_eq_self]
        intro use member
        simp [owner entry use member, same]
      simp [kept]

theorem Mirrors.usesAt_insert {catalog : Catalog} {committed : Name → Option Entry}
    (mirrors : catalog.Mirrors committed) (pipeline : Pipeline) (group fingerprint : String) :
    (catalog.insert pipeline group).usesAt fingerprint =
      (catalog.usesAt fingerprint).filter (fun use => !use.pipeline.name.same pipeline.name) ++
        usesIn fingerprint ⟨group, pipeline⟩ := by
  rw [Catalog.usesAt_insert]
  split
  · rfl
  · rename_i fresh
    have others : (catalog.usesAt fingerprint).filter
        (fun use => !use.pipeline.name.same pipeline.name) = catalog.usesAt fingerprint := by
      rw [List.filter_eq_self]
      intro use member
      simpa using List.filter_eq_nil_iff.1 (mirrors.filter_usesAt_of_fresh fresh) use member
    rw [others]
    rfl

/-- The uses of a source stand in the order of the writes that last. -/
theorem Written.usesAt_eq {catalog : Catalog} {written : List Entry}
    (came : catalog.Written written) (fingerprint : String) :
    catalog.usesAt fingerprint = (lastingWrites written).flatMap (usesIn fingerprint) := by
  induction came with
  | start security => rfl
  | insert before pipeline group ih =>
    rw [before.mirrors.usesAt_insert, ih, lastingWrites_append_singleton, List.flatMap_append,
      filter_flatMap_usesIn, List.flatMap_singleton]
  | furnish _ templates environments ih => exact ih

/-- The materials of the writes that last, in the order in which they were declared. -/
theorem Written.map_material_usesAt {catalog : Catalog} {written : List Entry}
    (came : catalog.Written written) (fingerprint : String) :
    (catalog.usesAt fingerprint).map Use.material =
      ((lastingWrites written).flatMap fun entry => entry.pipeline.materials.items).filter
        fun material => material.fingerprint = fingerprint := by
  have declared (pipeline : Pipeline) :
      (usesOf pipeline).map Use.material = pipeline.materials.items := by
    refine List.ext_getElem? fun position => ?_
    rw [List.getElem?_map, usesOf, List.getElem?_mapIdx, Option.map_map]
    exact Option.map_id'
  rw [came.usesAt_eq, List.map_flatMap, List.filter_flatMap]
  congr 1
  funext entry
  rw [← declared, List.filter_map]
  rfl

end Catalog

end PipelineConfig
