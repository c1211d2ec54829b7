import PipelineConfig.Proofs.Tables

/-!
# What an insertion changes

`Catalog.insert` takes away what a pipeline contributed before and adds what it contributes now.
Each table is described by what it answers afterwards. Whatever the tables held before, the answers
about other pipelines stay as they were, in the same order.
-/

namespace PipelineConfig

/-- A pipeline waits for what its dependency materials name. -/
theorem Pipeline.has_upstreams_iff {pipeline : Pipeline} {upstream : Name} :
    pipeline.upstreams.has upstream = true ↔
      ∃ material ∈ pipeline.materials.items, material.dependsOn upstream = true := by
  rw [upstreams, Materials.upstreams, NameSet.has_ofList, List.any_eq_true]
  simp only [List.mem_filterMap, Material.dependsOn, Option.any_eq_true]
  constructor
  · rintro ⟨name, ⟨material, member, named⟩, same⟩
    exact ⟨material, member, name, named, same⟩
  · rintro ⟨material, member, name, named, same⟩
    exact ⟨name, ⟨material, member, named⟩, same⟩

namespace Catalog

/-! ## Uses -/

theorem getD_dropUses (uses : Table String (List Use)) (fingerprint other : String) (name : Name) :
    ((dropUses uses fingerprint name).get? other).getD [] =
      if fingerprint = other then
        ((uses.get? other).getD []).filter fun use => !use.pipeline.name.same name
      else (uses.get? other).getD [] := by
  have equal_iff : (compare other fingerprint).isEq = decide (fingerprint = other) := by
    rw [Bool.eq_iff_iff, Ordering.isEq_iff_eq_eq, Std.LawfulEqOrd.compare_eq_iff_eq,
      decide_eq_true_iff, eq_comm]
  rw [dropUses]
  split
  · rename_i absent
    split
    · rename_i here
      simp [← here, absent]
    · rfl
  · rename_i bucket found
    dsimp only
    split
    · rename_i emptied
      rw [Table.get?_erase, equal_iff]
      by_cases here : fingerprint = other
      · subst here
        simpa [found] using emptied
      · simp [here]
    · rw [Table.get?_insert, equal_iff]
      by_cases here : fingerprint = other
      · subst here
        simp [found]
      · simp [here]

/-- No source is listed without a use. -/
def NoIdleSource (uses : Table String (List Use)) : Prop :=
  ∀ fingerprint, uses.get? fingerprint ≠ some []

theorem noIdleSource_dropUses {uses : Table String (List Use)} (busy : NoIdleSource uses)
    (fingerprint : String) (name : Name) : NoIdleSource (dropUses uses fingerprint name) := by
  intro other
  rw [dropUses]
  split
  · exact busy other
  · dsimp only
    split
    · rw [Table.get?_erase]
      split
      · simp
      · exact busy other
    · rename_i remaining
      rw [Table.get?_insert]
      split
      · simpa using remaining
      · exact busy other

theorem getD_addUse (uses : Table String (List Use)) (use : Use) (fingerprint : String) :
    ((addUse uses use).get? fingerprint).getD [] =
      (uses.get? fingerprint).getD [] ++
        [use].filter fun use => use.material.fingerprint = fingerprint := by
  rw [addUse, Table.get?_insert]
  by_cases here : use.material.fingerprint = fingerprint
  · simp [here]
  · have apart : (compare fingerprint use.material.fingerprint).isEq = false := by
      rw [Bool.eq_false_iff, ne_eq, Ordering.isEq_iff_eq_eq, Std.LawfulEqOrd.compare_eq_iff_eq]
      exact fun equal => here equal.symm
    simp [here, apart]

theorem noIdleSource_addUse {uses : Table String (List Use)} (busy : NoIdleSource uses)
    (use : Use) : NoIdleSource (addUse uses use) := by
  intro other
  rw [addUse, Table.get?_insert]
  split
  · simp
  · exact busy other

/-- Dropping the uses of a list of materials takes the pipeline out of the buckets of these
materials. -/
theorem getD_foldl_dropUses (materials : List Material) (uses : Table String (List Use))
    (fingerprint : String) (name : Name) :
    ((materials.foldl (fun uses material => dropUses uses material.fingerprint name) uses).get?
        fingerprint).getD [] =
      if ∃ material ∈ materials, material.fingerprint = fingerprint then
        ((uses.get? fingerprint).getD []).filter fun use => !use.pipeline.name.same name
      else (uses.get? fingerprint).getD [] := by
  induction materials generalizing uses with
  | nil => simp
  | cons material rest ih =>
    rw [List.foldl_cons, ih, getD_dropUses]
    by_cases here : material.fingerprint = fingerprint
    · simp [here, List.filter_filter]
    · simp [here]

/-- Adding uses one by one appends those of a source to its bucket. -/
theorem getD_foldl_addUse (added : List Use) (uses : Table String (List Use))
    (fingerprint : String) :
    ((added.foldl addUse uses).get? fingerprint).getD [] =
      (uses.get? fingerprint).getD [] ++
        added.filter fun use => use.material.fingerprint = fingerprint := by
  induction added generalizing uses with
  | nil => simp
  | cons use rest ih =>
    rw [List.foldl_cons, ih, getD_addUse, List.append_assoc, ← List.filter_append]
    rfl

theorem pipeline_of_mem_usesOf {pipeline : Pipeline} {use : Use} (member : use ∈ usesOf pipeline) :
    use.pipeline = pipeline := by
  obtain ⟨position, bound, rfl⟩ := List.mem_mapIdx.1 member
  rfl

/-- The materials whose uses an insertion takes away. -/
def staleMaterials (catalog : Catalog) (name : Name) : List Material :=
  ((catalog.pipeline? name).map fun pipeline => pipeline.materials.items).getD []

theorem usesAt_insert (catalog : Catalog) (pipeline : Pipeline) (group fingerprint : String) :
    (catalog.insert pipeline group).usesAt fingerprint =
      (if ∃ material ∈ catalog.staleMaterials pipeline.name,
          material.fingerprint = fingerprint then
        (catalog.usesAt fingerprint).filter fun use => !use.pipeline.name.same pipeline.name
      else catalog.usesAt fingerprint) ++
        (usesOf pipeline).filter fun use => use.material.fingerprint = fingerprint := by
  have stale : ((catalog.entries.get? pipeline.name).map
      fun entry => entry.pipeline.materials.items).getD [] =
        catalog.staleMaterials pipeline.name := by
    simp [staleMaterials, pipeline?, entry?, Option.map_map, Function.comp_def]
  simp only [usesAt, insert]
  rw [getD_foldl_addUse, getD_foldl_dropUses, stale]

/-- The uses of a source by other pipelines stay, in their order. -/
theorem filter_usesAt_insert (catalog : Catalog) (pipeline : Pipeline)
    (group fingerprint : String) :
    (((catalog.insert pipeline group).usesAt fingerprint).filter
        fun use => !use.pipeline.name.same pipeline.name) =
      (catalog.usesAt fingerprint).filter fun use => !use.pipeline.name.same pipeline.name := by
  have own : (((usesOf pipeline).filter fun use => use.material.fingerprint = fingerprint).filter
      fun use => !use.pipeline.name.same pipeline.name) = [] := by
    rw [List.filter_filter, List.filter_eq_nil_iff]
    intro use member
    simp [pipeline_of_mem_usesOf member]
  rw [usesAt_insert, List.filter_append, own, List.append_nil]
  split
  · simp [List.filter_filter]
  · rfl

theorem mem_usesAt_insert_iff (catalog : Catalog) (pipeline : Pipeline) (group : String)
    {fingerprint : String} {use : Use} (apart : use.pipeline.name.same pipeline.name = false) :
    use ∈ (catalog.insert pipeline group).usesAt fingerprint ↔ use ∈ catalog.usesAt fingerprint := by
  have kept := congrArg (use ∈ ·) (filter_usesAt_insert catalog pipeline group fingerprint)
  simpa [apart] using kept

theorem noIdleSource_insert {catalog : Catalog} (busy : NoIdleSource catalog.uses)
    (pipeline : Pipeline) (group : String) : NoIdleSource (catalog.insert pipeline group).uses := by
  have dropped (materials : List Material) {uses : Table String (List Use)}
      (busy : NoIdleSource uses) : NoIdleSource (materials.foldl
        (fun uses material => dropUses uses material.fingerprint pipeline.name) uses) := by
    induction materials generalizing uses with
    | nil => exact busy
    | cons material rest ih => exact ih (noIdleSource_dropUses busy _ _)
  have extended (added : List Use) {uses : Table String (List Use)} (busy : NoIdleSource uses) :
      NoIdleSource (added.foldl addUse uses) := by
    induction added generalizing uses with
    | nil => exact busy
    | cons use rest ih => exact ih (noIdleSource_addUse busy use)
  exact extended _ (dropped _ busy)

/-! ## Downstream pipelines -/

theorem getD_dropDownstream (downstreams : Table Name NameSet) (upstream other name : Name) :
    (((dropDownstream downstreams upstream name).get? other).getD ∅).toList =
      if other.same upstream then
        (((downstreams.get? other).getD ∅).toList).filter fun member => !member.same name
      else ((downstreams.get? other).getD ∅).toList := by
  have agree (same : other.same upstream = true) :
      downstreams.get? other = downstreams.get? upstream :=
    downstreams.get?_congr (Name.compare_eq_iff_same.2 same)
  rw [dropDownstream]
  split
  · rename_i absent
    split
    · rename_i here
      simp [agree here, absent]
    · rfl
  · rename_i names found
    dsimp only
    split
    · rename_i emptied
      rw [Table.get?_erase, ← Name.same_eq_isEq]
      by_cases here : other.same upstream = true
      · have kept : names.toList.filter (fun member => !member.same name) = [] := by
          rw [← NameSet.toList_erase, NameSet.toList, Table.keys, List.isEmpty_iff.1 emptied]
          rfl
        simp [here, agree here, found, kept]
      · simp [here]
    · rw [Table.get?_insert, ← Name.same_eq_isEq]
      by_cases here : other.same upstream = true
      · simp [here, agree here, found, NameSet.toList_erase]
      · simp [here]

theorem getD_addDownstream (downstreams : Table Name NameSet) (upstream other name : Name) :
    ((addDownstream downstreams upstream name).get? other).getD ∅ =
      if other.same upstream then ((downstreams.get? other).getD ∅).add name
      else (downstreams.get? other).getD ∅ := by
  rw [addDownstream, Table.get?_insert, ← Name.same_eq_isEq]
  split
  · rename_i here
    rw [downstreams.get?_congr (Name.compare_eq_iff_same.2 here)]
    rfl
  · rfl

/-- Whether one table of downstream pipelines answers as another does about all pipelines but
one. -/
def AgreeApart (name : Name) (before after : Table Name NameSet) : Prop :=
  ∀ upstream,
    (((after.get? upstream).getD ∅).toList.filter fun member => !member.same name) =
      ((before.get? upstream).getD ∅).toList.filter fun member => !member.same name

theorem agreeApart_dropDownstream (downstreams : Table Name NameSet) (upstream name : Name) :
    AgreeApart name downstreams (dropDownstream downstreams upstream name) := by
  intro other
  rw [getD_dropDownstream]
  split
  · simp [List.filter_filter]
  · rfl

theorem agreeApart_addDownstream (downstreams : Table Name NameSet) (upstream name : Name) :
    AgreeApart name downstreams (addDownstream downstreams upstream name) := by
  intro other
  rw [getD_addDownstream]
  split
  · exact NameSet.filter_toList_add _ _
  · rfl

theorem agreeApart_foldl {change : Table Name NameSet → Name → Table Name NameSet} {name : Name}
    (step : ∀ table upstream, AgreeApart name table (change table upstream))
    (upstreams : List Name) (table : Table Name NameSet) :
    AgreeApart name table (upstreams.foldl change table) := by
  induction upstreams generalizing table with
  | nil => exact fun _ => rfl
  | cons upstream rest ih =>
    intro other
    rw [List.foldl_cons, ih, step]

/-- The other pipelines downstream of a pipeline stay, in their order and spelling. -/
theorem filter_downstreamsOf_insert (catalog : Catalog) (pipeline : Pipeline) (group : String)
    (upstream : Name) :
    (((catalog.insert pipeline group).downstreamsOf upstream).toList.filter
        fun member => !member.same pipeline.name) =
      (catalog.downstreamsOf upstream).toList.filter
        fun member => !member.same pipeline.name := by
  simp only [downstreamsOf, insert]
  rw [agreeApart_foldl fun table up => agreeApart_addDownstream table up pipeline.name,
    agreeApart_foldl fun table up => agreeApart_dropDownstream table up pipeline.name]

theorem has_foldl_dropDownstream (former : List Name) (downstreams : Table Name NameSet)
    (upstream name : Name) :
    (((former.foldl (fun table other => dropDownstream table other name) downstreams).get?
        upstream).getD ∅).has name =
      (((downstreams.get? upstream).getD ∅).has name &&
        !former.any fun other => other.same upstream) := by
  induction former generalizing downstreams with
  | nil => simp
  | cons other rest ih =>
    rw [List.foldl_cons, ih, NameSet.has_eq_any, getD_dropDownstream, Name.same_comm]
    by_cases here : other.same upstream = true
    · simp [here, List.any_filter]
    · simp [here, NameSet.has_eq_any]

theorem has_foldl_addDownstream (added : List Name) (downstreams : Table Name NameSet)
    (upstream name : Name) :
    (((added.foldl (fun table other => addDownstream table other name) downstreams).get?
        upstream).getD ∅).has name =
      (((downstreams.get? upstream).getD ∅).has name ||
        added.any fun other => other.same upstream) := by
  induction added generalizing downstreams with
  | nil => simp
  | cons other rest ih =>
    rw [List.foldl_cons, ih, getD_addDownstream, Name.same_comm upstream]
    by_cases here : other.same upstream = true
    · simp [here, NameSet.has_add]
    · simp [here]

/-- The pipeline itself is downstream of what it now waits for, and of what it was downstream of
without being known to wait for it. -/
theorem has_downstreamsOf_insert_self (catalog : Catalog) (pipeline : Pipeline) (group : String)
    (upstream : Name) :
    ((catalog.insert pipeline group).downstreamsOf upstream).has pipeline.name =
      ((catalog.downstreamsOf upstream).has pipeline.name &&
        !(catalog.upstreamsOf pipeline.name).has upstream ||
          pipeline.upstreams.has upstream) := by
  simp only [downstreamsOf, insert]
  rw [has_foldl_addDownstream, has_foldl_dropDownstream, ← NameSet.has_eq_any,
    ← NameSet.has_eq_any]
  rfl

/-! ## Pipelines and their upstream pipelines -/

theorem entry?_insert (catalog : Catalog) (pipeline : Pipeline) (group : String) (name : Name) :
    entry? (catalog.insert pipeline group) name =
      if pipeline.name.same name then some ⟨group, pipeline⟩ else catalog.entry? name := by
  simp only [insert, entry?]
  rw [Table.get?_insert, ← Name.same_eq_isEq, Name.same_comm]

theorem pipeline?_insert (catalog : Catalog) (pipeline : Pipeline) (group : String)
    (name : Name) :
    (catalog.insert pipeline group).pipeline? name =
      if pipeline.name.same name then some pipeline else catalog.pipeline? name := by
  rw [pipeline?, entry?_insert]
  split <;> rfl

theorem upstreamsOf_insert (catalog : Catalog) (pipeline : Pipeline) (group : String)
    (name : Name) :
    (catalog.insert pipeline group).upstreamsOf name =
      if pipeline.name.same name then pipeline.upstreams else catalog.upstreamsOf name := by
  simp only [upstreamsOf, insert]
  rw [Table.get?_put, ← Name.same_eq_isEq, Name.same_comm]
  split <;> rfl

theorem contains_eq_isSome (catalog : Catalog) (name : Name) :
    catalog.contains name = (catalog.pipeline? name).isSome := by
  simp [contains, Table.contains, pipeline?, entry?]

theorem pipeline?_congr (catalog : Catalog) {left right : Name} (same : left.same right = true) :
    catalog.pipeline? left = catalog.pipeline? right := by
  rw [pipeline?, entry?, catalog.entries.get?_congr (Name.compare_eq_iff_same.2 same)]
  rfl

theorem upstreamsOf_congr (catalog : Catalog) {left right : Name}
    (same : left.same right = true) : catalog.upstreamsOf left = catalog.upstreamsOf right := by
  rw [upstreamsOf, catalog.upstreams.get?_congr (Name.compare_eq_iff_same.2 same)]
  rfl

theorem downstreamsOf_congr (catalog : Catalog) {left right : Name}
    (same : left.same right = true) :
    catalog.downstreamsOf left = catalog.downstreamsOf right := by
  rw [downstreamsOf, catalog.downstreams.get?_congr (Name.compare_eq_iff_same.2 same)]
  rfl

end Catalog

end PipelineConfig
