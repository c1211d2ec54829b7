import Mathlib.Data.List.Nodup
import PipelineConfig.Command.Output
import PipelineConfig.Proofs.Committed
import PipelineConfig.Proofs.Declarations
import PipelineConfig.Proofs.LastingWrites
import PipelineConfig.Proofs.Sorting

/-!
# The listing of materials

The listing follows from what the committed pipelines declare, that is, from the last declaration
of each name. It has a section for each source that enough of them declare, and a section names
just these pipelines. Fingerprints tell the sections apart, so they stand in one order, whatever
order the sources are met in.
-/

namespace PipelineConfig

namespace Configuration

/-- The pipeline is the last declaration of its name. -/
def Commits (config : Configuration) (pipeline : Pipeline) : Prop :=
  ∃ group, lastWrite? config.writes pipeline.name = some ⟨group, pipeline⟩

/-- A committed pipeline declares a material of this fingerprint. -/
def Uses (config : Configuration) (pipeline : Pipeline) (fingerprint : String) : Prop :=
  config.Commits pipeline ∧
    ∃ material ∈ pipeline.materials.items, material.fingerprint = fingerprint

/-- What is listed: every source that a committed pipeline uses, or every one that two committed
pipelines of different names use. -/
def Lists (config : Configuration) (fingerprint : String) : (shared : Bool) → Prop
  | false => ∃ pipeline, config.Uses pipeline fingerprint
  | true => ∃ first second, config.Uses first fingerprint ∧ config.Uses second fingerprint ∧
    first.name.same second.name = false

/-- The materials of the committed pipelines, in the order in which these were declared last. -/
def committedMaterials (config : Configuration) : List Material :=
  (lastingWrites config.writes).flatMap fun entry => entry.pipeline.materials.items

section Committed

variable {config : Configuration}

theorem commits_iff {pipeline : Pipeline} :
    config.Commits pipeline ↔
      (Catalog.ofConfiguration config).pipeline? pipeline.name = some pipeline := by
  rw [Catalog.pipeline?_eq_some_iff, (Catalog.mirrors_ofConfiguration config).entry, Commits]

/-- Of the pipelines that go by one name, one is committed. -/
theorem Commits.eq_of_same {left right : Pipeline} (left_commits : config.Commits left)
    (right_commits : config.Commits right) (same : left.name.same right.name = true) :
    left = right := by
  obtain ⟨_, left_last⟩ := left_commits
  obtain ⟨_, right_last⟩ := right_commits
  rw [lastWrite?_congr _ same, right_last] at left_last
  exact (congrArg Entry.pipeline (Option.some.inj left_last)).symm

/-- The uses of a source in the catalog are the places where committed pipelines declare it. -/
theorem uses_iff {pipeline : Pipeline} {fingerprint : String} :
    config.Uses pipeline fingerprint ↔
      ∃ use ∈ (Catalog.ofConfiguration config).usesAt fingerprint, use.pipeline = pipeline := by
  have consistent := (Catalog.mirrors_ofConfiguration config).consistent
  constructor
  · rintro ⟨commits, material, declared, rfl⟩
    obtain ⟨use, used, owner, -⟩ := consistent.use_of_mem (commits_iff.1 commits) declared
    exact ⟨use, used, owner⟩
  · rintro ⟨use, used, rfl⟩
    obtain ⟨found, declared, source⟩ := consistent.of_mem_usesAt used
    exact ⟨commits_iff.2 found, use.material, declared, source⟩

theorem mem_committedMaterials_iff {material : Material} :
    material ∈ config.committedMaterials ↔
      ∃ pipeline, config.Commits pipeline ∧ material ∈ pipeline.materials.items := by
  simp only [committedMaterials, List.mem_flatMap, mem_lastingWrites_iff, Commits]
  constructor
  · rintro ⟨⟨group, pipeline⟩, last, declared⟩
    exact ⟨pipeline, ⟨group, last⟩, declared⟩
  · rintro ⟨pipeline, ⟨group, last⟩, declared⟩
    exact ⟨⟨group, pipeline⟩, last, declared⟩

/-- The material that describes a source is the first committed one. -/
theorem map_material_head?_usesAt (fingerprint : String) :
    ((Catalog.ofConfiguration config).usesAt fingerprint).head?.map Use.material =
      config.committedMaterials.find? fun material => material.fingerprint = fingerprint := by
  rw [← List.head?_map, (Catalog.written_ofConfiguration config).map_material_usesAt,
    List.head?_filter, committedMaterials]

end Committed

end Configuration

namespace Text

/-- Lines as text, each ended by a line break. -/
def ofLines (lines : List String) : String := String.join (lines.map fun line => line ++ "\n")

theorem ofLines_flatMap {α : Type} (write : α → List String) (members : List α) :
    ofLines (members.flatMap write) =
      String.join (members.map fun member => ofLines (write member)) := by
  induction members with
  | nil => rfl
  | cons member members ih =>
    rw [List.flatMap_cons, List.map_cons, String.join_cons, ← ih, ofLines, List.map_append,
      String.join_append]
    rfl

end Text

namespace InventoryItem

instance : Std.TransCmp order :=
  inferInstanceAs (Std.TransCmp (compareLex (compareOn InventoryItem.description)
    (compareOn InventoryItem.fingerprint)))

theorem order_eq_lt_iff {left right : InventoryItem} :
    order left right = .lt ↔ left.description < right.description ∨
      left.description = right.description ∧ left.fingerprint < right.fingerprint := by
  rw [order, Ordering.then_eq_lt, Std.LawfulEqOrd.compare_eq_iff_eq]
  exact or_congr compareOfLessAndEq_eq_lt (and_congr_right fun _ => compareOfLessAndEq_eq_lt)

theorem fingerprint_eq_of_order {left right : InventoryItem} (equal : order left right = .eq) :
    left.fingerprint = right.fingerprint := by
  rw [order, Ordering.then_eq_eq] at equal
  exact Std.LawfulEqOrd.eq_of_compare equal.2

/-- The items to be listed, when the sources are met in the order of the entries. -/
def listed (shared : Bool) (entries : List (String × List Use)) : List InventoryItem :=
  ((entries.filterMap fun entry => ofUses? entry.1 entry.2).filter
    fun item => !shared || item.isShared).mergeSort fun left right => (order left right).isLE

/-- An item tells how a source is described, and all pipelines that use it. -/
structure Tells (config : Configuration) (item : InventoryItem) : Prop where
  /-- The description is that of the first committed material of the source. -/
  description : (config.committedMaterials.find? fun material =>
    material.fingerprint = item.fingerprint).map Material.describe = some item.description
  /-- The names are those of the committed pipelines that use the source. -/
  pipelines : ∀ text, text ∈ item.pipelines ↔
    ∃ pipeline, config.Uses pipeline item.fingerprint ∧ pipeline.name.text = text
  /-- Each name stands before all greater ones. -/
  sorted : item.pipelines.Pairwise fun left right => left < right

section Items

variable {config : Configuration} {item : InventoryItem}

theorem fingerprint_of_ofUses? {fingerprint : String} {uses : List Use}
    (found : ofUses? fingerprint uses = some item) : item.fingerprint = fingerprint := by
  obtain ⟨_, -, rfl⟩ := Option.map_eq_some_iff.1 found
  rfl

/-- The item of a source is made from its uses. -/
theorem tells_of_ofUses? {fingerprint : String}
    (found : ofUses? fingerprint ((Catalog.ofConfiguration config).usesAt fingerprint) =
      some item) : item.Tells config := by
  obtain ⟨first, leads, rfl⟩ := Option.map_eq_some_iff.1 found
  refine ⟨?description, fun text => ?pipelines, Text.pairwise_sortedDistinct _⟩
  case description =>
    rw [← Configuration.map_material_head?_usesAt, leads]
    rfl
  case pipelines =>
    rw [Text.mem_sortedDistinct, List.mem_map]
    constructor
    · rintro ⟨use, used, rfl⟩
      exact ⟨use.pipeline, Configuration.uses_iff.2 ⟨use, used, rfl⟩, rfl⟩
    · rintro ⟨pipeline, uses, rfl⟩
      obtain ⟨use, used, rfl⟩ := Configuration.uses_iff.1 uses
      exact ⟨use, used, rfl⟩

theorem exists_ofUses?_iff {fingerprint : String} :
    (∃ item, ofUses? fingerprint ((Catalog.ofConfiguration config).usesAt fingerprint) =
      some item) ↔ ∃ pipeline, config.Uses pipeline fingerprint := by
  rw [← Option.isSome_iff_exists, ofUses?, Option.isSome_map, ← Option.isSome_map,
    Configuration.map_material_head?_usesAt, List.find?_isSome]
  simp only [Configuration.mem_committedMaterials_iff, decide_eq_true_eq]
  constructor
  · rintro ⟨material, ⟨pipeline, commits, declared⟩, source⟩
    exact ⟨pipeline, commits, material, declared, source⟩
  · rintro ⟨pipeline, commits, material, declared, source⟩
    exact ⟨material, ⟨pipeline, commits, declared⟩, source⟩

/-- Committed pipelines of different names are told by different texts. -/
theorem Tells.isShared_iff (tells : item.Tells config) :
    item.isShared = true ↔ config.Lists item.fingerprint true := by
  rw [isShared, decide_eq_true_iff, Text.one_lt_length_iff tells.sorted]
  constructor
  · rintro ⟨_, left_named, _, right_named, apart⟩
    obtain ⟨first, first_uses, rfl⟩ := (tells.pipelines _).1 left_named
    obtain ⟨second, second_uses, rfl⟩ := (tells.pipelines _).1 right_named
    refine ⟨first, second, first_uses, second_uses, Bool.eq_false_iff.2 fun same => apart ?_⟩
    rw [first_uses.1.eq_of_same second_uses.1 same]
  · rintro ⟨first, second, first_uses, second_uses, apart⟩
    refine ⟨_, (tells.pipelines _).2 ⟨first, first_uses, rfl⟩, _,
      (tells.pipelines _).2 ⟨second, second_uses, rfl⟩, fun equal => ?_⟩
    have same : first.name = second.name := congrArg Name.mk equal
    rw [same, Name.same_self] at apart
    exact Bool.false_ne_true apart.symm

/-- A source is listed if it has an item, which is shared if only shared items are asked for. -/
theorem lists_iff {fingerprint : String} {shared : Bool} :
    config.Lists fingerprint shared ↔
      ∃ item, ofUses? fingerprint ((Catalog.ofConfiguration config).usesAt fingerprint) =
        some item ∧ (!shared || item.isShared) = true := by
  have item_told {item : InventoryItem} (found : ofUses? fingerprint
      ((Catalog.ofConfiguration config).usesAt fingerprint) = some item) :
      item.isShared = true ↔ config.Lists fingerprint true := by
    rw [(tells_of_ofUses? found).isShared_iff, fingerprint_of_ofUses? found]
  cases shared with
  | false =>
    simp only [Bool.not_false, Bool.true_or, and_true]
    exact exists_ofUses?_iff.symm
  | true =>
    constructor
    · rintro ⟨first, second, uses, others⟩
      obtain ⟨item, found⟩ := exists_ofUses?_iff.2 ⟨first, uses⟩
      exact ⟨item, found, (item_told found).2 ⟨first, second, uses, others⟩⟩
    · rintro ⟨item, found, wanted⟩
      exact (item_told found).1 wanted

end Items

/-! ## Sections in order -/

/-- A table lists each source with all its uses. -/
theorem mem_uses_entries_iff {config : Configuration} {entry : String × List Use} :
    entry ∈ (Catalog.ofConfiguration config).uses.entries ↔
      entry.2 = (Catalog.ofConfiguration config).usesAt entry.1 ∧ entry.2 ≠ [] := by
  have mirrors := Catalog.mirrors_ofConfiguration config
  rw [Table.mem_entries_iff, Catalog.usesAt]
  constructor
  · intro found
    refine ⟨by rw [found]; rfl, fun idle => ?_⟩
    exact mirrors.busy entry.1 (idle ▸ found)
  · rintro ⟨uses, busy⟩
    cases found : (Catalog.ofConfiguration config).uses.get? entry.1 with
    | none =>
      rw [found] at uses
      exact absurd uses busy
    | some bucket =>
      rw [found] at uses
      rw [uses]
      rfl

section Listed

variable {config : Configuration} {shared : Bool} {entries : List (String × List Use)}
  (met : entries.Perm (Catalog.ofConfiguration config).uses.entries)

include met

theorem mem_listed_iff {item : InventoryItem} :
    item ∈ listed shared entries ↔
      ofUses? item.fingerprint ((Catalog.ofConfiguration config).usesAt item.fingerprint) =
        some item ∧ (!shared || item.isShared) = true := by
  rw [listed, (List.mergeSort_perm _ _).mem_iff, List.mem_filter, List.mem_filterMap]
  refine and_congr_left fun _ => ?_
  constructor
  · rintro ⟨entry, member, found⟩
    obtain ⟨uses, -⟩ := mem_uses_entries_iff.1 (met.mem_iff.1 member)
    rwa [fingerprint_of_ofUses? found, ← uses]
  · intro found
    obtain ⟨first, leads, -⟩ := Option.map_eq_some_iff.1 found
    exact ⟨(item.fingerprint, _), met.mem_iff.2 (mem_uses_entries_iff.2
      ⟨rfl, List.ne_nil_of_mem (List.mem_of_mem_head? leads)⟩), found⟩

/-- No two sections are about one source. -/
theorem nodup_fingerprint_filterMap :
    ((entries.filterMap fun entry => ofUses? entry.1 entry.2).map
      InventoryItem.fingerprint).Nodup := by
  have keys : (entries.map Prod.fst).Nodup :=
    (met.map Prod.fst).nodup_iff.2 (Table.nodup_keys _)
  rw [List.Nodup, List.pairwise_map, List.pairwise_filterMap]
  refine (List.pairwise_map.1 keys).imp fun apart left left_found right right_found => ?_
  rwa [fingerprint_of_ofUses? left_found, fingerprint_of_ofUses? right_found]

theorem nodup_fingerprint_listed :
    ((listed shared entries).map InventoryItem.fingerprint).Nodup :=
  ((List.mergeSort_perm _ _).map _).nodup_iff.2
    ((List.filter_sublist.map _).nodup (nodup_fingerprint_filterMap met))

/-- Sections that follow each other differ in their fingerprints, if not in their descriptions. -/
theorem pairwise_listed :
    (listed shared entries).Pairwise fun left right => order left right = .lt := by
  have apart : (listed shared entries).Pairwise
      fun left right => left.fingerprint ≠ right.fingerprint :=
    List.pairwise_map.1 (nodup_fingerprint_listed met)
  have sorted : (listed shared entries).Pairwise
      fun left right => (order left right).isLE = true :=
    pairwise_isLE_mergeSort order _
  refine (sorted.and apart).imp fun {left right} ⟨ordered, differ⟩ => ?_
  cases compared : order left right with
  | lt => rfl
  | eq => exact absurd (fingerprint_eq_of_order compared) differ
  | gt => simp [compared] at ordered

/-- Sections in order are in this order only. -/
theorem eq_listed {items : List InventoryItem} (rearranged : (listed shared entries).Perm items)
    (sorted : items.Pairwise fun left right => (order left right).isLE = true) :
    items = listed shared entries := by
  refine (eq_of_perm_of_pairwise rearranged (fun left listed right listed' equal => ?_)
    (pairwise_isLE_mergeSort order _) sorted).symm
  exact List.inj_on_of_nodup_map (nodup_fingerprint_listed met) listed listed'
    (fingerprint_eq_of_order equal)

/-- The listing does not depend on the order in which the sources are met. -/
theorem listed_eq_of_perm :
    listed shared entries = listed shared (Catalog.ofConfiguration config).uses.entries := by
  refine eq_listed (.refl _) ?_ (pairwise_isLE_mergeSort order _)
  refine (List.mergeSort_perm _ _).trans (.trans ?_ (List.mergeSort_perm _ _).symm)
  exact (met.symm.filterMap _).filter _

/-- There is a section for each source that is to be listed. -/
theorem exists_mem_listed_iff {fingerprint : String} :
    (∃ item ∈ listed shared entries, item.fingerprint = fingerprint) ↔
      config.Lists fingerprint shared := by
  simp only [mem_listed_iff met, lists_iff]
  constructor
  · rintro ⟨item, told, rfl⟩
    exact ⟨item, told⟩
  · rintro ⟨item, found, wanted⟩
    obtain rfl := fingerprint_of_ofUses? found
    exact ⟨item, ⟨found, wanted⟩, rfl⟩

end Listed

/-- It makes no difference whether the sources that are not shared are left out before or after
sorting. -/
theorem filter_inventory (config : Configuration) (shared : Bool) :
    ((Catalog.ofConfiguration config).inventory.filter fun item => !shared || item.isShared) =
      listed shared (Catalog.ofConfiguration config).uses.entries := by
  refine eq_listed (.refl _) ?_ ((pairwise_isLE_mergeSort order _).filter _)
  exact (List.mergeSort_perm _ _).trans ((List.mergeSort_perm _ _).symm.filter _)

/-! ## Lines -/

/-- The lines of a section. The fingerprint is shown on demand. -/
def sectionLines (verbose : Bool) (item : InventoryItem) : List String :=
  "" :: (item.description ++ ":") :: (if verbose then ["  " ++ item.fingerprint] else []) ++
    item.pipelines.map fun name => "  • " ++ name

/-- The lines of a listing. -/
def listingLines (verbose : Bool) : List InventoryItem → List String
  | [] => ["No materials found."]
  | items => items.flatMap (sectionLines verbose)

theorem ofLines_sectionLines (verbose : Bool) (item : InventoryItem) :
    Text.ofLines (sectionLines verbose item) = item.lines verbose := by
  cases verbose <;>
    simp [lines, sectionLines, Text.ofLines, toString, Function.comp_def, String.append_assoc]

/-- The listing is printed line by line. -/
theorem ofLines_listingLines (verbose : Bool) (items : List InventoryItem) :
    Text.ofLines (listingLines verbose items) = report items verbose := by
  cases items with
  | nil => rfl
  | cons item items =>
    rw [listingLines, Text.ofLines_flatMap]
    · simp only [ofLines_sectionLines]
      rfl
    · simp

end InventoryItem

/-- The listing has the lines of one section for each source that it is to list, and a section
names, each once and in order, just the committed pipelines that use the source. Sections are
ordered by description, then by fingerprint, and the text is the same in whatever order the sources
are met. -/
theorem Configuration.materials_told [Pattern.Engine] (config : Configuration)
    (shared verbose : Bool) :
    ∃ items : List InventoryItem,
      (Command.materials shared).run verbose config =
        { text := Text.ofLines (InventoryItem.listingLines verbose items) } ∧
      (∀ fingerprint, (∃ item ∈ items, item.fingerprint = fingerprint) ↔
        config.Lists fingerprint shared) ∧
      (items.map InventoryItem.fingerprint).Nodup ∧
      (∀ item ∈ items, item.Tells config) ∧
      (items.Pairwise fun left right => left.description < right.description ∨
        left.description = right.description ∧ left.fingerprint < right.fingerprint) ∧
      ∀ entries, entries.Perm (Catalog.ofConfiguration config).uses.entries →
        InventoryItem.report (InventoryItem.listed shared entries) verbose =
          ((Command.materials shared).run verbose config).text := by
  let items := InventoryItem.listed shared (Catalog.ofConfiguration config).uses.entries
  have run : (Command.materials shared).run verbose config =
      { text := InventoryItem.report items verbose } :=
    congrArg (fun items => Output.mk (InventoryItem.report items verbose) none)
      (InventoryItem.filter_inventory config shared)
  refine ⟨items, ?text, fun _ => InventoryItem.exists_mem_listed_iff (.refl _),
    InventoryItem.nodup_fingerprint_listed (.refl _), fun item member => ?tells, ?sorted,
    fun entries met => ?met⟩
  case text => rw [run, InventoryItem.ofLines_listingLines]
  case tells =>
    exact InventoryItem.tells_of_ofUses? ((InventoryItem.mem_listed_iff (.refl _)).1 member).1
  case sorted =>
    exact (InventoryItem.pairwise_listed (.refl _)).imp InventoryItem.order_eq_lt_iff.1
  case met => rw [run, InventoryItem.listed_eq_of_perm met]

/-- The main branch of a repository, with nothing else declared. -/
def mainBranch (url : String) : Material := ⟨.git url "main", none, none, true, .none⟩

/-- A pipeline that polls the main branches of some repositories. -/
def pollingAll (name : String) (urls : List String) : Pipeline :=
  { name := ⟨name⟩, materials.items := urls.map mainBranch }

/-- The first declaration of a name is shadowed, and with it the use of a repository that another
pipeline declares twice. -/
def shadowedPolling : Configuration :=
  { groups :=
      [⟨"first", [pollingAll "build" ["https://host/a"],
        pollingAll "deploy" ["https://host/a", "https://host/a", "https://host/b"]]⟩,
        ⟨"second", [pollingAll "Build" ["https://host/b"]]⟩] }

theorem materials_shadowedPolling :
    let entries := (Catalog.ofConfiguration shadowedPolling).uses.entries
    let left := (mainBranch "https://host/a").fingerprint
    let right := (mainBranch "https://host/b").fingerprint
    entries.reverse.Perm entries ∧ entries.reverse ≠ entries ∧
      InventoryItem.report (InventoryItem.listed true entries.reverse) false =
        ((Command.materials true).run false shadowedPolling).text ∧
      ∃ items, (Command.materials true).run false shadowedPolling =
          { text := Text.ofLines (InventoryItem.listingLines false items) } ∧
        (∃ item ∈ items, item.fingerprint = right) ∧ ¬∃ item ∈ items, item.fingerprint = left := by
  intro entries left right
  obtain ⟨items, run, sections, -, -, -, told⟩ :=
    Configuration.materials_told shadowedPolling true false
  have reversed : entries.reverse.Perm entries := List.reverse_perm entries
  have shared (fingerprint : String) : shadowedPolling.Lists fingerprint true ↔
      ((InventoryItem.ofUses? fingerprint ((Catalog.ofConfiguration shadowedPolling).usesAt
        fingerprint)).any InventoryItem.isShared) = true := by
    rw [InventoryItem.lists_iff, Option.any_eq_true]
    rfl
  have checked : entries.reverse ≠ entries ∧
      ((InventoryItem.ofUses? right ((Catalog.ofConfiguration shadowedPolling).usesAt
        right)).any InventoryItem.isShared) = true ∧
      ¬((InventoryItem.ofUses? left ((Catalog.ofConfiguration shadowedPolling).usesAt
        left)).any InventoryItem.isShared) = true := by
    decide +kernel
  refine ⟨reversed, checked.1, told _ reversed, items, run, ?_, ?_⟩
  · rw [sections, shared]
    exact checked.2.1
  · rw [sections, shared]
    exact checked.2.2

end PipelineConfig
