import PipelineConfig.Catalog.Downstream
import PipelineConfig.Text.Sorted

/-!
# Looking up in tables and name sets

Look-ups see keys up to what the order calls equal, entry lists see them in one spelling. The
lemmas of this module tie the two views together: what an entry list holds is what look-ups find,
and a change at one key leaves the entries of all other keys in place.
-/

namespace PipelineConfig

namespace Name

theorem same_eq_isEq (left right : Name) : left.same right = (compare left right).isEq := by
  rw [Bool.eq_iff_iff, ← compare_eq_iff_same, Ordering.isEq_iff_eq_eq]

theorem same_symm {left right : Name} (same : left.same right = true) :
    right.same left = true := by
  rwa [same_comm]

theorem same_congr_left {left right : Name} (other : Name) (same : left.same right = true) :
    left.same other = right.same other := by
  rw [Bool.eq_iff_iff, same_iff, same_iff, same_iff.1 same]

theorem same_congr_right {left right : Name} (other : Name) (same : left.same right = true) :
    other.same left = other.same right := by
  rw [same_comm other, same_comm other, same_congr_left other same]

/-- Whoever goes by one name does not go by another. -/
theorem same_and_not_same {name other : Name} (apart : ¬other.same name = true) (member : Name) :
    (member.same name && !member.same other) = member.same name := by
  cases here : member.same name with
  | false => rfl
  | true =>
    rw [same_congr_left other here, same_comm]
    simpa using apart

end Name

namespace Table

universe u v

variable {κ : Type u} {α : Type v} [Ord κ]

theorem contains_eq_any (table : Table κ α) (key : κ) :
    table.contains key = table.keys.any fun other => (compare key other).isEq := by
  simp only [contains, get?, keys, Option.isSome_map, List.any_map, Function.comp_def]
  rw [Bool.eq_iff_iff, List.find?_isSome, List.any_eq_true]

/-- Where equal keys are the same, the keys are what look-ups find. -/
theorem mem_keys_iff_contains [Std.LawfulEqOrd κ] {table : Table κ α} {key : κ} :
    key ∈ table.keys ↔ table.contains key = true := by
  rw [contains_eq_any, List.any_eq_true]
  constructor
  · exact fun member => ⟨key, member, by simp⟩
  · rintro ⟨other, member, equal⟩
    obtain rfl : key = other := by simpa using equal
    exact member

theorem pairwise_keys (table : Table κ α) :
    table.keys.Pairwise fun left right => compare left right = .lt :=
  List.pairwise_map.2 table.ordered

variable [Std.TransOrd κ]

theorem get?_congr (table : Table κ α) {left right : κ} (equal : compare left right = .eq) :
    table.get? left = table.get? right := by
  simp only [get?]
  congr 2
  funext entry
  rw [Std.TransCmp.congr_left equal]

theorem find?_of_mem_ordered {entries : List (κ × α)} {entry : κ × α}
    (ordered : entries.Pairwise fun left right => compare left.1 right.1 = .lt)
    (member : entry ∈ entries) :
    (entries.find? fun other => (compare entry.1 other.1).isEq) = some entry := by
  induction ordered with
  | nil => simp at member
  | @cons head rest before _ ih =>
    obtain rfl | later := List.mem_cons.1 member
    · simp
    · have apart : (compare entry.1 head.1).isEq = false := by
        rw [Std.OrientedCmp.gt_of_lt (before entry later)]
        rfl
      rw [List.find?_cons, apart]
      exact ih later

theorem get?_of_mem {table : Table κ α} {entry : κ × α} (member : entry ∈ table.entries) :
    table.get? entry.1 = some entry.2 := by
  rw [get?, find?_of_mem_ordered table.ordered member]
  rfl

/-- A look-up finds a value just when an entry with an equal key holds it. -/
theorem get?_eq_some_iff {table : Table κ α} {key : κ} {value : α} :
    table.get? key = some value ↔
      ∃ entry ∈ table.entries, compare key entry.1 = .eq ∧ entry.2 = value := by
  constructor
  · intro found
    rw [get?, Option.map_eq_some_iff] at found
    obtain ⟨entry, found, rfl⟩ := found
    have equal : compare key entry.1 = .eq := by simpa using List.find?_some found
    exact ⟨entry, List.mem_of_find?_eq_some found, equal, rfl⟩
  · rintro ⟨entry, member, equal, rfl⟩
    rw [table.get?_congr equal, get?_of_mem member]

/-- Where equal keys are the same, the entries are what look-ups find. -/
theorem mem_entries_iff [Std.LawfulEqOrd κ] {table : Table κ α} {entry : κ × α} :
    entry ∈ table.entries ↔ table.get? entry.1 = some entry.2 := by
  constructor
  · exact get?_of_mem
  · intro found
    obtain ⟨⟨key, value⟩, member, equal, held⟩ := get?_eq_some_iff.1 found
    obtain rfl : entry.1 = key := Std.LawfulEqOrd.eq_of_compare equal
    obtain rfl : value = entry.2 := held
    exact member

theorem mem_values_iff {table : Table κ α} {value : α} :
    value ∈ table.values ↔ ∃ key, table.get? key = some value := by
  rw [values, List.mem_map]
  constructor
  · rintro ⟨entry, member, rfl⟩
    exact ⟨entry.1, get?_of_mem member⟩
  · rintro ⟨key, found⟩
    obtain ⟨entry, member, _, equal⟩ := get?_eq_some_iff.1 found
    exact ⟨entry, member, equal⟩

theorem nodup_keys (table : Table κ α) : table.keys.Nodup := by
  refine table.pairwise_keys.imp fun before equal => ?_
  subst equal
  simp at before

theorem get?_put (table : Table κ α) (key other : κ) (value : α) :
    (table.put key value).get? other =
      if (compare other key).isEq then some value else table.get? other := by
  rw [put, get?_insert, get?_erase]
  split <;> rfl

theorem find?_eq_none_of_lt {head : κ × α} {rest : List (κ × α)} {key : κ}
    (ordered : ∀ entry ∈ rest, compare head.1 entry.1 = .lt) (order : compare key head.1 = .lt) :
    ((head :: rest).find? fun entry => (compare key entry.1).isEq) = none := by
  rw [List.find?_eq_none]
  intro entry member
  obtain rfl | later := List.mem_cons.1 member
  · simp [order]
  · simp [Std.TransCmp.lt_trans order (ordered entry later)]

theorem length_insertEntry {entries : List (κ × α)}
    (ordered : entries.Pairwise fun left right => compare left.1 right.1 = .lt)
    (key : κ) (value : α) :
    (insertEntry key value entries).length =
      if (entries.find? fun entry => (compare key entry.1).isEq).isSome then entries.length
      else entries.length + 1 := by
  induction ordered with
  | nil => rfl
  | @cons head rest before _ ih =>
    rw [insertEntry]
    cases order : compare key head.1 with
    | lt => simp [find?_eq_none_of_lt before order]
    | eq => simp [order]
    | gt =>
      rw [List.length_cons, ih, List.find?_cons_of_neg (by simp [order])]
      split <;> rfl

/-- A table grows by the keys that it does not have yet. -/
theorem size_insert (table : Table κ α) (key : κ) (value : α) :
    (table.insert key value).size =
      if table.contains key then table.size else table.size + 1 := by
  rw [contains, get?, Option.isSome_map]
  exact length_insertEntry table.ordered key value

/-- Writing at a key leaves the entries of other keys as they are. -/
theorem filter_insertEntry (key : κ) (value : α) (entries : List (κ × α)) :
    ((insertEntry key value entries).filter fun entry => !(compare key entry.1).isEq) =
      entries.filter fun entry => !(compare key entry.1).isEq := by
  induction entries with
  | nil => simp [insertEntry]
  | cons head rest ih =>
    rw [insertEntry]
    cases order : compare key head.1 with
    | lt => simp [order]
    | eq => simp [order]
    | gt => simp [order, ih]

end Table

namespace NameSet

@[simp]
theorem has_empty (name : Name) : has ∅ name = false := rfl

@[simp]
theorem toList_empty : toList ∅ = [] := rfl

theorem has_eq_any (names : NameSet) (name : Name) :
    names.has name = names.toList.any fun member => member.same name := by
  rw [has, Table.contains_eq_any, toList]
  congr 1
  funext member
  rw [Name.same_comm, Name.same_eq_isEq]

theorem has_iff {names : NameSet} {name : Name} :
    names.has name = true ↔ ∃ member ∈ names.toList, member.same name = true := by
  rw [has_eq_any, List.any_eq_true]

theorem has_of_mem {names : NameSet} {name : Name} (member : name ∈ names.toList) :
    names.has name = true :=
  has_iff.2 ⟨name, member, Name.same_self name⟩

theorem has_put (names : NameSet) (name other : Name) :
    NameSet.has (names.put name ()) other = (other.same name || names.has other) := by
  rw [has, Table.contains, Table.get?_put, Name.same_eq_isEq]
  split <;> simp_all [has, Table.contains]

theorem has_foldl_put (names : List Name) (members : NameSet) (name : Name) :
    NameSet.has (names.foldl (fun members name => members.put name ()) members) name =
      (members.has name || names.any fun other => other.same name) := by
  induction names generalizing members with
  | nil => simp
  | cons head rest ih =>
    rw [List.foldl_cons, ih, has_put, List.any_cons, Name.same_comm]
    cases head.same name <;> simp

/-- The members of a set of listed names are the listed names, in any spelling. -/
theorem has_ofList (names : List Name) (name : Name) :
    (ofList names).has name = names.any fun other => other.same name := by
  rw [ofList, has_foldl_put, has_empty, Bool.false_or]

theorem filter_keys_eq (entries : List (Name × Unit)) (name : Name) :
    ((entries.map Prod.fst).filter fun member => !member.same name) =
      (entries.filter fun entry => !(compare name entry.1).isEq).map Prod.fst := by
  rw [List.filter_map]
  congr 2
  funext entry
  rw [Function.comp, Name.same_comm, Name.same_eq_isEq]

theorem toList_erase (names : NameSet) (name : Name) :
    toList (names.erase name) = names.toList.filter fun member => !member.same name :=
  (filter_keys_eq names.entries name).symm

/-- Adding a name leaves the other members as they are. -/
theorem filter_toList_add (names : NameSet) (name : Name) :
    ((names.add name).toList.filter fun member => !member.same name) =
      names.toList.filter fun member => !member.same name := by
  simp only [toList, Table.keys, add, Table.insert, filter_keys_eq]
  rw [Table.filter_insertEntry]

end NameSet

namespace Text

theorem contains_foldl_insert (texts : List String) (table : Table String Unit) (text : String) :
    (texts.foldl (fun table text => table.insert text ()) table).contains text = true ↔
      table.contains text = true ∨ text ∈ texts := by
  induction texts generalizing table with
  | nil => simp
  | cons head rest ih =>
    have step : (table.insert head ()).contains text = true ↔
        text = head ∨ table.contains text = true := by
      rw [Table.contains, Table.get?_insert, Table.contains]
      by_cases equal : text = head
      · simp [equal]
      · have apart : (compare text head).isEq = false := by
          rw [Bool.eq_false_iff, ne_eq, Ordering.isEq_iff_eq_eq,
            Std.LawfulEqOrd.compare_eq_iff_eq]
          exact equal
        simp [equal, apart]
    rw [List.foldl_cons, ih, step, List.mem_cons, or_assoc, or_left_comm]

theorem mem_sortedDistinct {texts : List String} {text : String} :
    text ∈ sortedDistinct texts ↔ text ∈ texts := by
  rw [sortedDistinct, Table.mem_keys_iff_contains, contains_foldl_insert]
  simp [Table.contains]

theorem nodup_sortedDistinct (texts : List String) : (sortedDistinct texts).Nodup :=
  Table.nodup_keys _

theorem pairwise_sortedDistinct (texts : List String) :
    (sortedDistinct texts).Pairwise fun left right => left < right :=
  (Table.pairwise_keys _).imp compareOfLessAndEq_eq_lt.1

/-- Of texts in order, there is more than one just when two of them differ. -/
theorem one_lt_length_iff {texts : List String}
    (sorted : texts.Pairwise fun left right => left < right) :
    1 < texts.length ↔ ∃ left ∈ texts, ∃ right ∈ texts, left ≠ right := by
  match texts with
  | [] => simp
  | [only] => simp
  | first :: second :: rest =>
    have before : first < second := List.rel_of_pairwise_cons sorted List.mem_cons_self
    refine iff_of_true (by simp) ⟨first, .head _, second, .tail _ (.head _), ?_⟩
    rintro rfl
    exact String.lt_irrefl first before

end Text

end PipelineConfig
