/-!
# Ordered tables

A table keeps one value per key and lists its entries in the order of the keys. A key that is
written again keeps the form in which it came first; keys that compare as equal are one key.
Main statements: `get?_insert` and `get?_erase` say what a look-up finds after each change.
-/

namespace PipelineConfig

universe u v

/-- Entries in strictly increasing order of their keys. -/
structure Table (κ : Type u) (α : Type v) [Ord κ] where
  /-- The entries, least key first. -/
  entries : List (κ × α)
  /-- Each key stands before all later ones. -/
  ordered : entries.Pairwise fun left right => compare left.1 right.1 = .lt
deriving DecidableEq, Repr

namespace Table

variable {κ : Type u} {α : Type v} [Ord κ]

/-- The table without entries. -/
def empty : Table κ α := ⟨[], .nil⟩

instance : EmptyCollection (Table κ α) := ⟨empty⟩

instance : Inhabited (Table κ α) := ⟨empty⟩

/-- The value at a key. -/
def get? (table : Table κ α) (key : κ) : Option α :=
  (table.entries.find? fun entry => (compare key entry.1).isEq).map Prod.snd

/-- Whether a key has a value. -/
def contains (table : Table κ α) (key : κ) : Bool := (table.get? key).isSome

/-- The keys in order, each in the form in which it came first. -/
def keys (table : Table κ α) : List κ := table.entries.map Prod.fst

/-- The values in the order of their keys. -/
def values (table : Table κ α) : List α := table.entries.map Prod.snd

/-- The number of keys. -/
def size (table : Table κ α) : Nat := table.entries.length

/-- Whether there are no keys. -/
def isEmpty (table : Table κ α) : Bool := table.entries.isEmpty

/-- Put a value at its place in an ordered entry list. A key already there keeps its form. -/
def insertEntry (key : κ) (value : α) : List (κ × α) → List (κ × α)
  | [] => [(key, value)]
  | entry :: rest =>
    match compare key entry.1 with
    | .lt => (key, value) :: entry :: rest
    | .eq => (entry.1, value) :: rest
    | .gt => entry :: insertEntry key value rest

theorem forall_key_insertEntry {motive : κ → Prop} {key : κ} {value : α}
    {entries : List (κ × α)} (new : motive key) (old : ∀ entry ∈ entries, motive entry.1) :
    ∀ entry ∈ insertEntry key value entries, motive entry.1 := by
  induction entries with
  | nil => simpa [insertEntry] using new
  | cons head rest ih =>
    have head_holds : motive head.1 := old head (by simp)
    have rest_holds : ∀ entry ∈ rest, motive entry.1 :=
      fun entry member => old entry (List.mem_cons_of_mem _ member)
    rw [insertEntry]
    intro entry member
    cases order : compare key head.1 <;> simp only [order, List.mem_cons] at member
    · obtain rfl | rfl | member := member
      · exact new
      · exact head_holds
      · exact rest_holds entry member
    · obtain rfl | member := member
      · exact head_holds
      · exact rest_holds entry member
    · obtain rfl | member := member
      · exact head_holds
      · exact ih rest_holds entry member

theorem ordered_insertEntry [Std.TransOrd κ] {key : κ} {value : α} {entries : List (κ × α)}
    (ordered : entries.Pairwise fun left right => compare left.1 right.1 = .lt) :
    (insertEntry key value entries).Pairwise fun left right => compare left.1 right.1 = .lt := by
  induction ordered with
  | nil => simp [insertEntry]
  | @cons head rest before tail ih =>
    rw [insertEntry]
    cases order : compare key head.1 with
    | lt =>
      refine .cons ?_ (.cons before tail)
      intro entry member
      obtain rfl | member := List.mem_cons.1 member
      · exact order
      · exact Std.TransCmp.lt_trans order (before entry member)
    | eq => exact .cons before tail
    | gt =>
      refine .cons ?_ ih
      exact forall_key_insertEntry (motive := fun other => compare head.1 other = .lt)
        (Std.OrientedCmp.lt_of_gt order) before

/-- Write a value at a key. A key already there keeps its form and gets the new value. -/
def insert [Std.TransOrd κ] (table : Table κ α) (key : κ) (value : α) : Table κ α :=
  ⟨insertEntry key value table.entries, ordered_insertEntry table.ordered⟩

/-- Remove a key with its value. -/
def erase (table : Table κ α) (key : κ) : Table κ α :=
  ⟨table.entries.filter fun entry => !(compare key entry.1).isEq, table.ordered.filter _⟩

/-- Write a value at a key in the key's new form. -/
def put [Std.TransOrd κ] (table : Table κ α) (key : κ) (value : α) : Table κ α :=
  (table.erase key).insert key value

@[simp]
theorem get?_empty (key : κ) : (∅ : Table κ α).get? key = none := rfl

theorem isEq_compare_left [Std.TransOrd κ] {first second : κ} (third : κ)
    (equal : compare first second = .eq) :
    (compare first third).isEq = (compare second third).isEq := by
  rw [Std.TransCmp.congr_left equal]

theorem find?_insertEntry [Std.TransOrd κ] (key other : κ) (value : α)
    (entries : List (κ × α)) :
    ((insertEntry key value entries).find? fun entry => (compare other entry.1).isEq).map
        Prod.snd =
      if (compare other key).isEq then some value
      else (entries.find? fun entry => (compare other entry.1).isEq).map Prod.snd := by
  induction entries with
  | nil =>
    by_cases hit : (compare other key).isEq <;> simp [insertEntry, hit]
  | cons head rest ih =>
    rw [insertEntry]
    cases order : compare key head.1 with
    | lt =>
      by_cases hit : (compare other key).isEq
      · simp [hit]
      · simp [List.find?_cons, hit]
    | eq =>
      have agree : (compare other head.1).isEq = (compare other key).isEq := by
        rw [Std.TransCmp.congr_right order]
      by_cases hit : (compare other key).isEq
      · simp [agree, hit]
      · simp [agree, hit]
    | gt =>
      by_cases hit : (compare other head.1).isEq
      · have apart : (compare other key).isEq = false := by
          have swapped : compare head.1 key = .lt := Std.OrientedCmp.lt_of_gt order
          have equal : compare other head.1 = .eq := by simpa using hit
          rw [Std.TransCmp.congr_left equal, swapped]
          rfl
        simp [hit, apart]
      · simpa [List.find?_cons, hit] using ih

/-- A look-up finds the new value at the written key and the old value elsewhere. -/
theorem get?_insert [Std.TransOrd κ] (table : Table κ α) (key other : κ) (value : α) :
    (table.insert key value).get? other =
      if (compare other key).isEq then some value else table.get? other :=
  find?_insertEntry key other value table.entries

theorem find?_filter_eq [Std.TransOrd κ] (key other : κ) (entries : List (κ × α)) :
    ((entries.filter fun entry => !(compare key entry.1).isEq).find?
        fun entry => (compare other entry.1).isEq) =
      if (compare other key).isEq then none
      else entries.find? fun entry => (compare other entry.1).isEq := by
  induction entries with
  | nil => simp
  | cons head rest ih =>
    by_cases removed : (compare key head.1).isEq
    · have agree : (compare other head.1).isEq = (compare other key).isEq := by
        rw [Std.TransCmp.congr_right (by simpa using removed : compare key head.1 = .eq)]
      by_cases hit : (compare other key).isEq
      · simpa [removed, hit] using ih
      · simpa [removed, List.find?_cons, agree, hit] using ih
    · by_cases hit : (compare other head.1).isEq
      · have apart : (compare other key).isEq = false := by
          have equal : compare other head.1 = .eq := by simpa using hit
          rw [isEq_compare_left key equal]
          have flipped : compare head.1 key = (compare key head.1).swap := Std.OrientedCmp.eq_swap
          cases order : compare key head.1 <;> simp_all
        simp [removed, hit, apart]
      · simpa [removed, List.find?_cons, hit] using ih

/-- A look-up finds nothing at the removed key and the old value elsewhere. -/
theorem get?_erase [Std.TransOrd κ] (table : Table κ α) (key other : κ) :
    (table.erase key).get? other =
      if (compare other key).isEq then none else table.get? other := by
  rw [get?, erase, find?_filter_eq]
  split <;> rfl

end Table

end PipelineConfig
