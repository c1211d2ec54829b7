import PipelineConfig.Document.Reading
import PipelineConfig.Document.Writing

/-!
# Reading what was written

A record is written field by field, and a field without a value is left out. When the names of its
fields are distinct, looking a name up finds what was written under it. So a record is read back as
soon as each of its fields is.
-/

namespace PipelineConfig.Document

namespace Value

@[simp]
theorem text?_text (scalar : String) : text? (.text scalar) = some scalar := rfl

@[simp]
theorem name?_ofName (name : Name) : name? (ofName name) = some name := rfl

@[simp]
theorem bool?_bool (truth : Bool) : bool? (.bool truth) = some truth := rfl

@[simp]
theorem optional?_ofText? (text : Option String) :
    optional? text? (ofText? text) = some text := by
  cases text <;> rfl

end Value

/-- Reading undoes writing, up to what is not written. -/
def Undoes {α : Type} (read : Value → Option α) (write : α → Value) (clear : α → α) : Prop :=
  ∀ item, read (write item) = some (clear item)

theorem mapM_of_forall_some {α β : Type} {read : α → Option β} {result : α → β} {items : List α}
    (each : ∀ item ∈ items, read item = some (result item)) :
    items.mapM read = some (items.map result) := by
  induction items with
  | nil => rfl
  | cons head rest ih =>
    obtain ⟨first, later⟩ := List.forall_mem_cons.1 each
    simp [first, ih later]

namespace Undoes

theorem list {α : Type} {read : Value → Option α} {write : α → Value} {clear : α → α}
    (undoes : Undoes read write clear) :
    Undoes (Value.list? read) (Value.ofList write) (List.map clear) := by
  intro items
  have each : ∀ item ∈ items, (read ∘ write) item = some (clear item) := fun item _ => undoes item
  have written : Value.list? read (Value.ofList write items) = (items.map write).mapM read := rfl
  rw [written, List.mapM_map]
  exact mapM_of_forall_some each

theorem text : Undoes Value.text? .text id := Value.text?_text

theorem name : Undoes Value.name? Value.ofName id := Value.name?_ofName

end Undoes

/-! ## Tables -/

theorem insertEntry_of_last {key value : String} {entries : List (String × String)}
    (last : ∀ entry ∈ entries, compare entry.1 key = .lt) :
    Table.insertEntry key value entries = entries ++ [(key, value)] := by
  induction entries with
  | nil => rfl
  | cons head rest ih =>
    obtain ⟨before, later⟩ := List.forall_mem_cons.1 last
    rw [Table.insertEntry, Std.OrientedCmp.gt_of_lt before]
    exact congrArg (head :: ·) (ih later)

theorem foldlM_insert_entries {entries : List (String × String)} (table : Table String String)
    (ordered : (table.entries ++ entries).Pairwise
      fun left right => compare left.1 right.1 = .lt) :
    (entries.map fun entry => (entry.1, Value.text entry.2)).foldlM
        (fun table entry => entry.2.text?.map fun text => table.insert entry.1 text) table =
      some ⟨table.entries ++ entries, ordered⟩ := by
  induction entries generalizing table with
  | nil => simp
  | cons head rest ih =>
    have last : ∀ entry ∈ table.entries, compare entry.1 head.1 = .lt :=
      fun entry member => (List.pairwise_append.1 ordered).2.2 entry member head (by simp)
    have extended : (table.insert head.1 head.2).entries = table.entries ++ [head] :=
      insertEntry_of_last last
    have ordered_then : ((table.insert head.1 head.2).entries ++ rest).Pairwise
        fun left right => compare left.1 right.1 = .lt := by
      rwa [extended, List.append_assoc]
    have step := ih _ ordered_then
    simp only [List.map_cons, List.foldlM_cons, Value.text?, Value.untagged, Option.map_some,
      Option.bind_eq_bind, Option.bind_some] at step ⊢
    rw [step]
    simp only [extended, List.append_assoc, List.singleton_append]

theorem entries?_ofTexts {entries : List (String × Value)} :
    (Value.mapping (entries.map fun entry => (.text entry.1, entry.2))).entries? =
      some entries := by
  have opened : (Value.mapping (entries.map fun entry => (.text entry.1, entry.2))).entries? =
      (entries.map fun entry => (Value.text entry.1, entry.2)).mapM fun entry =>
        entry.1.text?.map fun key => (key, entry.2) := rfl
  have each : ∀ entry ∈ entries, ((fun entry : Value × Value =>
      entry.1.text?.map fun key => (key, entry.2)) ∘ fun entry : String × Value =>
        (Value.text entry.1, entry.2)) entry = some (id entry) := fun _ _ => rfl
  rw [opened, List.mapM_map, mapM_of_forall_some each, List.map_id]

/-- Entries that come in the order of their keys fill the table they were taken from. -/
theorem Undoes.table : Undoes Value.table? Value.ofTable id := by
  intro table
  have written : Value.ofTable table = .mapping
      ((table.entries.map fun entry => (entry.1, Value.text entry.2)).map
        fun entry => (.text entry.1, entry.2)) := by
    rw [Value.ofTable, List.map_map]
    rfl
  have filled := foldlM_insert_entries ∅ table.ordered
  rw [Value.table?, written, entries?_ofTexts, Option.bind_some]
  exact filled

/-! ## Records -/

namespace Fields

/-- The fields that have a value. -/
def present (fields : List (String × Option Value)) : Fields :=
  fields.filterMap fun field => field.2.map fun value => (field.1, value)

theorem present_none (name : String) (rest : List (String × Option Value)) :
    present ((name, none) :: rest) = present rest := rfl

theorem present_some (name : String) (value : Value) (rest : List (String × Option Value)) :
    present ((name, some value) :: rest) = (name, value) :: present rest := rfl

@[simp]
theorem lookup_present_nil (name : String) : List.lookup name (present []) = none := rfl

@[simp]
theorem lookup_present_cons (name key : String) (value : Option Value)
    (rest : List (String × Option Value)) :
    List.lookup name (present ((key, value) :: rest)) =
      if name = key then value.or (List.lookup name (present rest))
      else List.lookup name (present rest) := by
  cases value with
  | none => simp [present_none]
  | some value =>
    rw [present_some, List.lookup_cons]
    by_cases here : name = key
    · simp [here]
    · have apart : (name == key) = false := by simpa using here
      simp only [here, apart, if_false]

theorem filter_present (keep : String → Bool) (fields : List (String × Option Value)) :
    (present fields).filter (fun entry => keep entry.1) =
      present (fields.filter fun field => keep field.1) := by
  induction fields with
  | nil => rfl
  | cons field rest ih =>
    obtain ⟨key, value⟩ := field
    cases value with
    | none => cases kept : keep key <;> simp [present_none, kept, ih]
    | some value => cases kept : keep key <;> simp [present_some, kept, ih]

theorem names_present_sublist (fields : List (String × Option Value)) :
    ((present fields).map Prod.fst).Sublist (fields.map Prod.fst) := by
  induction fields with
  | nil => exact .slnil
  | cons field rest ih =>
    obtain ⟨key, value⟩ := field
    cases value with
    | none => exact ih.cons key
    | some value => exact ih.cons_cons key

theorem known?_present {names : List String} {fields : List (String × Option Value)}
    (distinct : (fields.map Prod.fst).Nodup) :
    known? names (present fields) =
      some (present (fields.filter fun field => names.contains field.1)) := by
  have chosen := filter_present (fun name => names.contains name) fields
  have distinct_chosen : ((fields.filter fun field => names.contains field.1).map
      Prod.fst).Nodup := distinct.sublist (List.filter_sublist.map _)
  rw [known?, chosen, if_pos (distinct_chosen.sublist (names_present_sublist _))]

/-- A field that may be absent is read back from a record that leaves it out when it is. -/
theorem optional?_of_lookup {α : Type} {fields : Fields} {name : String} {item : Option α}
    {read : Value → Option α} {write : α → Value} {clear : α → α}
    (found : List.lookup name fields = item.map write)
    (each : ∀ value, Value.optional? read (write value) = some (some (clear value))) :
    fields.optional? name read = some (item.map clear) := by
  rw [optional?, default?, found]
  cases item with
  | none => rfl
  | some value => exact each value

/-- The same for a field that holds a record, which is never taken for an absent value. -/
theorem optional?_of_lookup_record {α : Type} {fields : Fields} {name : String} {item : Option α}
    {read : Value → Option α} {write : α → Value} {clear : α → α}
    (found : List.lookup name fields = item.map write) (undoes : Undoes read write clear)
    (record : ∀ value, ∃ fields, write value = .record fields) :
    fields.optional? name read = some (item.map clear) := by
  refine optional?_of_lookup found fun value => ?_
  obtain ⟨parts, written⟩ := record value
  have read_as_item : Value.optional? read (write value) = (read (write value)).map some := by
    rw [written]
    rfl
  rw [read_as_item, undoes value, Option.map_some]

/-- A list that is left out when it is empty is read back. -/
theorem default?_of_lookup {α : Type} {fields : Fields} {name : String} {items : List α}
    {read : Value → Option α} {write : α → Value} {clear : α → α}
    (found : List.lookup name fields = Value.ofNonempty? write items)
    (undoes : Undoes read write clear) :
    fields.default? name [] (Value.list? read) = some (items.map clear) := by
  rw [default?, found, Value.ofNonempty?]
  cases items with
  | nil => rfl
  | cons head rest => exact undoes.list (head :: rest)

end Fields

theorem entries?_record (fields : List (String × Option Value)) :
    (Value.record fields).entries? = some (Fields.present fields) := by
  have written : Value.record fields = .mapping
      ((Fields.present fields).map fun entry => (.text entry.1, entry.2)) := by
    rw [Value.record, Fields.present, List.map_filterMap]
    simp only [Option.map_map, Function.comp_def]
  rw [written, entries?_ofTexts]

/-- A record is read from the fields it was written with. -/
theorem fields?_record (format : Format) {names : List String}
    {fields : List (String × Option Value)} (named : fields.map Prod.fst = names)
    (distinct : names.Nodup) :
    (Value.record fields).fields? format names = some (Fields.present fields) := by
  have all_known : fields.filter (fun field => names.contains field.1) = fields := by
    rw [List.filter_eq_self]
    intro field member
    simpa [← named] using ⟨field.2, member⟩
  have opened : (Value.record fields).fields? format names =
      (Value.record fields).entries?.bind (Fields.known? names) := by
    cases format <;> rfl
  rw [opened, entries?_record, Option.bind_some, Fields.known?_present (by rwa [named]), all_known]

/-! ## Settled values -/

/-- Nothing about the value is left to be decided by who reads it. -/
def Value.IsSettled (value : Value) : Prop := value.settle? = some value

namespace Value

theorem isSettled_text (scalar : String) : IsSettled (.text scalar) := by
  rw [IsSettled, settle?]

theorem isSettled_bool (truth : Bool) : IsSettled (.bool truth) := by
  rw [IsSettled, settle?]

theorem isSettled_ofText? (text : Option String) : IsSettled (ofText? text) := by
  cases text with
  | none => exact settle?.eq_1
  | some scalar => exact isSettled_text scalar

theorem isSettled_list {items : List Value} (settled : ∀ item ∈ items, item.IsSettled) :
    IsSettled (.list items) := by
  have all : settleAll? items = some items := by
    induction items with
    | nil => rw [settleAll?]
    | cons head rest ih =>
      obtain ⟨first, later⟩ := List.forall_mem_cons.1 settled
      have first : head.settle? = some head := first
      rw [settleAll?, first, ih later]
  rw [IsSettled, settle?, all, Option.map_some]

theorem isSettled_mapping {entries : List (Value × Value)}
    (settled : ∀ entry ∈ entries, entry.1.IsSettled ∧ entry.2.IsSettled) :
    IsSettled (.mapping entries) := by
  have all : settleEntries? entries = some entries := by
    induction entries with
    | nil => rw [settleEntries?]
    | cons head rest ih =>
      obtain ⟨⟨key, value⟩, later⟩ := List.forall_mem_cons.1 settled
      have key : head.1.settle? = some head.1 := key
      have value : head.2.settle? = some head.2 := value
      rw [settleEntries?, key, value, ih later]
  rw [IsSettled, settle?, all, Option.map_some]

theorem isSettled_texts (texts : List String) : IsSettled (ofList .text texts) := by
  refine isSettled_list fun item member => ?_
  obtain ⟨scalar, _, rfl⟩ := List.mem_map.1 member
  exact isSettled_text scalar

theorem isSettled_ofTable (table : Table String String) : IsSettled (ofTable table) := by
  refine isSettled_mapping fun entry member => ?_
  obtain ⟨named, _, rfl⟩ := List.mem_map.1 member
  exact ⟨isSettled_text named.1, isSettled_text named.2⟩

end Value

theorem settledEntries?_present {fields : List (String × Option Value)}
    (settled : ∀ field ∈ fields, ∀ value ∈ field.2, value.IsSettled) :
    settledEntries? (Fields.present fields) = some (Fields.present fields) := by
  have each : ∀ entry ∈ Fields.present fields, (entry.2.settle?.map fun value => (entry.1, value)) =
      some (id entry) := by
    intro entry member
    obtain ⟨field, listed, given⟩ := List.mem_filterMap.1 member
    obtain ⟨value, valued, rfl⟩ := Option.map_eq_some_iff.1 given
    have decided : value.settle? = some value := settled field listed value valued
    simp [decided]
  rw [settledEntries?, mapM_of_forall_some each, List.map_id]

end PipelineConfig.Document
