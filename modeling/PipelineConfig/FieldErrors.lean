/-!
# Messages by field

Every node of a configuration carries the messages recorded against it. They are grouped by the
field they concern: fields stand in the order of their first message, messages in the order in
which they came, and nothing is dropped for being said twice.
-/

namespace PipelineConfig

/-- The messages recorded against one node. -/
structure FieldErrors where
  /-- Each field with its messages. -/
  entries : List (String × List String) := []
deriving DecidableEq, Repr, Inhabited

namespace FieldErrors

/-- The field of messages that concern no single field. -/
def base : String := "base"

/-- No messages. -/
def none : FieldErrors := ⟨[]⟩

/-- Add a message to a field's messages, or open the field at the end. -/
def addTo (field message : String) : List (String × List String) → List (String × List String)
  | [] => [(field, [message])]
  | entry :: rest =>
    if entry.1 = field then (entry.1, entry.2 ++ [message]) :: rest
    else entry :: addTo field message rest

/-- Record a message against a field. -/
def add (errors : FieldErrors) (field message : String) : FieldErrors :=
  ⟨addTo field message errors.entries⟩

/-- The messages of a field; there are none for a field never named. -/
def on (errors : FieldErrors) (field : String) : List String :=
  ((errors.entries.find? fun entry => entry.1 = field).map Prod.snd).getD []

/-- All messages, field by field. -/
def all (errors : FieldErrors) : List String := errors.entries.flatMap Prod.snd

/-- The fields that have messages. -/
def fields (errors : FieldErrors) : List String := errors.entries.map Prod.fst

/-- Whether nothing is recorded. -/
def isEmpty (errors : FieldErrors) : Bool := errors.entries.isEmpty

/-- The number of messages. -/
def count (errors : FieldErrors) : Nat :=
  errors.entries.foldr (fun entry total => entry.2.length + total) 0

@[simp]
theorem isEmpty_none : none.isEmpty = true := rfl

@[simp]
theorem count_none : none.count = 0 := rfl

theorem length_all (errors : FieldErrors) : errors.all.length = errors.count := by
  simp [all, count, List.length_flatMap, List.sum, List.foldr_map]

/-- Recording a message adds it at the end of its field and nowhere else. -/
theorem on_add (errors : FieldErrors) (field other message : String) :
    (errors.add field message).on other =
      errors.on other ++ if field = other then [message] else [] := by
  obtain ⟨entries⟩ := errors
  simp only [add, on]
  induction entries with
  | nil =>
    by_cases equal : field = other <;> simp [addTo, equal]
  | cons entry rest ih =>
    rw [addTo]
    by_cases here : entry.1 = field
    · by_cases equal : field = other
      · simp [here, equal]
      · simp [here, equal]
    · by_cases found : entry.1 = other
      · have apart : field ≠ other := fun equal => here (found.trans equal.symm)
        simp [found, apart, apart.symm]
      · simpa [here, found] using ih

theorem count_add (errors : FieldErrors) (field message : String) :
    (errors.add field message).count = errors.count + 1 := by
  obtain ⟨entries⟩ := errors
  simp only [add, count]
  induction entries with
  | nil => simp [addTo]
  | cons entry rest ih =>
    rw [addTo]
    by_cases here : entry.1 = field
    · simp [here]
      omega
    · simp only [here, if_false, List.foldr_cons, ih]
      omega

end FieldErrors

end PipelineConfig
