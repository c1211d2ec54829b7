/-!
# Document values

What a document says before anyone asks what it means: texts, lists and mappings. The formats
agree on this much. Numbers are part of no configuration, so of a number only a natural number
keeps its value; it can stand for a choice by position.
-/

namespace PipelineConfig.Document

/-- A value of a document. -/
inductive Value where
  /-- Nothing. -/
  | null
  /-- A truth value. -/
  | bool (value : Bool)
  /-- A whole number that is not negative. -/
  | natural (value : Nat)
  /-- Any other number. -/
  | number
  /-- A text. -/
  | text (value : String)
  /-- A text without quotes; whoever reads it decides whether it is a text. -/
  | plain (text : String)
  /-- A value with a declared type. -/
  | tagged (tag : String) (value : Value)
  /-- A value that can be skipped but not read. -/
  | unreadable
  /-- A list. -/
  | list (items : List Value)
  /-- Keys with their values in the order of the document. -/
  | mapping (entries : List (Value × Value))
deriving Repr, Inhabited

namespace Value

/-- A mapping from texts; what has no value is left out. -/
def record (fields : List (String × Option Value)) : Value :=
  .mapping (fields.filterMap fun field => field.2.map fun value => (.text field.1, value))

/-- The value without its declared type. -/
def untagged : Value → Value
  | .tagged _ value => value
  | value => value

end Value

end PipelineConfig.Document
