/-!
# Outlines

What a reader looks at in a value. Of a record it looks at the fields that it knows; what stands
at other keys is passed over.
-/

namespace PipelineConfig.Document

/-- The parts of a value that are looked at. -/
inductive Outline where
  /-- Every part. -/
  | whole
  /-- The members of a list, each in the same way. -/
  | list (item : Outline)
  /-- The known fields of a record. -/
  | record (fields : List (String × Outline))

namespace Outline

/-- The names of the known fields, if any key can be unknown. -/
def names : Outline → List String
  | record fields => fields.map Prod.fst
  | _ => []

/-- What is looked at in the members of a list. -/
def item : Outline → Outline
  | list item => item
  | outline => outline

/-- What is looked at in the value at a key, if anything. -/
def at? : Outline → Option String → Option Outline
  | record fields, key => key.bind fun name => List.lookup name fields
  | outline, _ => some outline

end Outline

end PipelineConfig.Document
