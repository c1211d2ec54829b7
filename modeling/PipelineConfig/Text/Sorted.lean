import PipelineConfig.Table

/-!
# Sorted texts

A list of texts in code point order, each once.
-/

namespace PipelineConfig.Text

/-- The texts of a list in order, each once. -/
def sortedDistinct (texts : List String) : List String :=
  (texts.foldl (fun (table : Table String Unit) text => table.insert text ()) ∅).keys

end PipelineConfig.Text
