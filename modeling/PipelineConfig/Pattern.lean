import PipelineConfig.Pattern.Automaton
import PipelineConfig.Pattern.Meaning
import PipelineConfig.Pattern.Reading

/-!
# Well-formed patterns

Which texts are regular expressions: their tree can be read, all classes they ask for exist, and
they are not too large to be matched. What is said of other texts is left to the engine.
-/

namespace PipelineConfig.Pattern

/-- The expression of a text, if it is a pattern. -/
def expression? (text : String) : Option Expression := (read? text).bind Tree.expression?

/-- Whether a text is a well-formed pattern of bearable size. -/
def isWellFormed (text : String) : Bool := (expression? text).any Expression.isBearable

/-- An engine that patterns are read by, as far as its messages go. -/
class Engine where
  /-- What the engine says of a text that is no pattern, if anything. -/
  explain : String → Option String

/-- The program leaves explanations out. -/
instance : Engine := ⟨fun _ => none⟩

end PipelineConfig.Pattern
