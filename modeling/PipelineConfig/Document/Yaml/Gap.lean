import PipelineConfig.Document.Yaml.Spot

/-!
# Gaps

White space between the words of a scalar. Within a line it stays as it is. Across lines it is
folded: one line feed becomes a space, of several the first is left out, and blanks around them do
not count.
-/

namespace PipelineConfig.Document.Yaml

/-- White space inside a scalar, read up to some point. -/
structure Gap where
  /-- The blanks before any line break, the last first. -/
  blanks : List Char := []
  /-- The line breaks, the last first. -/
  breaks : List Char := []
  /-- Whether the first line break was escaped; it then does not count. -/
  escaped : Bool := false
deriving DecidableEq, Repr

namespace Gap

/-- No white space. -/
def empty : Gap := {}

/-- Whether a line has ended in the gap. -/
def crossesLine (gap : Gap) : Bool := gap.escaped || !gap.breaks.isEmpty

/-- Whether there is any white space. -/
def isEmpty (gap : Gap) : Bool := gap.blanks.isEmpty && !gap.crossesLine

/-- The gap with one more character of white space. -/
def add (gap : Gap) (char : Char) : Gap :=
  if isBreak char then { gap with breaks := char :: gap.breaks }
  else if gap.crossesLine then gap
  else { gap with blanks := char :: gap.blanks }

/-- What line breaks stand for. -/
def fold : List Char → List Char
  | [] => []
  | ['\n'] => [' ']
  | '\n' :: rest => rest
  | breaks => breaks

/-- What the gap stands for. -/
def toChars (gap : Gap) : List Char :=
  if gap.escaped then gap.breaks.reverse
  else if gap.breaks.isEmpty then gap.blanks.reverse
  else fold gap.breaks.reverse

end Gap

end PipelineConfig.Document.Yaml
