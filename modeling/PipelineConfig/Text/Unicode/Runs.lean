import PipelineConfig.Text.CharSet
import PipelineConfig.Text.Numeral
import PipelineConfig.Text.Split

/-!
# Tables of code points

Tables are written as texts. A text either names a value for every run of code points, or gives
only the lengths of runs that are outside of a set and in it by turns.
-/

namespace PipelineConfig.Text.Unicode

/-- A run of code points: its value and its length. -/
abbrev Run := String × Nat

/-- The run that a word gives. -/
def runOf (word : List Char) : Run :=
  (String.ofList (beforeFirst [':'] word),
    ((afterFirst? [':'] word).bind (natural? 10)).getD 1)

/-- The runs that a text lists. -/
def runsOf (text : String) : List Run := (words text.toList).map runOf

/-- The ranges of the runs whose value satisfies a condition, where the first run begins at a given
code point. -/
def rangesWhere (condition : String → Bool) (start : Nat) : List Run → List (Nat × Nat)
  | [] => []
  | (value, length) :: rest =>
    let others := rangesWhere condition (start + length) rest
    if condition value then (start, start + length - 1) :: others else others

/-- The code points whose value in a table satisfies a condition. -/
def setWhere (runs : String) (condition : String → Bool) : CharSet :=
  CharSet.ofRanges (rangesWhere condition 0 (runsOf runs))

/-- The ranges given by lengths, of which every second one is that of a range. -/
def rangesOfLengths (start : Nat) : List Nat → List (Nat × Nat)
  | outside :: length :: rest =>
    (start + outside, start + outside + length - 1) ::
      rangesOfLengths (start + outside + length) rest
  | _ => []

/-- The set that a text of lengths gives. -/
def setOfLengths (text : String) : CharSet :=
  ⟨rangesOfLengths 0 ((words text.toList).filterMap (natural? 10))⟩

end PipelineConfig.Text.Unicode
