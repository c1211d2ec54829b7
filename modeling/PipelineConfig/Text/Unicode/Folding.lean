import PipelineConfig.Text.Unicode.FoldingRuns
import PipelineConfig.Text.Unicode.Runs

/-!
# Letters of either case

Without case a letter is the same as the other letters that stand for the same one. These letters
together are an orbit; a letter outside of all orbits is only the same as itself.
-/

namespace PipelineConfig.Text.Unicode

/-- A whole number written with an optional hyphen in front. -/
def integerOf : List Char → Int
  | '-' :: digits => -((natural? 10 digits).getD 0 : Int)
  | digits => ((natural? 10 digits).getD 0 : Int)

/-- The letters that a word of the table lists, each with the letter that it stands for. -/
def foldingsOf (word : List Char) : List (Nat × Nat) :=
  match (splitChars ':' word).map integerOf with
  | [first, count, step, distance] =>
    (List.range count.toNat).map fun index =>
      let letter := first.toNat + index * step.toNat
      (letter, (letter + distance).toNat)
  | _ => []

/-- Every letter that stands for another one, with that one. -/
def foldings : List (Nat × Nat) := (words foldingRuns.toList).flatMap foldingsOf

/-- Collect the letters that stand for the same one, where they are next to one another. -/
def collect : List (Nat × Nat) → List (List Nat)
  | [] => []
  | (letter, target) :: rest =>
    match rest, collect rest with
    | (_, target') :: _, orbit :: orbits =>
      if target = target' then (letter :: orbit) :: orbits else [letter, target] :: orbit :: orbits
    | _, orbits => [letter, target] :: orbits

/-- The orbits. -/
def orbits : List (List Nat) :=
  collect (foldings.mergeSort fun left right => left.2 ≤ right.2)

/-- A set with all letters that are without case the same as one of its members. -/
def foldCase (set : CharSet) : CharSet :=
  let met := orbits.filter fun orbit => orbit.any set.contains
  if met.isEmpty then set
  else CharSet.ofRanges (set.ranges ++ met.flatten.map fun code => (code, code))

/-- What becomes of the parts of ranges between two letters when every letter is replaced. -/
def shifted (low high : Nat) (shift : Nat → Nat) (ranges : List (Nat × Nat)) :
    List (Nat × Nat) :=
  (CharSet.interRanges ranges [(low, high)]).map fun range => (shift range.1, shift range.2)

/-- A set with both cases of its ASCII letters. -/
def foldAsciiCase (set : CharSet) : CharSet :=
  CharSet.ofRanges (set.ranges ++ shifted 0x41 0x5a (· + 32) set.ranges ++
    shifted 0x61 0x7a (· - 32) set.ranges)

end PipelineConfig.Text.Unicode
