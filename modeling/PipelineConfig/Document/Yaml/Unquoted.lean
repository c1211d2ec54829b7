import PipelineConfig.Document.Yaml.Gap

/-!
# Plain scalars

A scalar without quotes goes on over white space and lines until something follows that cannot
belong to it: a comment, a colon before white space, a mark between documents, a line that is not
indented far enough, or a bracket or comma inside brackets.
-/

namespace PipelineConfig.Document.Yaml

/-- A plain scalar that has been read. -/
structure Unquoted where
  /-- The text. -/
  text : List Char
  /-- Whether a line ended after the text. -/
  crossesLine : Bool
  /-- The spots from the end of the white space after the text on. -/
  rest : List Spot

/-- The brackets and the comma. -/
def isBracket (char : Char) : Bool := [',', '[', ']', '\x7b', '\x7d'].contains char

/-- Whether a colon stands before a bracket, a comma or a question mark. -/
def isBareColon : List Spot → Bool
  | colon :: next :: _ => colon.char == ':' && (isBracket next.char || next.char == '?')
  | _ => false

/-- Whether a plain scalar ends before a character that is not white space. -/
def endsUnquoted (inFlow : Bool) (level : Nat) (gap : Gap) (spot : Spot) (rest : List Spot) :
    Bool :=
  (!gap.isEmpty && !inFlow && spot.column < level) || atDocumentMark (spot :: rest) ||
    (!gap.isEmpty && spot.char == '#') || (spot.char == ':' && endsWord rest) ||
    (inFlow && isBracket spot.char)

/-- The rest of a plain scalar. What was read before is given with the last character first. The
lines of a scalar must reach the column `level`, unless it stands inside brackets. -/
def unquoted (inFlow : Bool) (level : Nat) (text : List Char) (gap : Gap) :
    List Spot → Option Unquoted
  | [] => some ⟨text.reverse, gap.crossesLine, []⟩
  | spot :: rest =>
    if isBlank spot.char || isBreak spot.char then
      if gap.crossesLine && spot.char == '\t' && spot.column < level then none
      else unquoted inFlow level text (gap.add spot.char) rest
    else if endsUnquoted inFlow level gap spot rest then
      if inFlow && isBareColon (spot :: rest) then none
      else some ⟨text.reverse, gap.crossesLine, spot :: rest⟩
    else if inFlow && isBareColon (spot :: rest) then none
    else unquoted inFlow level (spot.char :: (gap.toChars.reverse ++ text)) .empty rest

end PipelineConfig.Document.Yaml
