/-!
# Spots

A YAML text is read as a list of spots: characters with their line and column. All the ways to end
a line are made one beforehand, except for the two separators that stay in a text as they are.
-/

namespace PipelineConfig.Document.Yaml

/-- A character with its place in the text. -/
structure Spot where
  /-- The character. -/
  char : Char
  /-- The number of lines above. -/
  line : Nat
  /-- The number of characters before it on its line. -/
  column : Nat
deriving DecidableEq, Repr

/-- Whether a character may stand in a YAML text. -/
def isAllowed (char : Char) : Bool :=
  let code := char.toNat
  code == 9 || code == 10 || code == 13 || (0x20 ≤ code && code ≤ 0x7e) || code == 0x85 ||
    (0xa0 ≤ code && code ≤ 0xfffd) || 0x10000 ≤ code

/-- The characters of a text with one character, the line feed, for each of the four ways to end a
line that count as white space only. -/
def joinBreaks : List Char → List Char
  | [] => []
  | '\r' :: '\n' :: rest => '\n' :: joinBreaks rest
  | '\r' :: rest => '\n' :: joinBreaks rest
  | char :: rest => (if char.toNat = 0x85 then '\n' else char) :: joinBreaks rest

/-- Whether a character ends a line: the line feed, the line separator, the paragraph separator. -/
def isBreak (char : Char) : Bool :=
  char == '\n' || char.toNat == 0x2028 || char.toNat == 0x2029

/-- Whether a character is white space within a line. -/
def isBlank (char : Char) : Bool := char == ' ' || char == '\t'

/-- Whether a character may stand in the names of anchors, directives and tag handles. -/
def isWordChar (char : Char) : Bool := char.isAlphanum || char == '_' || char == '-'

/-- Characters with their places, from a place on. -/
def spotsFrom (line column : Nat) : List Char → List Spot
  | [] => []
  | char :: rest =>
    ⟨char, line, column⟩ ::
      (if isBreak char then spotsFrom (line + 1) 0 rest else spotsFrom line (column + 1) rest)

/-- The spots of a text, if all its characters are allowed. -/
def spots? (text : String) : Option (List Spot) :=
  if text.toList.all isAllowed then some (spotsFrom 0 0 (joinBreaks text.toList)) else none

/-- Whether the first of some spots holds a character. -/
def startsWith (char : Char) (spots : List Spot) : Bool :=
  match spots with
  | spot :: _ => spot.char == char
  | [] => false

/-- Whether the text ends here, or goes on with white space. -/
def endsWord (spots : List Spot) : Bool :=
  match spots with
  | spot :: _ => isBlank spot.char || isBreak spot.char
  | [] => true

/-- Whether the text or the line ends here. -/
def endsLine (spots : List Spot) : Bool :=
  match spots with
  | spot :: _ => isBreak spot.char
  | [] => true

/-- Whether a mark of three equal characters stands at the start of a line by itself. -/
def isMark (char : Char) : List Spot → Bool
  | first :: second :: third :: rest =>
    first.column == 0 && first.char == char && second.char == char && third.char == char &&
      endsWord rest
  | _ => false

/-- Whether a mark that divides documents stands here. -/
def atDocumentMark (spots : List Spot) : Bool := isMark '-' spots || isMark '.' spots

/-- The characters up to the first that does not meet a condition, and the spots from there on. -/
def takeChars (condition : Char → Bool) (spots : List Spot) : List Char × List Spot :=
  ((spots.takeWhile fun spot => condition spot.char).map Spot.char,
    spots.dropWhile fun spot => condition spot.char)

/-- The spots after white space within the line. -/
def skipBlanks (spots : List Spot) : List Spot := (takeChars isBlank spots).2

/-- The spots from the end of the line on. -/
def skipLine (spots : List Spot) : List Spot := (takeChars (fun char => !isBreak char) spots).2

/-- What follows white space and a comment at the end of a line, if there is nothing else. -/
def afterLine? (spots : List Spot) : Option (List Spot) :=
  let rest := skipBlanks spots
  let rest := if startsWith '#' rest then skipLine rest else rest
  match rest with
  | [] => some []
  | spot :: rest => if isBreak spot.char then some rest else none

end PipelineConfig.Document.Yaml
