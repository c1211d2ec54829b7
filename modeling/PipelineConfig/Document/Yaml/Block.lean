import PipelineConfig.Document.Yaml.Spot

/-!
# Block scalars

A block scalar is the lines below its mark that are indented far enough. Its header says whether
lines are folded, what becomes of the line breaks at its end, and how far it is indented; if it does
not say so, the first line that is not empty does.
-/

namespace PipelineConfig.Document.Yaml

/-- What becomes of the line breaks at the end. -/
inductive Chomping where
  /-- All are left out. -/
  | strip
  /-- One is kept. -/
  | clip
  /-- All are kept. -/
  | keep
deriving DecidableEq, Repr

/-- The header of a block scalar. -/
structure BlockHeader where
  /-- What becomes of the line breaks at the end. -/
  chomping : Chomping := .clip
  /-- The indentation below the parent, if it is given. -/
  indentation : Option Nat := none
deriving DecidableEq, Repr

/-- The chomping that a character asks for. -/
def chomping? (char : Char) : Option Chomping :=
  if char = '+' then some .keep else if char = '-' then some .strip else none

/-- The indentation that a character gives. -/
def indentation? (char : Char) : Option Nat :=
  if '0' ≤ char ∧ char ≤ '9' then some (char.toNat - '0'.toNat) else none

/-- Read the header after its mark, in which the two signs stand in any order. Zero is no
indentation. -/
def blockHeader? (spots : List Spot) : Option (BlockHeader × List Spot) :=
  let signs := spots.takeWhile fun spot =>
    (chomping? spot.char).isSome || (indentation? spot.char).isSome
  let header? : Option BlockHeader :=
    match signs.map Spot.char with
    | [] => some {}
    | [char] => some { chomping := (chomping? char).getD .clip, indentation := indentation? char }
    | [first, second] =>
      match chomping? first, chomping? second with
      | some chomping, none => some { chomping, indentation := indentation? second }
      | none, some chomping => some { chomping, indentation := indentation? first }
      | _, _ => none
    | _ => none
  match header?, afterLine? (spots.drop signs.length) with
  | some header, some rest => if header.indentation = some 0 then none else some (header, rest)
  | _, _ => none

/-- A block scalar up to some line. Characters stand with the last first. -/
structure BlockDraft where
  /-- The text without the line breaks at its end. -/
  text : List Char := []
  /-- The break that ended the last line with text, if there is one. -/
  lineBreak : Option Char := none
  /-- The breaks of the empty lines since then. -/
  breaks : List Char := []
  /-- Whether the last line with text began with white space. -/
  indented : Bool := false
deriving Repr

namespace BlockDraft

/-- Begin a line with text. If lines are folded, a break between two lines that do not begin with
white space becomes a space, or nothing if empty lines follow it. -/
def beginLine (draft : BlockDraft) (folded : Bool) (first : Char) : BlockDraft :=
  let joins := folded && draft.lineBreak == some '\n' && !draft.indented && !isBlank first
  let between :=
    if joins then if draft.breaks.isEmpty then [' '] else []
    else draft.lineBreak.toList
  { text := draft.breaks ++ between ++ draft.text, indented := isBlank first }

/-- The whole text. -/
def finish (draft : BlockDraft) (chomping : Chomping) : List Char :=
  let kept :=
    match chomping with
    | .strip => []
    | .clip => draft.lineBreak.toList
    | .keep => draft.breaks ++ draft.lineBreak.toList
  (kept ++ draft.text).reverse

end BlockDraft

/-- How far a block scalar is indented, as far as it is known. -/
inductive Indentation where
  /-- It begins at this column. -/
  | known (column : Nat)
  /-- The lines so far were empty and reached this column. -/
  | seen (column : Nat)

namespace Indentation

/-- Whether a column lies before the text. -/
def isBefore (indentation : Indentation) (column : Nat) : Bool :=
  match indentation with
  | known least => column < least
  | seen _ => true

/-- The indentation after a column that may belong to it. -/
def reach (indentation : Indentation) (column : Nat) : Indentation :=
  match indentation with
  | known least => .known least
  | seen greatest => .seen (max greatest column)

/-- The column at which the text begins, once a line that is not empty begins at a column. -/
def settle (indentation : Indentation) (level column : Nat) : Nat :=
  match indentation with
  | known least => least
  | seen greatest => max (max (max greatest column) level) 1

end Indentation

/-- The rest of a block scalar, and the spots from the first line on that does not belong to it.
`inLine` says that a line with text has begun. A tab cannot stand for indentation. -/
def blockText (folded : Bool) (chomping : Chomping) (level : Nat) (indentation : Indentation)
    (inLine : Bool) (draft : BlockDraft) : List Spot → Option (List Char × List Spot)
  | [] => some (draft.finish chomping, [])
  | spot :: rest =>
    if inLine then
      if isBreak spot.char then
        blockText folded chomping level indentation false { draft with lineBreak := some spot.char }
          rest
      else
        blockText folded chomping level indentation true
          { draft with text := spot.char :: draft.text } rest
    else if isBreak spot.char then
      blockText folded chomping level (indentation.reach spot.column) false
        { draft with breaks := spot.char :: draft.breaks } rest
    else if indentation.isBefore spot.column && spot.char == ' ' then
      blockText folded chomping level indentation false draft rest
    else if indentation.isBefore spot.column && spot.char == '\t' then none
    else
      let least := indentation.settle level spot.column
      if spot.column = least then
        let begun := draft.beginLine folded spot.char
        blockText folded chomping level (.known least) true
          { begun with text := spot.char :: begun.text } rest
      else some (draft.finish chomping, spot :: rest)

/-- A block scalar after its mark, and the spots after it. Nested content begins at `level`. -/
def block? (folded : Bool) (level : Nat) (spots : List Spot) : Option (List Char × List Spot) :=
  (blockHeader? spots).bind fun (header, rest) =>
    let indentation : Indentation :=
      match header.indentation with
      | some count => .known (level - 1 + count)
      | none => .seen 0
    blockText folded header.chomping level indentation false {} rest

end PipelineConfig.Document.Yaml
