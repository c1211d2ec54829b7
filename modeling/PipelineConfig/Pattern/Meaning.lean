import PipelineConfig.Pattern.Expression
import PipelineConfig.Pattern.Property
import PipelineConfig.Text.Unicode.Folding

/-!
# Meaning of patterns

Turns the tree of a pattern into an expression. Flags set modes: whether case counts, where lines
start and end, what a dot stands for, and whether classes hold Unicode characters or bytes. A class
of bytes may only hold ASCII, so that a match never ends inside a character.
-/

namespace PipelineConfig.Pattern

open PipelineConfig.Text

/-- The modes of a pattern. -/
structure Modes where
  /-- Whether letters stand for both of their cases. -/
  foldsCase : Bool := false
  /-- Whether lines have starts and ends. -/
  multiLine : Bool := false
  /-- Whether a dot stands for line ends too. -/
  dotAll : Bool := false
  /-- Whether repetitions prefer fewer times. -/
  swapsGreed : Bool := false
  /-- Whether classes hold Unicode characters. -/
  unicode : Bool := true
  /-- Whether a carriage return ends a line too. -/
  carriage : Bool := false
deriving DecidableEq, Repr

namespace Modes

/-- What flags say of one mode: set before the hyphen, cleared after it, else left alone. -/
def flagged (signs : List Char) (flag : Char) (current : Bool) : Bool :=
  if (signs.takeWhile (· != '-')).contains flag then true
  else if signs.contains flag then false
  else current

/-- The modes after flags. -/
def under (modes : Modes) (signs : List Char) : Modes where
  foldsCase := flagged signs 'i' modes.foldsCase
  multiLine := flagged signs 'm' modes.multiLine
  dotAll := flagged signs 's' modes.dotAll
  swapsGreed := flagged signs 'U' modes.swapsGreed
  unicode := flagged signs 'u' modes.unicode
  carriage := flagged signs 'R' modes.carriage

/-- A class with both cases of its letters, if case does not count. -/
def fold (modes : Modes) (members : CharSet) : CharSet :=
  if !modes.foldsCase then members
  else if modes.unicode then Unicode.foldCase members
  else Unicode.foldAsciiCase members

/-- A class that is perhaps negated. What is no member of a class of bytes is not ASCII. -/
def negate? (modes : Modes) (negated : Bool) (members : CharSet) : Option CharSet :=
  if !negated then some members else if modes.unicode then some members.complement else none

/-- A folded class that is perhaps negated. -/
def finish? (modes : Modes) (negated : Bool) (members : CharSet) : Option CharSet :=
  modes.negate? negated (modes.fold members)

/-- The code point of a character in a class. -/
def member? (modes : Modes) (sign : Sign) : Option Nat :=
  if modes.unicode || sign.char.val < 0x80 then some sign.char.toNat else none

/-- The named classes of ASCII characters. -/
def ascii : String → CharSet
  | "alnum" => ⟨[(0x30, 0x39), (0x41, 0x5a), (0x61, 0x7a)]⟩
  | "alpha" => ⟨[(0x41, 0x5a), (0x61, 0x7a)]⟩
  | "ascii" => ⟨[(0, 0x7f)]⟩
  | "blank" => ⟨[(9, 9), (0x20, 0x20)]⟩
  | "cntrl" => ⟨[(0, 0x1f), (0x7f, 0x7f)]⟩
  | "digit" => ⟨[(0x30, 0x39)]⟩
  | "graph" => ⟨[(0x21, 0x7e)]⟩
  | "lower" => ⟨[(0x61, 0x7a)]⟩
  | "print" => ⟨[(0x20, 0x7e)]⟩
  | "punct" => ⟨[(0x21, 0x2f), (0x3a, 0x40), (0x5b, 0x60), (0x7b, 0x7e)]⟩
  | "space" => ⟨[(9, 0xd), (0x20, 0x20)]⟩
  | "upper" => ⟨[(0x41, 0x5a)]⟩
  | "word" => ⟨[(0x30, 0x39), (0x41, 0x5a), (0x5f, 0x5f), (0x61, 0x7a)]⟩
  | "xdigit" => ⟨[(0x30, 0x39), (0x41, 0x46), (0x61, 0x66)]⟩
  | _ => .empty

/-- The members of a class with an escape of its own. -/
def shorthand (modes : Modes) : Shorthand → CharSet
  | .digit => if modes.unicode then Unicode.digits else ascii "digit"
  | .blank => if modes.unicode then Unicode.blanks else ascii "space"
  | .word => if modes.unicode then Unicode.wordSigns else ascii "word"

/-- The members of a class with a name. Both cases of a letter are always members of a class with
an escape of its own, or none is. -/
def named? (modes : Modes) (negated : Bool) : ClassName → Option CharSet
  | .shorthand kind => modes.negate? negated (modes.shorthand kind)
  | .single name =>
    if modes.unicode then (classOfName? name).bind (modes.finish? negated) else none
  | .value property value =>
    if modes.unicode then (classOfValue? property value).bind (modes.finish? negated) else none

/-- The combination of two classes. -/
def combine (modes : Modes) (operation : Operation) (left right : CharSet) : CharSet :=
  match operation with
  | .inter => (modes.fold left).inter (modes.fold right)
  | .diff => (modes.fold left).diff (modes.fold right)
  | .symmDiff => (modes.fold left).symmDiff (modes.fold right)

mutual

/-- The members of a bracketed class, before case is taken into account. -/
def members? (modes : Modes) : Members → Option CharSet
  | .sign sign => (modes.member? sign).map fun code => ⟨[(code, code)]⟩
  | .range low high =>
    match modes.member? low, modes.member? high with
    | some low, some high => some ⟨[(low, high)]⟩
    | _, _ => none
  | .ascii name negated => modes.finish? negated (ascii name)
  | .named name negated => modes.named? negated name
  | .bracketed negated members => (members? modes members).bind (modes.finish? negated)
  | .union items => (unionOf? modes items).map CharSet.ofRanges
  | .operation operation left right =>
    match members? modes left, members? modes right with
    | some left, some right => some (modes.combine operation left right)
    | _, _ => none

/-- The ranges of all members that are listed. -/
def unionOf? (modes : Modes) : List Members → Option (List (Nat × Nat))
  | [] => some []
  | item :: rest =>
    match members? modes item, unionOf? modes rest with
    | some members, some ranges => some (members.ranges ++ ranges)
    | _, _ => none

end

/-- A class as an expression. -/
def classExpression (modes : Modes) (members : CharSet) : Expression :=
  .ofClass (!modes.unicode) members

/-- A character as an expression. A byte that is no ASCII character is never part of a text. -/
def sign? (modes : Modes) (sign : Sign) : Option Expression :=
  let code := sign.char.toNat
  if !modes.unicode && sign.isByte && 0x80 ≤ code then none
  else if modes.foldsCase && (modes.unicode || code < 0x80) then
    some (modes.classExpression (modes.fold ⟨[(code, code)]⟩))
  else some (.ofCode code)

/-- A dot as an expression. Only where classes hold Unicode characters does it end with them. -/
def dot? (modes : Modes) : Option Expression :=
  if !modes.unicode then none
  else
    let members : CharSet :=
      if modes.dotAll then .all
      else if modes.carriage then CharSet.all.diff ⟨[(0xa, 0xa), (0xd, 0xd)]⟩
      else CharSet.all.diff ⟨[(0xa, 0xa)]⟩
    some (modes.classExpression members)

/-- A place between characters as an anchor. -/
def anchor (modes : Modes) : Place → Anchor
  | .lineStart => if modes.multiLine then .lineStart modes.carriage else .textStart
  | .lineEnd => if modes.multiLine then .lineEnd modes.carriage else .textEnd
  | .textStart => .textStart
  | .textEnd => .textEnd
  | .word place => .word place modes.unicode

end Modes

mutual

/-- The expression of a tree. Flags change the modes for what follows them in their group. -/
def meaning : Tree → StateT Modes Option Expression
  | .empty => return .empty
  | .flags signs => do
    modify fun modes => modes.under signs
    return .empty
  | .sign sign => do (← get).sign? sign
  | .dot => do (← get).dot?
  | .place place => do return .anchor ((← get).anchor place)
  | .named name negated => do
    let modes ← get
    let members ← modes.named? negated name
    return modes.classExpression members
  | .bracketed negated members => do
    let modes ← get
    let members ← (modes.members? members).bind (modes.finish? negated)
    return modes.classExpression members
  | .repeated repetition part => do
    let expression ← meaning part
    let greedy := if (← get).swapsGreed then !repetition.greedy else repetition.greedy
    return .ofRepetition { repetition with greedy } expression
  | .capture number body => do
    let modes ← get
    let expression ← meaning body
    set modes
    return .capture number expression
  | .group signs body => do
    let modes ← get
    set (modes.under signs)
    let expression ← meaning body
    set modes
    return expression
  | .sequence parts => do return .ofSequence (← meanings parts)
  | .choice branches => do return .ofChoice (← meanings branches)

/-- The expressions of trees one after the other. -/
def meanings : List Tree → StateT Modes Option (List Expression)
  | [] => return []
  | tree :: rest => do
    let expression ← meaning tree
    return expression :: (← meanings rest)

end

/-- The expression of a whole pattern, if all its classes exist. -/
def Tree.expression? (tree : Tree) : Option Expression :=
  ((meaning tree).run {}).map Prod.fst

end PipelineConfig.Pattern
