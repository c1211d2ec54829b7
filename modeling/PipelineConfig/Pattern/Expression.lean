import PipelineConfig.Pattern.Tree
import PipelineConfig.Text.CharSet

/-!
# Expressions

What a pattern means, part by part, after its modes are taken into account. Expressions are only
made by functions that simplify them: texts next to one another are one text, a class with one
member is a text, branches that are all single characters or classes are one class, and branches
with equal starts share them.
-/

namespace PipelineConfig.Pattern

open PipelineConfig.Text

/-- Places between characters under the modes of a pattern. -/
inductive Anchor where
  /-- The start of the text. -/
  | textStart
  /-- The end of the text. -/
  | textEnd
  /-- The start of a line, which a carriage return may end too. -/
  | lineStart (carriage : Bool)
  /-- The end of a line, which a carriage return may end too. -/
  | lineEnd (carriage : Bool)
  /-- A place that a word decides, whose signs may be Unicode characters or only ASCII. -/
  | word (place : WordPlace) (unicode : Bool)
deriving DecidableEq, Repr

/-- An expression. -/
inductive Expression where
  /-- Nothing. -/
  | empty
  /-- The bytes of a text. -/
  | literal (bytes : List UInt8)
  /-- A member of a class of characters or of bytes. -/
  | oneOf (ofBytes : Bool) (members : CharSet)
  /-- A place between characters. -/
  | anchor (anchor : Anchor)
  /-- An expression that is repeated. -/
  | repeated (repetition : Repetition) (part : Expression)
  /-- An expression whose match is kept under a number. -/
  | capture (number : Nat) (body : Expression)
  /-- Several expressions one after the other. -/
  | sequence (parts : List Expression)
  /-- Several expressions of which one is chosen. -/
  | choice (branches : List Expression)
deriving Repr

namespace Expression

/-- The number of bytes of a character. -/
def charLength (code : Nat) : Nat :=
  if code < 0x80 then 1 else if code < 0x800 then 2 else if code < 0x10000 then 3 else 4

mutual

/-- The least number of bytes that an expression matches, unless some part matches nothing at
all. -/
def least? : Expression → Option Nat
  | empty | anchor _ => some 0
  | literal bytes => some bytes.length
  | oneOf _ members => members.ranges.head?.map fun range => charLength range.1
  | repeated repetition part => part.least?.map (· * repetition.least)
  | capture _ body => body.least?
  | sequence parts => leastSum? parts
  | choice branches => leastOf? branches

/-- The least number of bytes that expressions match one after the other. -/
def leastSum? : List Expression → Option Nat
  | [] => some 0
  | part :: rest =>
    match part.least?, leastSum? rest with
    | some first, some others => some (first + others)
    | _, _ => none

/-- The least number of bytes that one of several expressions matches. -/
def leastOf? : List Expression → Option Nat
  | [] => none
  | [branch] => branch.least?
  | branch :: rest =>
    match branch.least?, leastOf? rest with
    | some first, some others => some (min first others)
    | _, _ => none

end

mutual

/-- Whether an expression matches the empty text and no other. -/
def isVoid : Expression → Bool
  | empty | anchor _ => true
  | literal bytes => bytes.isEmpty
  | oneOf .. => false
  | repeated _ part => part.isVoid
  | capture _ body => body.isVoid
  | sequence parts => areVoid parts
  | choice branches => areVoid branches

/-- Whether each of several expressions matches the empty text and no other. -/
def areVoid : List Expression → Bool
  | [] => true
  | part :: rest => part.isVoid && areVoid rest

end

mutual

/-- Whether two expressions are the same. -/
def same : Expression → Expression → Bool
  | empty, empty => true
  | literal bytes, literal bytes' => bytes == bytes'
  | oneOf ofBytes members, oneOf ofBytes' members' => ofBytes == ofBytes' && members == members'
  | anchor place, anchor place' => place == place'
  | repeated repetition part, repeated repetition' part' =>
    repetition == repetition' && part.same part'
  | capture number body, capture number' body' => number == number' && body.same body'
  | sequence parts, sequence parts' => sameAll parts parts'
  | choice branches, choice branches' => sameAll branches branches'
  | _, _ => false

/-- Whether two lists hold the same expressions. -/
def sameAll : List Expression → List Expression → Bool
  | [], [] => true
  | part :: rest, part' :: rest' => part.same part' && sameAll rest rest'
  | _, _ => false

end

/-! ## Making expressions -/

/-- The expression that matches nothing at all. -/
def nothing : Expression := oneOf true .empty

/-- A text of one character. -/
def ofCode (code : Nat) : Expression := literal (String.utf8EncodeChar (Char.ofNat code))

/-- A member of a class. -/
def ofClass (ofBytes : Bool) (members : CharSet) : Expression :=
  if members.isEmpty then nothing
  else
    match members.single? with
    | some code => ofCode code
    | none => oneOf ofBytes members

/-- An expression that is repeated. Repeating what is always empty changes nothing. -/
def ofRepetition (repetition : Repetition) (part : Expression) : Expression :=
  let repetition :=
    if part.isVoid then
      { repetition with
        least := min repetition.least 1
        most := some (min (repetition.most.getD 1) 1) }
    else repetition
  if repetition.least = 0 && repetition.most = some 0 then empty
  else if repetition.least = 1 && repetition.most = some 1 then part
  else repeated repetition part

/-- The parts of a sequence; any other expression is its own only part, and nothing has none. -/
def parts : Expression → List Expression
  | sequence parts => parts
  | empty => []
  | expression => [expression]

/-- Join texts that are next to one another. -/
def joinLiterals : List Expression → List Expression
  | [] => []
  | part :: rest =>
    match part, joinLiterals rest with
    | literal bytes, literal others :: rest => literal (bytes ++ others) :: rest
    | part, rest => part :: rest

/-- Expressions one after the other. -/
def ofSequence (expressions : List Expression) : Expression :=
  match joinLiterals (expressions.flatMap parts) with
  | [] => empty
  | [part] => part
  | parts => sequence parts

/-- The branches of a choice; any other expression is its own only branch. -/
def branches : Expression → List Expression
  | choice branches => branches
  | expression => [expression]

/-- The code point of a text of one character. -/
def codeOf? : Expression → Option Nat
  | literal bytes =>
    match (String.fromUTF8? ⟨bytes.toArray⟩).map String.toList with
    | some [char] => some char.toNat
    | _ => none
  | _ => none

/-- The members of a class. -/
def membersOf? : Expression → Option CharSet
  | oneOf _ members => some members
  | _ => none

/-- The class that branches are together, if all are single characters or all are classes. -/
def classOf? (branches : List Expression) : Option CharSet :=
  match branches.mapM codeOf? with
  | some codes => some (CharSet.ofRanges (codes.map fun code => (code, code)))
  | none =>
    (branches.mapM membersOf?).map fun classes => CharSet.ofRanges (classes.flatMap CharSet.ranges)

/-- The number of parts with which two lists both start. -/
def commonLength : List Expression → List Expression → Nat
  | part :: rest, part' :: rest' => if part.same part' then commonLength rest rest' + 1 else 0
  | _, _ => 0

/-- The parts of an expression that is a sequence. -/
def sequenceParts? : Expression → Option (List Expression)
  | sequence parts => some parts
  | _ => none

/-- Expressions of which one is chosen. When all of them are sequences, what they start with is put
in front of the choice. Every time this is done the expressions become smaller, so it is not done
more often than their size. -/
def choose : Nat → List Expression → Expression
  | 0, branches => choice branches
  | times + 1, expressions =>
    match expressions.flatMap branches with
    | [] => nothing
    | [branch] => branch
    | branches =>
      match classOf? branches, branches.mapM sequenceParts? with
      | some members, _ => ofClass false members
      | none, some (first :: others) =>
        let length := others.foldl
          (fun length parts => min length (commonLength first parts)) first.length
        if length = 0 then choice branches
        else
          let rests := (first :: others).map fun parts => ofSequence (parts.drop length)
          ofSequence (first.take length ++ [choose times rests])
      | none, _ => choice branches

mutual

/-- The number of expressions in an expression. -/
def size : Expression → Nat
  | empty | literal _ | oneOf .. | anchor _ => 1
  | repeated _ part => part.size + 1
  | capture _ body => body.size + 1
  | sequence parts => sizes parts + 1
  | choice branches => sizes branches + 1

/-- The number of expressions in several expressions. -/
def sizes : List Expression → Nat
  | [] => 0
  | expression :: rest => expression.size + sizes rest

end

/-- Expressions of which one is chosen. -/
def ofChoice (expressions : List Expression) : Expression :=
  choose (sizes expressions + 1) expressions

end Expression

end PipelineConfig.Pattern
