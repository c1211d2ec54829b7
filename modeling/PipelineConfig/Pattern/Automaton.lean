import PipelineConfig.Pattern.Expression
import PipelineConfig.Text.Utf8
import Std.Data.HashMap

/-!
# Size of automata

A pattern is matched by two automata, one that reads a text forward and one that reads it backward.
They are not built here: only their states are counted, and the bytes that they take. A pattern
whose automata would take too many bytes is refused. States for equal ranges of bytes are shared
within a class as far as a table of limited size remembers them, so the numbers of the states count
as well.
-/

namespace PipelineConfig.Pattern

open PipelineConfig.Text

/-- How far an automaton is built. -/
structure Extent where
  /-- The number of states. -/
  states : Nat := 0
  /-- The number of bytes for steps from one state to several others. -/
  stepBytes : Nat := 0
deriving DecidableEq, Repr

/-- The number of bytes of a state. -/
def stateBytes : Nat := 32

/-- The number of bytes of a step that no byte of the text belongs to. -/
def branchBytes : Nat := 4

/-- The number of bytes of a step that a range of bytes belongs to. -/
def rangeBytes : Nat := 8

/-- The number of bytes that an automaton may take. -/
def maxBytes : Nat := 10 <<< 20

/-- The number of bytes that an automaton takes. -/
def Extent.bytes (extent : Extent) : Nat := stateBytes * extent.states + extent.stepBytes

/-- A step of building, which fails when the automaton takes too many bytes. -/
abbrev Building := StateT Extent Option

namespace Building

/-- Add states, and bytes for steps. -/
def add (states stepBytes : Nat) : Building Unit := do
  let extent ← get
  let extent : Extent := ⟨extent.states + states, extent.stepBytes + stepBytes⟩
  if extent.bytes ≤ maxBytes then set extent else failure

/-- Add a state with steps for ranges of bytes, and give its number. -/
def addState (ranges : Nat) : Building Nat := do
  let number := (← get).states
  add 1 (rangeBytes * ranges)
  return number

/-! ## Texts of a choice -/

/-- The texts after their first byte, for those that begin with a given byte. -/
def tailsAfter (byte : UInt8) (texts : List (List UInt8)) : List (List UInt8) :=
  texts.filterMap fun text =>
    match text with
    | first :: rest => if first = byte then some rest else none
    | [] => none

/-- Divide texts at the ends of texts that are empty. -/
def segments : List (List UInt8) → List (List (List UInt8))
  | [] => [[]]
  | [] :: rest => [] :: segments rest
  | text :: rest =>
    match segments rest with
    | segment :: others => (text :: segment) :: others
    | [] => [[text]]

/-- The texts that are left when an empty text at the start is given once. -/
def withoutRepeatedEnds : List (List UInt8) → List (List UInt8)
  | [] :: rest => [] :: rest.dropWhile List.isEmpty
  | texts => texts

/-- The number of states and of bytes for steps of a tree of texts that share their starts, up to a
length. Texts that follow the end of another one do not share theirs with the texts before it. -/
def treeExtent : Nat → List (List UInt8) → Extent
  | 0, _ => {}
  | length + 1, texts =>
    if texts.all List.isEmpty then {}
    else
      let segments := segments (withoutRepeatedEnds texts)
      let parts := segments.map fun segment =>
        (segment.filterMap List.head?).eraseDups.map fun byte => tailsAfter byte segment
      let choices := (parts.filter fun tails => !tails.isEmpty).map List.length
      let steps := (choices.map fun count => if count = 1 then 0 else count).sum
      let inner := parts.flatten.map (treeExtent length)
      { states := choices.length + 1 + (inner.map Extent.states).sum
        stepBytes := rangeBytes * steps + branchBytes * (choices.length + (segments.length - 1)) +
          (inner.map Extent.stepBytes).sum }

/-! ## Classes of characters -/

/-- Scatter numbers over a number of places. -/
def scatter (places : UInt64) (numbers : List Nat) : UInt64 :=
  numbers.foldl (fun hash number => (hash ^^^ number.toUInt64) * 1099511628211)
    14695981039346656037 % places

/-- A table that keeps one state for every place: the last one with what it is made of. -/
abbrev Memory := Std.HashMap UInt64 (List Nat × Nat)

/-- The state that is remembered for what it is made of. -/
def remembered? (memory : Memory) (place : UInt64) (key : List Nat) : Option Nat :=
  match memory[place]? with
  | some (known, number) => if known = key then some number else none
  | none => none

/-- The number of places of the table for states that read backward. -/
def backwardPlaces : UInt64 := 1000

/-- The number of places of the table for states that read forward. -/
def forwardPlaces : UInt64 := 10000

/-- Add the states of a sequence of ranges of bytes that is read backward, each of which leads to
the state before it. -/
def addBackward (memory : Memory) (next : Nat) : List Utf8.ByteRange → Building Memory
  | [] => return memory
  | (low, high) :: rest => do
    let key := [next, low, high]
    let place := scatter backwardPlaces key
    match remembered? memory place key with
    | some number => addBackward memory number rest
    | none =>
      let number ← addState 0
      addBackward (memory.insert place (key, number)) number rest

/-- Add the states of a class that is read backward: a choice of sequences with one end. -/
def addClassBackward (members : CharSet) : Building Unit := do
  let ending := (← get).states + 1
  add 2 0
  let step (memory : Memory) (sequence : List Utf8.ByteRange) : Building Memory := do
    let memory ← addBackward memory ending sequence
    add 0 branchBytes
    return memory
  let _ ← (Utf8.ofSet members).foldlM step ∅

/-- Put sequences together that are next to one another and begin with the same range. -/
def byFirst : List (List Utf8.ByteRange) → List (Utf8.ByteRange × List (List Utf8.ByteRange))
  | [] => []
  | [] :: rest => byFirst rest
  | (range :: tail) :: rest =>
    match byFirst rest with
    | (range', tails) :: others =>
      if range = range' then (range, tail :: tails) :: others
      else (range, [tail]) :: (range', tails) :: others
    | [] => [(range, [tail])]

/-- Add the state from which sequences up to a length are read forward to their end, after the
states to which it leads. Give its number. -/
def addForward (ending : Nat) : Nat → List (List Utf8.ByteRange) → Memory →
    Building (Nat × Memory)
  | 0, _, memory => return (ending, memory)
  | length + 1, sequences, memory => do
    if sequences.all List.isEmpty then return (ending, memory)
    let groups := byFirst sequences
    let step (built : List Nat × Memory) (group : Utf8.ByteRange × List (List Utf8.ByteRange)) :
        Building (List Nat × Memory) := do
      let (next, memory) ← addForward ending length group.2 built.2
      return (next :: group.1.2 :: group.1.1 :: built.1, memory)
    let (steps, memory) ← groups.foldlM step ([], memory)
    let key := steps.reverse
    let place := scatter forwardPlaces key
    match remembered? memory place key with
    | some number => return (number, memory)
    | none =>
      let number ← addState groups.length
      return (number, memory.insert place (key, number))

/-- The greatest number of bytes of a character. -/
def maxLength : Nat := 4

/-- Add the states of a class that is read forward. -/
def addClassForward (members : CharSet) : Building Unit := do
  let ending ← addState 0
  let _ ← addForward ending maxLength (Utf8.ofSet members) ∅

/-- Add the states of a class. One of ASCII members needs a state for all of them and one behind
it. -/
def addClass (backward : Bool) (members : CharSet) : Building Unit :=
  if members.isAscii then add 2 (rangeBytes * members.ranges.length)
  else if backward then addClassBackward members
  else addClassForward members

/-! ## Expressions -/

/-- Lead from a state to another one. Only from a state that branches this takes a step of its
own. -/
def link (branches : Bool) : Building Unit := if branches then add 0 branchBytes else return

/-- Build several automata one after the other, where the state before them branches or does not.
Give whether the last state branches. -/
def chain (branches : Bool) : List (Building Bool) → Building Bool
  | [] => return branches
  | automaton :: rest => do
    let last ← automaton
    link branches
    chain last rest

/-- Build an automaton a number of times, one after the other. -/
def repeatAfter (branches : Bool) (automaton : Building Bool) : Nat → Building Bool
  | 0 => return branches
  | times + 1 => do
    let last ← automaton
    link branches
    repeatAfter last automaton times

/-- Build an automaton a number of times; if that is no time, a state that does nothing. -/
def exactly (automaton : Building Bool) : Nat → Building Bool
  | 0 => do
    add 1 0
    return false
  | times + 1 => do repeatAfter (← automaton) automaton times

/-- Build an automaton a number of times, each of which may be the last. -/
def upTo (branches : Bool) (automaton : Building Bool) : Nat → Building Bool
  | 0 => return branches
  | times + 1 => do
    add 1 (2 * branchBytes)
    let last ← automaton
    link branches
    upTo last automaton times

/-- Build a repetition of an automaton, which may or may not match the empty text. -/
def repetition (automaton : Building Bool) (isNeverEmpty : Bool) (least : Nat) :
    Option Nat → Building Bool
  | none =>
    match least with
    | 0 =>
      if isNeverEmpty then do
        add 1 branchBytes
        link (← automaton)
        return true
      else do
        link (← automaton)
        add 3 (4 * branchBytes)
        return false
    | 1 => do
      link (← automaton)
      add 1 branchBytes
      return true
    | times + 1 => do
      let before ← exactly automaton times
      let last ← automaton
      link before
      link last
      add 1 branchBytes
      return true
  | some most =>
    if least = 0 ∧ most = 1 then do
      add 1 (2 * branchBytes)
      link (← automaton)
      add 1 0
      return false
    else if least = most then exactly automaton least
    else do
      let before ← exactly automaton least
      add 1 0
      link (← upTo before automaton (most - least))
      return false

/-- Build a choice of automata: the first two, a state that leads to all of them and one to which
all of them lead, and then the others. -/
def choice : List (Building Bool) → Building Bool
  | first :: second :: rest => do
    let firstLast ← first
    let secondLast ← second
    add 2 (2 * branchBytes)
    link firstLast
    link secondLast
    let other (automaton : Building Bool) : Building Unit := do
      link (← automaton)
      add 0 branchBytes
    rest.forM other
    return false
  | [only] => only
  | [] => do
    add 1 0
    return false

/-- The bytes of branches that are all texts. -/
def texts? (branches : List Expression) : Option (List (List UInt8)) :=
  branches.mapM fun branch =>
    match branch with
    | .literal bytes => some bytes
    | _ => none

/-- Build a choice of texts. -/
def choiceOfTexts (backward : Bool) (texts : List (List UInt8)) : Building Bool := do
  let texts := if backward then texts.map List.reverse else texts
  let length := (texts.map List.length).foldl max 0
  let extent := treeExtent (length + 1) texts
  add (extent.states + 1) extent.stepBytes
  return false

mutual

/-- Build the automaton of an expression. Give whether its last state branches. -/
def expression (backward : Bool) : Expression → Building Bool
  | .empty | .anchor _ => do
    add 1 0
    return false
  | .literal bytes => do
    add bytes.length 0
    return false
  | .oneOf _ members => do
    addClass backward members
    return false
  | .repeated times part =>
    repetition (expression backward part) (part.least?.any (0 < ·)) times.least times.most
  | .capture _ body =>
    if backward then expression backward body
    else do
      add 1 0
      link (← expression backward body)
      add 1 0
      return false
  | .sequence parts => do
    let automata := expressions backward parts
    match if backward then automata.reverse else automata with
    | first :: rest => chain (← first) rest
    | [] => return false
  | .choice branches =>
    match texts? branches with
    | some texts => choiceOfTexts backward texts
    | none => choice (expressions backward branches)

/-- The building of each of several expressions. -/
def expressions (backward : Bool) : List Expression → List (Building Bool)
  | [] => []
  | part :: rest => expression backward part :: expressions backward rest

end

end Building

namespace Expression

mutual

/-- Whether an expression begins at the start of the text, or ends at its end when read backward. -/
def isAnchored (backward : Bool) : Expression → Bool
  | anchor place => place == if backward then .textEnd else .textStart
  | repeated repetition part => 0 < repetition.least && part.isAnchored backward
  | capture _ body => body.isAnchored backward
  | sequence parts =>
    if backward then endsAnchored parts false else startsAnchored parts
  | choice branches => areAnchored backward branches
  | empty | literal _ | oneOf .. => false

/-- Whether one of the first expressions begins at the start of the text, and only such come before
it as are always empty. -/
def startsAnchored : List Expression → Bool
  | [] => false
  | part :: rest => part.isAnchored false || (part.isVoid && startsAnchored rest)

/-- Whether one of the last expressions ends at the end of the text, and only such come after it as
are always empty. `found` tells whether this is so of the expressions before. -/
def endsAnchored : List Expression → Bool → Bool
  | [], found => found
  | part :: rest, found => endsAnchored rest (part.isAnchored true || (part.isVoid && found))

/-- Whether each of several expressions begins or ends there. -/
def areAnchored (backward : Bool) : List Expression → Bool
  | [] => true
  | branch :: rest => branch.isAnchored backward && areAnchored backward rest

end

/-- Build the automaton of a whole pattern: states that pass over what comes before a match, unless
a match is at one end of the text; the expression, whose match is kept when it is read forward; and
the final state. -/
def automaton (backward : Bool) (expression : Expression) : Building Unit := do
  if expression.isAnchored backward then Building.add 1 0
  else Building.add 3 (rangeBytes + 2 * branchBytes)
  Building.link (← Building.expression backward (if backward then expression else
    .capture 0 expression))
  Building.add 1 0

/-- The number of texts from which on a choice of texts needs no automaton. -/
def manyTexts : Nat := 3000

/-- Whether an expression is a choice of so many texts that they are looked up in a table. -/
def isTableOfTexts : Expression → Bool
  | choice branches => manyTexts ≤ branches.length && (Building.texts? branches).isSome
  | _ => false

/-- Whether neither automaton of an expression takes too many bytes. -/
def isBearable (expression : Expression) : Bool :=
  expression.isTableOfTexts ||
    ((expression.automaton false).run {}).isSome && ((expression.automaton true).run {}).isSome

end Expression

end PipelineConfig.Pattern
