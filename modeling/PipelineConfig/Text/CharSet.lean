/-!
# Sets of characters

A set of characters is kept as ranges of code points in ascending order. Surrogates are no
characters: the ranges before and after them do not touch, although nothing lies between them.
-/

namespace PipelineConfig.Text

/-- A set of characters. -/
structure CharSet where
  /-- The first and the last code point of every range. -/
  ranges : List (Nat × Nat)
deriving DecidableEq, Repr

namespace CharSet

/-- The set without members. -/
def empty : CharSet := ⟨[]⟩

/-- The greatest code point. -/
def greatest : Nat := 0x10ffff

/-- The set of all characters. -/
def all : CharSet := ⟨[(0, greatest)]⟩

/-- The code point of the next character. -/
def after (code : Nat) : Nat := if code = 0xd7ff then 0xe000 else code + 1

/-- The code point of the character before. -/
def before (code : Nat) : Nat := if code = 0xe000 then 0xd7ff else code - 1

/-- Join ranges that overlap or touch. -/
def join (current : Nat × Nat) : List (Nat × Nat) → List (Nat × Nat)
  | [] => [current]
  | next :: rest =>
    if next.1 ≤ current.2 + 1 then join (current.1, max current.2 next.2) rest
    else current :: join next rest

/-- The set of the members of ranges in any order. -/
def ofRanges (ranges : List (Nat × Nat)) : CharSet :=
  match ranges.mergeSort fun left right =>
      left.1 < right.1 || (left.1 == right.1 && left.2 ≤ right.2) with
  | [] => empty
  | first :: rest => ⟨join first rest⟩

/-- Whether a set has no members. -/
def isEmpty (set : CharSet) : Bool := set.ranges.isEmpty

/-- Whether a code point is a member. -/
def contains (set : CharSet) (code : Nat) : Bool :=
  set.ranges.any fun range => range.1 ≤ code && code ≤ range.2

/-- Whether all members are ASCII. -/
def isAscii (set : CharSet) : Bool := set.ranges.all fun range => range.2 < 0x80

/-- The only member of a set with one member. -/
def single? (set : CharSet) : Option Nat :=
  match set.ranges with
  | [(low, high)] => if low = high then some low else none
  | _ => none

/-- The members of two sets. -/
def union (left right : CharSet) : CharSet :=
  if right.isEmpty then left else ofRanges (left.ranges ++ right.ranges)

/-- The ranges that two lists of ranges share. -/
def interRanges : List (Nat × Nat) → List (Nat × Nat) → List (Nat × Nat)
  | [], _ | _, [] => []
  | (low, high) :: lefts, (low', high') :: rights =>
    let rest :=
      if high < high' then interRanges lefts ((low', high') :: rights)
      else interRanges ((low, high) :: lefts) rights
    if max low low' ≤ min high high' then (max low low', min high high') :: rest else rest
termination_by left right => left.length + right.length

/-- The members that two sets share. -/
def inter (left right : CharSet) : CharSet := ⟨interRanges left.ranges right.ranges⟩

/-- The parts of ranges that are outside of other ranges. -/
def diffRanges : List (Nat × Nat) → List (Nat × Nat) → List (Nat × Nat)
  | [], _ => []
  | lefts, [] => lefts
  | (low, high) :: lefts, (low', high') :: rights =>
    if high' < low then diffRanges ((low, high) :: lefts) rights
    else if high < low' then (low, high) :: diffRanges lefts ((low', high') :: rights)
    else
      let rest :=
        if high' < high then diffRanges ((after high', high) :: lefts) rights
        else diffRanges lefts ((low', high') :: rights)
      if low < low' then (low, before low') :: rest else rest
termination_by left right => left.length + right.length

/-- The members of a set that are not in another set. -/
def diff (left right : CharSet) : CharSet := ⟨diffRanges left.ranges right.ranges⟩

/-- The members of exactly one of two sets. -/
def symmDiff (left right : CharSet) : CharSet := (left.union right).diff (left.inter right)

/-- What lies between the end of a range and the ranges after it. Between the last character before
the surrogates and the first one behind them lies nothing; there these two take the place of the
gap. -/
def gaps (previous : Nat) : List (Nat × Nat) → List (Nat × Nat)
  | [] => if previous < greatest then [(after previous, greatest)] else []
  | (low, high) :: rest =>
    (min (after previous) (before low), max (after previous) (before low)) :: gaps high rest

/-- The characters that are not members. -/
def complement (set : CharSet) : CharSet :=
  match set.ranges with
  | [] => all
  | (low, high) :: rest =>
    if 0 < low then ⟨(0, before low) :: gaps high rest⟩ else ⟨gaps high rest⟩

end CharSet

end PipelineConfig.Text
