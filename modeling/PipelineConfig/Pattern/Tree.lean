/-!
# Trees of patterns

What a pattern says, part by part, before its modes are taken into account. A tree that nests too
deeply is no pattern.
-/

namespace PipelineConfig.Pattern

/-- A character that stands for itself. -/
structure Sign where
  /-- The character. -/
  char : Char
  /-- Whether it is written with two hexadecimal digits, so that it may be a byte. -/
  isByte : Bool := false
deriving DecidableEq, Repr

/-- Classes with an escape of their own. -/
inductive Shorthand where
  /-- Decimal digits. -/
  | digit
  /-- White space. -/
  | blank
  /-- Letters, digits and what connects them. -/
  | word
deriving DecidableEq, Repr

/-- Classes that have a name. -/
inductive ClassName where
  /-- A class with an escape of its own. -/
  | shorthand (kind : Shorthand)
  /-- A general category, property or script. -/
  | single (name : List Char)
  /-- The value of a property. -/
  | value (property value : List Char)
deriving DecidableEq, Repr

/-- What two classes can be combined to. -/
inductive Operation where
  /-- The members of both. -/
  | inter
  /-- The members of the first that are not in the second. -/
  | diff
  /-- The members of exactly one. -/
  | symmDiff
deriving DecidableEq, Repr

/-- The members of a bracketed class. -/
inductive Members where
  /-- A character. -/
  | sign (sign : Sign)
  /-- The characters from one to another. -/
  | range (low high : Sign)
  /-- A named class of ASCII characters, perhaps negated. -/
  | ascii (name : String) (negated : Bool)
  /-- Another class with a name, perhaps negated. -/
  | named (name : ClassName) (negated : Bool)
  /-- Another bracketed class, perhaps negated. -/
  | bracketed (negated : Bool) (members : Members)
  /-- All that is listed. -/
  | union (items : List Members)
  /-- A combination of two classes. -/
  | operation (operation : Operation) (left right : Members)
deriving Repr

namespace Members

/-- The members that are listed, where a single one stands for itself. -/
def listed : List Members → Members
  | [item] => item
  | items => union items

mutual

/-- How deeply members nest. -/
def depth : Members → Nat
  | sign _ | range .. | ascii .. | named .. | union [] => 0
  | bracketed _ members => members.depth + 1
  | union (item :: items) => max item.depth (depths items) + 1
  | operation _ left right => max left.depth right.depth + 1

/-- How deeply one of several members nests. -/
def depths : List Members → Nat
  | [] => 0
  | item :: rest => max item.depth (depths rest)

end

end Members

/-- Places between characters that a word decides. -/
inductive WordPlace where
  /-- The start or end of a word. -/
  | boundary
  /-- Any other place. -/
  | noBoundary
  /-- The start of a word. -/
  | start
  /-- The end of a word. -/
  | ending
  /-- A place with no part of a word before it. -/
  | startHalf
  /-- A place with no part of a word after it. -/
  | endHalf
deriving DecidableEq, Repr

/-- Places between characters. -/
inductive Place where
  /-- The start of the text or, in one mode, of a line. -/
  | lineStart
  /-- The end of the text or, in one mode, of a line. -/
  | lineEnd
  /-- The start of the text. -/
  | textStart
  /-- The end of the text. -/
  | textEnd
  /-- A place that a word decides. -/
  | word (place : WordPlace)
deriving DecidableEq, Repr

/-- How often a part is repeated. -/
structure Repetition where
  /-- The least number of times. -/
  least : Nat
  /-- The greatest number of times, if there is one. -/
  most : Option Nat
  /-- Whether more times are preferred. -/
  greedy : Bool
deriving DecidableEq, Repr

/-- A part of a pattern. -/
inductive Tree where
  /-- Nothing. -/
  | empty
  /-- Flags that set the modes for the rest of the group. -/
  | flags (signs : List Char)
  /-- A character. -/
  | sign (sign : Sign)
  /-- Any character. -/
  | dot
  /-- A place between characters. -/
  | place (place : Place)
  /-- A class with a name, perhaps negated. -/
  | named (name : ClassName) (negated : Bool)
  /-- A bracketed class, perhaps negated. -/
  | bracketed (negated : Bool) (members : Members)
  /-- A part that is repeated. -/
  | repeated (repetition : Repetition) (part : Tree)
  /-- A group whose match is kept under a number. -/
  | capture (number : Nat) (body : Tree)
  /-- A group with flags of its own. -/
  | group (signs : List Char) (body : Tree)
  /-- Several parts one after the other. -/
  | sequence (parts : List Tree)
  /-- Several branches of which one is chosen. -/
  | choice (branches : List Tree)
deriving Repr

namespace Tree

/-- Parts one after the other, where a single one stands for itself. -/
def ofParts : List Tree → Tree
  | [] => empty
  | [part] => part
  | parts => sequence parts

/-- Branches of which one is chosen, where a single one stands for itself. -/
def ofBranches : List Tree → Tree
  | [branch] => branch
  | branches => choice branches

/-- Whether a part can be repeated: flags cannot. -/
def isRepeatable : Tree → Bool
  | empty | flags _ => false
  | _ => true

mutual

/-- How deeply a tree nests. -/
def depth : Tree → Nat
  | empty | flags _ | sign _ | dot | place _ | named .. => 0
  | bracketed _ members => members.depth + 1
  | repeated _ part => part.depth + 1
  | capture _ body | group _ body => body.depth + 1
  | sequence parts => depths parts + 1
  | choice branches => depths branches + 1

/-- How deeply one of several trees nests. -/
def depths : List Tree → Nat
  | [] => 0
  | tree :: rest => max tree.depth (depths rest)

end

end Tree

end PipelineConfig.Pattern
