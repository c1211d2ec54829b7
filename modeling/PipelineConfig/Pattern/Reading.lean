import PipelineConfig.Pattern.Tree
import PipelineConfig.Text.Blank
import PipelineConfig.Text.Split
import PipelineConfig.Text.Unicode.Property

/-!
# Reading patterns

Reads the tree of a pattern: groups with or without names and flags, alternatives, repetitions,
bracketed classes with set operations, escapes and named classes; neither look-around nor references
back. What is nested deeper than any pattern may be is refused while it is read.
-/

namespace PipelineConfig.Pattern

/-- The state of reading a pattern. -/
structure Cursor where
  /-- The characters not read yet. -/
  rest : List Char
  /-- Whether white space and comments are skipped. -/
  verbose : Bool := false
  /-- The number of groups opened so far whose matches are kept. -/
  captures : Nat := 0
  /-- The names of the groups opened so far. -/
  groupNames : List (List Char) := []

/-- A step of reading, which may find that the pattern is not well formed. -/
abbrev Reader := StateT Cursor Option

/-- The greatest depth to which patterns nest. -/
def maxDepth : Nat := 250

/-- Skip white space and comments that reach to the end of their line. -/
def skipVerbose (inComment : Bool) : List Char → List Char
  | [] => []
  | char :: rest =>
    if inComment then skipVerbose (char != '\n') rest
    else if Text.isBlankChar char then skipVerbose false rest
    else if char = '#' then skipVerbose true rest
    else char :: rest

/-- The characters after those that the mode lets one skip. -/
def Cursor.skipped (cursor : Cursor) : List Char :=
  if cursor.verbose then skipVerbose false cursor.rest else cursor.rest

/-- Go on at other characters. -/
def moveTo (rest : List Char) : Reader Unit := modify fun cursor => { cursor with rest }

/-- Skip what the mode lets one skip. -/
def skip : Reader Unit := modify fun cursor => { cursor with rest := cursor.skipped }

/-- The next character, if there is one. -/
def peek? : Reader (Option Char) := return (← get).rest.head?

/-- The next character; the pattern may not end here. -/
def peek : Reader Char := do
  match ← peek? with
  | some char => return char
  | none => failure

/-- Go past the next character. -/
def advance : Reader Unit := modify fun cursor => { cursor with rest := cursor.rest.drop 1 }

/-- Go past the next character and what can be skipped after it. -/
def advanceSkip : Reader Unit := do
  advance
  skip

/-- Go past a fixed text if it comes next. -/
def accept (text : List Char) : Reader Bool := do
  let cursor ← get
  if text.isPrefixOf cursor.rest then
    moveTo (cursor.rest.drop text.length)
    return true
  else return false

/-- Refuse the pattern unless a condition holds. -/
def require (condition : Bool) : Reader Unit := if condition then return () else failure

/-- Whether a character may stand in the name of a group. -/
def isGroupNameChar (first : Bool) (char : Char) : Bool :=
  char == '_' || Text.Unicode.alphabetic.contains char.toNat ||
    (!first && (char == '.' || char == '[' || char == ']' ||
      Text.Unicode.numeric.contains char.toNat))

/-- Signs that have a meaning of their own and can be escaped to lose it. -/
def isMeta (char : Char) : Bool := "\\.+*?()|[]\x7b\x7d^$#&-~".toList.contains char

/-- Characters that a backslash may stand before without changing them. -/
def isEscapable (char : Char) : Bool :=
  isMeta char || (char.val < 128 && !char.isAlphanum && char != '<' && char != '>')

/-- The value of a hexadecimal digit. -/
def hexValue? (char : Char) : Option Nat :=
  if char.isDigit then some (char.toNat - 48)
  else if 'a' ≤ char ∧ char ≤ 'f' then some (char.toNat - 87)
  else if 'A' ≤ char ∧ char ≤ 'F' then some (char.toNat - 55)
  else none

/-- The number that hexadecimal digits write. -/
def hexNumber? (digits : List Char) : Option Nat :=
  digits.foldlM (fun value digit => (hexValue? digit).map (16 * value + ·)) 0

/-- The character of a code point; surrogates have none. -/
def charOf? (code : Nat) : Option Char :=
  if valid : code.isValidChar then some (Char.ofNatAux code valid) else none

/-- What an escape can stand for. -/
inductive Escape where
  /-- A character. -/
  | sign (sign : Sign)
  /-- A class with a name, perhaps negated. -/
  | named (name : ClassName) (negated : Bool)
  /-- A place between characters. -/
  | place (place : Place)

/-- The character of a hexadecimal number. -/
def hexSign (digits : List Char) (isByte : Bool) : Reader Escape := do
  let some code := hexNumber? digits | failure
  let some char := charOf? code | failure
  return .sign { char, isByte }

/-- Read a fixed number of digits. -/
def hexDigits : Nat → Reader (List Char)
  | 0 => return []
  | count + 1 => do
    let char ← peek
    require (hexValue? char).isSome
    advanceSkip
    return char :: (← hexDigits count)

/-- Read characters up to a closing brace, which is read as well. -/
def upToBrace : Nat → Reader (List Char)
  | 0 => failure
  | fuel + 1 => do
    let char ← peek
    if char = '\x7d' then return []
    else
      advanceSkip
      return char :: (← upToBrace fuel)

/-- Read the number after `\x`, `\u` or `\U`. -/
def hexEscape (count : Nat) : Reader Escape := do
  advanceSkip
  if (← peek) = '\x7b' then
    advanceSkip
    let digits ← upToBrace ((← get).rest.length + 1)
    require (!digits.isEmpty)
    advanceSkip
    hexSign digits false
  else hexSign (← hexDigits count) (count = 2)

/-- The class that the text between braces asks for. -/
def ClassName.ofText (text : List Char) : ClassName :=
  match Text.afterFirst? ['!', '='] text with
  | some rest => .value (Text.beforeFirst ['!', '='] text) rest
  | none =>
    match Text.afterFirst? [':'] text with
    | some rest => .value (Text.beforeFirst [':'] text) rest
    | none =>
      match Text.afterFirst? ['='] text with
      | some rest => .value (Text.beforeFirst ['='] text) rest
      | none => .single text

/-- Read the name after `\p` or `\P`. -/
def unicodeClass : Reader ClassName := do
  advanceSkip
  let char ← peek
  if char = '\x7b' then
    advanceSkip
    let text ← upToBrace ((← get).rest.length + 1)
    advance
    return .ofText text
  else
    require (char != '\\')
    advanceSkip
    return .single [char]

/-- Signs that may stand in the braces of a word boundary. -/
def isBoundaryChar (char : Char) : Bool := char.isAlpha || char == '-'

/-- Read the signs of a word boundary in braces. -/
def boundaryName : Nat → Reader (List Char)
  | 0 => failure
  | fuel + 1 => do
    match ← peek? with
    | some char =>
      if isBoundaryChar char then
        advanceSkip
        return char :: (← boundaryName fuel)
      else return []
    | none => return []

/-- The place that a word boundary in braces names. -/
def wordPlace? : String → Option WordPlace
  | "start" => some .start
  | "end" => some .ending
  | "start-half" => some .startHalf
  | "end-half" => some .endHalf
  | _ => none

/-- Read what may follow `\b` in braces; braces that do not start like a word are left alone. -/
def wordBoundary : Reader WordPlace := do
  let start := (← get).rest
  if start.head? = some '\x7b' then
    advanceSkip
    if isBoundaryChar (← peek) then
      let name ← boundaryName ((← get).rest.length + 1)
      require ((← peek) = '\x7d')
      advance
      let some place := wordPlace? (String.ofList name) | failure
      return place
    else
      moveTo start
      return .boundary
  else return .boundary

/-- What a letter after a backslash stands for, if nothing follows that belongs to it. -/
def letterEscape? : Char → Option Escape
  | 'd' => some (.named (.shorthand .digit) false)
  | 'D' => some (.named (.shorthand .digit) true)
  | 's' => some (.named (.shorthand .blank) false)
  | 'S' => some (.named (.shorthand .blank) true)
  | 'w' => some (.named (.shorthand .word) false)
  | 'W' => some (.named (.shorthand .word) true)
  | 'a' => some (.sign { char := '\x07' })
  | 'f' => some (.sign { char := '\x0c' })
  | 't' => some (.sign { char := '\t' })
  | 'n' => some (.sign { char := '\n' })
  | 'r' => some (.sign { char := '\r' })
  | 'v' => some (.sign { char := '\x0b' })
  | 'A' => some (.place .textStart)
  | 'z' => some (.place .textEnd)
  | 'B' => some (.place (.word .noBoundary))
  | '<' => some (.place (.word .start))
  | '>' => some (.place (.word .ending))
  | _ => none

/-- Read an escape. -/
def escape : Reader Escape := do
  advance
  let char ← peek
  if char.isDigit then failure
  else if char = 'x' then hexEscape 2
  else if char = 'u' then hexEscape 4
  else if char = 'U' then hexEscape 8
  else if char = 'p' || char = 'P' then return .named (← unicodeClass) (char = 'P')
  else
    advance
    if isEscapable char then return .sign { char }
    else if char = 'b' then return .place (.word (← wordBoundary))
    else
      match letterEscape? char with
      | some escape => return escape
      | none => failure

/-- Read one member of a bracketed class. -/
def classItem : Reader Escape := do
  let char ← peek
  if char = '\\' then escape
  else
    advance
    return .sign { char }

/-- Read a member of a bracketed class or a range of them. -/
def classRange : Reader Members := do
  let first ← classItem
  skip
  let next ← peek
  let cursor ← get
  let after := ({ cursor with rest := cursor.rest.drop 1 } : Cursor).skipped.head?
  if next != '-' || after = some ']' || after = some '-' then
    match first with
    | .sign sign => return .sign sign
    | .named name negated => return .named name negated
    | .place _ => failure
  else
    advanceSkip
    let _ ← peek
    match first, ← classItem with
    | .sign low, .sign high =>
      require (low.char ≤ high.char)
      return .range low high
    | _, _ => failure

/-- The named classes of ASCII characters. -/
def asciiClasses : List String :=
  ["alnum", "alpha", "ascii", "blank", "cntrl", "digit", "graph", "lower", "print", "punct",
    "space", "upper", "word", "xdigit"]

/-- Read a named class such as `[:alpha:]`, if there is one. -/
def asciiClass? : Reader (Option Members) := do
  let start := (← get).rest
  if ← accept ['[', ':'] then
    let negated ← accept ['^']
    let rest := (← get).rest
    let name := rest.takeWhile (· != ':')
    moveTo (rest.drop name.length)
    if asciiClasses.contains (String.ofList name) then
      if ← accept [':', ']'] then return some (.ascii (String.ofList name) negated)
    moveTo start
    return none
  else return none

/-- Read literal hyphens at the start of a class. -/
def leadingHyphens : Nat → Reader (List Members)
  | 0 => failure
  | fuel + 1 => do
    if (← peek) = '-' then
      advanceSkip
      return .sign { char := '-' } :: (← leadingHyphens fuel)
    else return []

/-- A bracketed class whose end is not read yet. -/
structure OpenClass where
  /-- Whether the class is negated. -/
  negated : Bool
  /-- The members listed since the last operation, the last first. -/
  items : List Members
  /-- The last operation and what stands before it. -/
  pending : Option (Operation × Members) := none

/-- The members of an open class as far as they are read. -/
def OpenClass.members (started : OpenClass) : Members :=
  let items := Members.listed started.items.reverse
  match started.pending with
  | none => items
  | some (operation, left) => .operation operation left items

/-- Read the start of a bracketed class. A closing bracket right at the start is a member. -/
def classOpen : Reader OpenClass := do
  advanceSkip
  let negated := (← peek) = '^'
  if negated then advanceSkip
  let hyphens ← leadingHyphens ((← get).rest.length + 1)
  if hyphens.isEmpty && (← peek) = ']' then
    advanceSkip
    let _ ← peek
    return { negated, items := [.sign { char := ']' }] }
  else return { negated, items := hyphens }

/-- The operation that two signs stand for. -/
def operation? : List Char → Option Operation
  | '&' :: '&' :: _ => some .inter
  | '-' :: '-' :: _ => some .diff
  | '~' :: '~' :: _ => some .symmDiff
  | _ => none

/-- Read the members of the open classes, the innermost first, up to the end of the outermost. -/
def classBody : Nat → OpenClass → List OpenClass → Reader Tree
  | 0, _, _ => failure
  | fuel + 1, inner, outer => do
    skip
    let char ← peek
    let rest := (← get).rest
    if char = '[' then
      match ← asciiClass? with
      | some item => classBody fuel { inner with items := item :: inner.items } outer
      | none =>
        require (outer.length < maxDepth)
        classBody fuel (← classOpen) (inner :: outer)
    else if char = ']' then
      advance
      match outer with
      | [] => return .bracketed inner.negated inner.members
      | next :: others =>
        let item := Members.bracketed inner.negated inner.members
        classBody fuel { next with items := item :: next.items } others
    else
      match operation? rest with
      | some operation =>
        moveTo (rest.drop 2)
        let pending := some (operation, inner.members)
        classBody fuel { negated := inner.negated, items := [], pending } outer
      | none =>
        let item ← classRange
        classBody fuel { inner with items := item :: inner.items } outer

/-- Read a bracketed class. -/
def bracketed : Reader Tree := do
  let first ← classOpen
  classBody (2 * (← get).rest.length + 2) first []

/-- Read decimal digits, between which the mode may let one skip something. -/
def decimalDigits : Nat → Reader (List Char)
  | 0 => failure
  | fuel + 1 => do
    match ← peek? with
    | some char =>
      if char.isDigit then
        advanceSkip
        return char :: (← decimalDigits fuel)
      else return []
    | none => return []

/-- Read a decimal number in the braces of a repetition; white space around it is skipped. -/
def decimal? : Reader (Option Nat) := do
  moveTo ((← get).rest.dropWhile Text.isBlankChar)
  let digits ← decimalDigits ((← get).rest.length + 1)
  moveTo ((← get).rest.dropWhile Text.isBlankChar)
  skip
  if digits.isEmpty then return none
  else
    let value := digits.foldl (fun value digit => 10 * value + (digit.toNat - 48)) 0
    require (value < UInt32.size)
    return some value

/-- Read whether fewer times are preferred. -/
def lazyMark : Reader Bool := accept ['?']

/-- Read a repetition in braces. -/
def counted : Reader Repetition := do
  advanceSkip
  let _ ← peek
  let least ← decimal?
  let next ← peek
  let (least, most) ←
    if next = ',' then
      advanceSkip
      if (← peek) = '\x7d' then
        let some least := least | failure
        pure (least, none)
      else
        let some least := least | failure
        let some most ← decimal? | failure
        require (least ≤ most)
        pure (least, some most)
    else
      let some least := least | failure
      pure (least, some least)
  require ((← peek) = '\x7d')
  advanceSkip
  return { least, most, greedy := !(← lazyMark) }

/-- Read a repetition, which begins with a given sign. -/
def repetition (char : Char) : Reader Repetition := do
  if char = '\x7b' then counted
  else
    advance
    let greedy := !(← lazyMark)
    match char with
    | '?' => return { least := 0, most := some 1, greedy }
    | '*' => return { least := 0, most := none, greedy }
    | _ => return { least := 1, most := none, greedy }

/-- Read flags up to the sign that ends them; `seen` holds the signs read so far. -/
def flags (seen : List Char) : Nat → Reader (List Char)
  | 0 => failure
  | fuel + 1 => do
    let char ← peek
    if char = ':' || char = ')' then
      require (seen.getLast? != some '-')
      return seen
    else
      require ("imsUuRx-".toList.contains char && !seen.contains char)
      advance
      flags (seen ++ [char]) fuel

/-- What the flags say of one mode: set before the hyphen, cleared after it, else left alone. -/
def flagState (signs : List Char) (flag : Char) (current : Bool) : Bool :=
  if (signs.takeWhile (· != '-')).contains flag then true
  else if signs.contains flag then false
  else current

/-- Read the name of a group up to the closing angle. -/
def groupName (first : Bool) : Nat → Reader (List Char)
  | 0 => failure
  | fuel + 1 => do
    let char ← peek
    if char = '>' then return []
    else
      require (isGroupNameChar first char)
      advance
      return char :: (← groupName false fuel)

/-- How a parenthesis opens. -/
inductive Opening where
  /-- Flags for the rest of the enclosing group. -/
  | flags (signs : List Char)
  /-- A group with flags of its own. -/
  | group (signs : List Char)
  /-- A group whose match is kept under a number. -/
  | capture (number : Nat)

/-- The next group whose match is kept. -/
def nextCapture : Reader Opening := do
  let number := (← get).captures + 1
  modify fun cursor => { cursor with captures := number }
  return .capture number

/-- Read an opening parenthesis and what belongs to it. -/
def openGroup : Reader Opening := do
  advance
  skip
  let cursor ← get
  let lookAround := [['?', '='], ['?', '!'], ['?', '<', '='], ['?', '<', '!']].any
    fun sign => sign.isPrefixOf cursor.rest
  require (!lookAround)
  let named ← if ← accept ['?', 'P', '<'] then pure true else accept ['?', '<']
  if named then
    let name ← groupName true (cursor.rest.length + 1)
    advance
    require (!name.isEmpty && !cursor.groupNames.contains name)
    modify fun cursor => { cursor with groupNames := name :: cursor.groupNames }
    nextCapture
  else if ← accept ['?'] then
    let signs ← flags [] (cursor.rest.length + 1)
    let closing ← peek
    advance
    let verbose := flagState signs 'x' cursor.verbose
    modify fun cursor => { cursor with verbose }
    if closing = ')' then
      require (!signs.isEmpty)
      return .flags signs
    else return .group signs
  else nextCapture

/-- Read parts and alternatives up to a closing parenthesis or the end, at a level of nested groups.
`parts` are the parts of the current branch and `branches` the branches before it, the last
first. -/
def branchesOf (level : Nat) : Nat → List Tree → List Tree → Reader Tree
  | 0, _, _ => failure
  | fuel + 1, parts, branches => do
    skip
    match ← peek? with
    | none | some ')' => return .ofBranches (Tree.ofParts parts.reverse :: branches).reverse
    | some '|' =>
      advance
      branchesOf level fuel [] (Tree.ofParts parts.reverse :: branches)
    | some '(' =>
      require (level < maxDepth)
      let verbose := (← get).verbose
      match ← openGroup with
      | .flags signs => branchesOf level fuel (.flags signs :: parts) branches
      | opening =>
        let body ← branchesOf (level + 1) fuel [] []
        require ((← peek) = ')')
        advance
        modify fun cursor => { cursor with verbose }
        let group :=
          match opening with
          | .capture number => .capture number body
          | .flags signs | .group signs => .group signs body
        branchesOf level fuel (group :: parts) branches
    | some '[' => branchesOf level fuel ((← bracketed) :: parts) branches
    | some char =>
      if char = '?' || char = '*' || char = '+' || char = '\x7b' then
        match parts with
        | [] => failure
        | part :: others =>
          require part.isRepeatable
          branchesOf level fuel (.repeated (← repetition char) part :: others) branches
      else
        let part ←
          if char = '\\' then
            match ← escape with
            | .sign sign => pure (Tree.sign sign)
            | .named name negated => pure (.named name negated)
            | .place place => pure (.place place)
          else
            advance
            match char with
            | '.' => pure .dot
            | '^' => pure (.place .lineStart)
            | '$' => pure (.place .lineEnd)
            | char => pure (.sign { char })
        branchesOf level fuel (part :: parts) branches

/-- The tree of a pattern, if the text is well formed and nests no deeper than a pattern may. -/
def read? (text : String) : Option Tree :=
  let chars := text.toList
  match (branchesOf 0 (chars.length + 1) [] []).run { rest := chars } with
  | some (tree, cursor) =>
    if cursor.rest.isEmpty && tree.depth ≤ maxDepth then some tree else none
  | none => none

end PipelineConfig.Pattern
