import PipelineConfig.Document.Yaml.Block
import PipelineConfig.Document.Yaml.Quoted
import PipelineConfig.Document.Yaml.Token
import PipelineConfig.Document.Yaml.Unquoted

/-!
# YAML layout

Divides a YAML text into tokens. Indentation opens and closes collections, and a colon turns what
stands before it on its line into a key. Because a key is only known by its colon, its token is
inserted afterwards at the place where the key may have begun.
-/

namespace PipelineConfig.Document.Yaml

/-- A place where a key may have begun. -/
structure KeyPlace where
  /-- Whether only a key can stand there. -/
  required : Bool
  /-- The number of tokens before it. -/
  position : Nat
  /-- The line. -/
  line : Nat
  /-- The column. -/
  column : Nat
deriving DecidableEq, Repr

/-- A text that has been divided up to some spot. -/
structure Layout where
  /-- The spots that are left. -/
  rest : List Spot
  /-- The tokens so far, the last first. -/
  tokens : List Token := []
  /-- The column from which on nested content begins; zero outside of indented collections. -/
  level : Nat := 0
  /-- The levels of the enclosing collections, nearest first. -/
  outer : List Nat := []
  /-- Where the key may have begun that a colon now would end. -/
  keyPlace : Option KeyPlace := none
  /-- The same for each enclosing bracket, nearest first. -/
  outerKeys : List (Option KeyPlace) := []
  /-- Whether a key may begin at the next token. -/
  keyAllowed : Bool := true

namespace Layout

/-- Whether the text is inside brackets. -/
def inFlow (layout : Layout) : Bool := !layout.outerKeys.isEmpty

/-- Add a token. -/
def emit (layout : Layout) (token : Token) : Layout :=
  { layout with tokens := token :: layout.tokens }

/-- Add a token with so many tokens before it. -/
def insert (layout : Layout) (position : Nat) (token : Token) : Layout :=
  { layout with tokens := layout.tokens.insertIdx (layout.tokens.length - position) token }

/-! ## White space -/

/-- The spots after white space, comments and byte order marks, and whether a key may begin
there. Tabs do not count as white space where a key may begin outside of brackets, and there a new
line allows for a key. -/
def skipSpace (inFlow keyAllowed inComment : Bool) : List Spot → List Spot × Bool
  | [] => ([], keyAllowed)
  | spot :: rest =>
    if isBreak spot.char then skipSpace inFlow (keyAllowed || !inFlow) false rest
    else if inComment || spot.char == '#' then skipSpace inFlow keyAllowed true rest
    else if spot.char == ' ' || (spot.char == '\t' && (inFlow || !keyAllowed)) ||
        (spot.column == 0 && spot.char.toNat == 0xfeff) then
      skipSpace inFlow keyAllowed false rest
    else (spot :: rest, keyAllowed)

/-- The text from the next token on. -/
def toNextToken (layout : Layout) : Layout :=
  let (rest, keyAllowed) := skipSpace layout.inFlow layout.keyAllowed false layout.rest
  { layout with rest, keyAllowed }

/-! ## Keys -/

/-- The greatest length of a key. -/
def keyLimit : Nat := 1024

/-- Forget that a key may have begun. Where only a key can stand that is an error. -/
def dropKey? (layout : Layout) : Option Layout :=
  if layout.keyPlace.any KeyPlace.required then none else some { layout with keyPlace := none }

/-- Remember that a key may begin at a spot. -/
def saveKey? (layout : Layout) (spot : Spot) : Option Layout :=
  if layout.keyAllowed then
    layout.dropKey?.map fun layout =>
      { layout with
        keyPlace := some {
          required := !layout.inFlow && layout.level == spot.column + 1
          position := layout.tokens.length
          line := spot.line
          column := spot.column } }
  else some layout

/-- Whether a place is too far behind a spot for a key to have begun there. -/
def isStale (place : KeyPlace) (spot : Spot) : Bool :=
  place.line < spot.line || place.column + keyLimit < spot.column

/-- Forget the places of keys that are on an earlier line or too long by now. -/
def dropStaleKeys? (layout : Layout) (spot : Spot) : Option Layout :=
  let stale (place : KeyPlace) : Bool := isStale place spot
  let keep (place : Option KeyPlace) : Option KeyPlace := place.filter fun place => !stale place
  if (layout.keyPlace :: layout.outerKeys).any fun place =>
      place.any fun place => stale place && place.required then none
  else some { layout with
    keyPlace := keep layout.keyPlace
    outerKeys := layout.outerKeys.map keep }

/-! ## Indentation -/

/-- Open an indented collection at a column, unless one is open there already. Inside brackets
indentation does not count. -/
def indent (layout : Layout) (column : Nat) (position : Nat) (token : Token) : Layout :=
  if !layout.inFlow && layout.level ≤ column then
    { layout.insert position token with
      level := column + 1
      outer := layout.level :: layout.outer }
  else layout

/-- Close collections until the level does not exceed a limit. The levels of the enclosing
collections are given, nearest first. -/
def closeTo (limit : Nat) (layout : Layout) : List Nat → Layout
  | [] => { layout with outer := [] }
  | next :: outer =>
    if limit < layout.level then
      closeTo limit { layout.emit .collectionEnd with level := next } outer
    else { layout with outer := next :: outer }

/-- Close the indented collections that begin after a limit. -/
def dedent (layout : Layout) (limit : Nat) : Layout :=
  if layout.inFlow then layout else closeTo limit layout layout.outer

/-! ## Tokens -/

/-- Add a token and go on after it. A key may begin there or not. -/
def take (layout : Layout) (token : Token) (keyAllowed : Bool) (rest : List Spot) : Layout :=
  { layout.emit token with rest, keyAllowed }

/-- The opening bracket of a collection. -/
def openBracket? (layout : Layout) (spot : Spot) (token : Token) (rest : List Spot) :
    Option Layout :=
  (layout.saveKey? spot).map fun layout =>
    { layout.take token true rest with
      keyPlace := none
      outerKeys := layout.keyPlace :: layout.outerKeys }

/-- The closing bracket of a collection. -/
def closeBracket? (layout : Layout) (token : Token) (rest : List Spot) : Option Layout :=
  layout.dropKey?.map fun layout =>
    let layout :=
      match layout.outerKeys with
      | place :: places => { layout with keyPlace := place, outerKeys := places }
      | [] => layout
    layout.take token false rest

/-- A dash before a member of an indented list. -/
def dash? (layout : Layout) (spot : Spot) (rest : List Spot) : Option Layout :=
  if !layout.inFlow && !layout.keyAllowed then none
  else
    (layout.indent spot.column layout.tokens.length .listStart).dropKey?.map fun layout =>
      layout.take .dash true rest

/-- A question mark before a key. -/
def key? (layout : Layout) (spot : Spot) (rest : List Spot) : Option Layout :=
  if !layout.inFlow && !layout.keyAllowed then none
  else
    (layout.indent spot.column layout.tokens.length .mappingStart).dropKey?.map fun layout =>
      layout.take .key (!layout.inFlow) rest

/-- A colon before a value. If a key may have begun on the line, it did. -/
def value? (layout : Layout) (spot : Spot) (rest : List Spot) : Option Layout :=
  match layout.keyPlace with
  | some place =>
    let layout := layout.insert place.position .key
    let layout := layout.indent place.column place.position .mappingStart
    some ({ layout with keyPlace := none }.take .value false rest)
  | none =>
    if !layout.inFlow && !layout.keyAllowed then none
    else
      let layout := layout.indent spot.column layout.tokens.length .mappingStart
      some (layout.take .value (!layout.inFlow) rest)

/-- A token before which a key may have begun, and none may begin after it. -/
def takeNode? (layout : Layout) (spot : Spot) (read : Option (Token × List Spot)) :
    Option Layout :=
  match layout.saveKey? spot, read with
  | some layout, some (token, rest) => some (layout.take token false rest)
  | _, _ => none

/-- A token made of text and what follows it, as a scalar. -/
def asScalar (read : Option (List Char × List Spot)) : Option (Token × List Spot) :=
  read.map fun (text, rest) => (.scalar (String.ofList text) false, rest)

/-- A block scalar. -/
def blockScalar? (layout : Layout) (folded : Bool) (rest : List Spot) : Option Layout :=
  match layout.dropKey?, asScalar (block? folded layout.level rest) with
  | some layout, some (token, rest) => some (layout.take token true rest)
  | _, _ => none

/-- A plain scalar. If a line ends after it, a key may begin there. -/
def plainScalar? (layout : Layout) (spot : Spot) : Option Layout :=
  match layout.saveKey? spot, unquoted layout.inFlow layout.level [] .empty layout.rest with
  | some layout, some scalar =>
    some (layout.take (.scalar (String.ofList scalar.text) true) scalar.crossesLine scalar.rest)
  | _, _ => none

/-- A directive or a mark between documents. Both end everything that is indented. -/
def documentLevel? (layout : Layout) (read : Option (Token × List Spot)) : Option Layout :=
  match (layout.dedent 0).dropKey?, read with
  | some layout, some (token, rest) => some (layout.take token false rest)
  | _, _ => none

/-- Whether a plain scalar may begin at a spot. -/
def beginsUnquoted (inFlow : Bool) (spot : Spot) (rest : List Spot) : Bool :=
  let indicators := ['-', '?', ':', ',', '[', ']', '\x7b', '\x7d', '#', '&', '*', '!', '|', '>',
    '\'', '"', '%', '@', Char.ofNat 0x60]
  !(isBlank spot.char || isBreak spot.char || indicators.contains spot.char) ||
    (spot.char == '-' && !rest.head?.any fun next => isBlank next.char) ||
    (!inFlow && (spot.char == '?' || spot.char == ':') && !endsWord rest)

/-- Take one token that begins at a spot. -/
def takeToken? (layout : Layout) (spot : Spot) (rest : List Spot) : Option Layout :=
  let inFlow := layout.inFlow
  if spot.column == 0 && spot.char == '%' then layout.documentLevel? (directive? rest)
  else if isMark '-' layout.rest then
    layout.documentLevel? (some (.documentStart, layout.rest.drop 3))
  else if isMark '.' layout.rest then
    layout.documentLevel? (some (.documentEnd, layout.rest.drop 3))
  else
    match spot.char with
    | '[' => layout.openBracket? spot .openList rest
    | '\x7b' => layout.openBracket? spot .openMapping rest
    | ']' => layout.closeBracket? .closeList rest
    | '\x7d' => layout.closeBracket? .closeMapping rest
    | ',' => layout.dropKey?.map fun layout => layout.take .comma true rest
    | '*' => layout.takeNode? spot ((anchorName? rest).map fun (name, rest) => (.alias name, rest))
    | '&' => layout.takeNode? spot ((anchorName? rest).map fun (name, rest) => (.anchor name, rest))
    | '!' => layout.takeNode? spot (tag? inFlow layout.rest)
    | '\'' => layout.takeNode? spot (asScalar (singleQuoted [] .empty rest))
    | '"' => layout.takeNode? spot (asScalar (doubleQuoted .text [] .empty rest))
    | char =>
      if char == '-' && endsWord rest then layout.dash? spot rest
      else if char == '?' && (inFlow || endsWord rest) then layout.key? spot rest
      else if char == ':' && (inFlow || endsWord rest) then layout.value? spot rest
      else if char == '|' && !inFlow then layout.blockScalar? false rest
      else if char == '>' && !inFlow then layout.blockScalar? true rest
      else if beginsUnquoted inFlow spot rest then layout.plainScalar? spot
      else none

/-- The tokens of the text that is left. Each step takes at least one spot, so there are no more
steps than spots. -/
def tokensWithin? (layout : Layout) : Nat → Option (List Token)
  | 0 => none
  | steps + 1 =>
    let layout := layout.toNextToken
    match layout.rest with
    | [] => (layout.dedent 0).dropKey?.map fun layout => layout.tokens.reverse
    | spot :: rest =>
      match layout.dropStaleKeys? spot with
      | none => none
      | some layout =>
        match (layout.dedent (spot.column + 1)).takeToken? spot rest with
        | some layout => tokensWithin? layout steps
        | none => none

end Layout

/-- The tokens of a text. -/
def tokens? (text : String) : Option (List Token) :=
  (spots? text).bind fun spots => ({ rest := spots : Layout }).tokensWithin? (spots.length + 1)

end PipelineConfig.Document.Yaml
