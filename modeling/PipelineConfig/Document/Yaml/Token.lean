import PipelineConfig.Document.Yaml.Spot
import PipelineConfig.Text.Numeral

/-!
# YAML tokens

The pieces that the structure of a YAML text is told by: marks, brackets, names and scalars. The
starts and ends of indented collections are tokens too, although no character stands for them.
-/

namespace PipelineConfig.Document.Yaml

/-- A piece of a YAML text. -/
inductive Token where
  /-- The version a document is written in. -/
  | version (major minor : Nat)
  /-- A handle that stands for the beginning of tags. -/
  | handle (name start : String)
  /-- The mark before a document. -/
  | documentStart
  /-- The mark after a document. -/
  | documentEnd
  /-- The start of an indented list. -/
  | listStart
  /-- The start of an indented mapping. -/
  | mappingStart
  /-- The end of an indented collection. -/
  | collectionEnd
  /-- The bracket before a list. -/
  | openList
  /-- The bracket after a list. -/
  | closeList
  /-- The bracket before a mapping. -/
  | openMapping
  /-- The bracket after a mapping. -/
  | closeMapping
  /-- The dash before a member of an indented list. -/
  | dash
  /-- The comma between members inside brackets. -/
  | comma
  /-- The start of a key. -/
  | key
  /-- The start of a value. -/
  | value
  /-- A reference to a named node. -/
  | alias (name : String)
  /-- The name of the node that follows. -/
  | anchor (name : String)
  /-- The declared type of the node that follows: a handle and the rest. -/
  | tag (handle rest : String)
  /-- A scalar, and whether it is written without quotes. -/
  | scalar (text : String) (isPlain : Bool)
deriving DecidableEq, Repr

/-- The name of an anchor or alias, after its mark. -/
def anchorName? (spots : List Spot) : Option (String × List Spot) :=
  let (name, rest) := takeChars isWordChar spots
  let ends :=
    match rest with
    | spot :: _ =>
      endsWord rest ||
        ['?', ':', ',', ']', '\x7d', '%', '@', Char.ofNat 0x60].contains spot.char
    | [] => true
  if name.isEmpty || !ends then none else some (String.ofList name, rest)

/-! ## Tags -/

/-- Whether a character may stand in a tag. Commas and square brackets may only where nothing else
could be meant. -/
def isTagChar (withBrackets : Bool) (char : Char) : Bool :=
  isWordChar char || [';', '/', '?', ':', '@', '&', '=', '+', '$', '.', '%', '!', '~', '*', '\'',
    '(', ')'].contains char ||
  (withBrackets && [',', '[', ']'].contains char)

/-- The bytes of a tag, in which a percent sign and two digits stand for a byte. The first byte of
a character says how many follow; `pending` are missing. -/
def tagBytes? (pending : Nat) : List Char → Option (List UInt8)
  | [] => if pending = 0 then some [] else none
  | '%' :: high :: low :: rest =>
    match Text.digitValue? 16 high, Text.digitValue? 16 low with
    | some high, some low =>
      let byte := high * 16 + low
      let following? :=
        if 0 < pending then if 0x80 ≤ byte ∧ byte < 0xc0 then some (pending - 1) else none
        else if byte < 0x80 then some 0
        else if 0xc0 ≤ byte ∧ byte < 0xe0 then some 1
        else if 0xe0 ≤ byte ∧ byte < 0xf0 then some 2
        else if 0xf0 ≤ byte ∧ byte < 0xf8 then some 3
        else none
      match following? with
      | some following => (tagBytes? following rest).map (byte.toUInt8 :: ·)
      | none => none
    | _, _ => none
  | char :: rest =>
    if pending = 0 ∧ char ≠ '%' then (tagBytes? 0 rest).map (char.toNat.toUInt8 :: ·) else none

/-- The text of a tag, with its escapes resolved. -/
def tagText? (chars : List Char) : Option String :=
  (tagBytes? 0 chars).map fun bytes =>
    (String.fromUTF8? ⟨bytes.toArray⟩).getD (String.ofList chars)

/-- The handle of a tag: an exclamation mark, which a word and another mark may follow. The rest
of what is not a handle belongs to the tag. -/
def tagHandle? (spots : List Spot) : Option (List Char × List Spot) :=
  match spots with
  | spot :: rest =>
    if spot.char ≠ '!' then none
    else
      let (name, rest) := takeChars isWordChar rest
      match rest with
      | next :: after =>
        if next.char = '!' then some ('!' :: name ++ ['!'], after) else some ('!' :: name, rest)
      | [] => some ('!' :: name, [])
  | [] => none

/-- Whether a handle ends with a mark of its own. -/
def isFullHandle (handle : List Char) : Bool := 1 < handle.length && handle.getLast? == some '!'

/-- Read a tag. -/
def tag? (inFlow : Bool) (spots : List Spot) : Option (Token × List Spot) := do
  let (token, rest) ←
    match spots with
    | _ :: second :: inner =>
      if second.char = '<' then do
        let (chars, rest) := takeChars (isTagChar true) inner
        let text ← tagText? chars
        match rest with
        | close :: rest =>
          if chars.isEmpty || close.char != '>' then none else some (Token.tag "" text, rest)
        | [] => none
      else handled
    | _ => handled
  if endsWord rest || (inFlow && startsWith ',' rest) then some (token, rest) else none
where
  /-- A tag that begins with a handle, or with an exclamation mark only. -/
  handled : Option (Token × List Spot) := do
    let (handle, rest) ← tagHandle? spots
    let (chars, rest) := takeChars (isTagChar false) rest
    if isFullHandle handle then
      if chars.isEmpty then none
      else some (.tag (String.ofList handle) (← tagText? chars), rest)
    else
      let text := String.ofList (handle.drop 1) ++ (← tagText? chars)
      some (if text.isEmpty then .tag "" "!" else .tag "!" text, rest)

/-! ## Directives -/

/-- A number of a version: at most nine digits. -/
def versionNumber? (spots : List Spot) : Option (Nat × List Spot) :=
  let (digits, rest) := takeChars Text.isDigit spots
  if digits.isEmpty || 9 < digits.length then none else some (Text.digitsValue digits, rest)

/-- What the directive that gives the version says. -/
def versionDirective? (spots : List Spot) : Option (Token × List Spot) := do
  let (major, rest) ← versionNumber? (skipBlanks spots)
  match rest with
  | point :: rest =>
    if point.char ≠ '.' then none
    else do
      let (minor, rest) ← versionNumber? rest
      return (.version major minor, rest)
  | [] => none

/-- What the directive that declares a handle says. -/
def handleDirective? (spots : List Spot) : Option (Token × List Spot) := do
  let (handle, rest) ← tagHandle? (skipBlanks spots)
  if !isFullHandle handle && handle != ['!'] then none
  else if !startsBlank rest then none
  else do
    let (chars, rest) := takeChars (isTagChar true) (skipBlanks rest)
    let text ← tagText? chars
    if chars.isEmpty || !endsWord rest then none
    else return (.handle (String.ofList handle) text, rest)
where
  /-- Whether white space within the line follows. -/
  startsBlank (spots : List Spot) : Bool :=
    match spots with
    | spot :: _ => isBlank spot.char
    | [] => false

/-- Read a directive, after its mark, to the end of its line. -/
def directive? (spots : List Spot) : Option (Token × List Spot) := do
  let (name, rest) := takeChars isWordChar spots
  if !endsWord rest then none
  else
    let (token, rest) ←
      match String.ofList name with
      | "YAML" => versionDirective? rest
      | "TAG" => handleDirective? rest
      | _ => none
    return (token, ← afterLine? rest)

end PipelineConfig.Document.Yaml
