import PipelineConfig.Document.Json.Number

/-!
# JSON tokens

Divides a JSON text into brackets, separators and scalars. The text is read by a machine that
takes one character at a time.
-/

namespace PipelineConfig.Document.Json

open PipelineConfig.Text

/-- A piece of a JSON text. -/
inductive Token where
  /-- The start of a list. -/
  | openList
  /-- The end of a list. -/
  | closeList
  /-- The start of a mapping. -/
  | openMapping
  /-- The end of a mapping. -/
  | closeMapping
  /-- What stands between members. -/
  | comma
  /-- What stands between a key and its value. -/
  | colon
  /-- A quoted text. -/
  | quoted (value : Value)
  /-- A scalar without quotes. -/
  | bare (value : Value)

/-- The characters of a text given by code points. A code point above the basic plane may be
given by two surrogates; a surrogate by itself is no character. -/
def ofUnits? : List Nat → Option (List Char)
  | [] => some []
  | [unit] =>
    if 0xd800 ≤ unit ∧ unit < 0xe000 then none else some [Char.ofNat unit]
  | unit :: next :: rest =>
    if 0xd800 ≤ unit ∧ unit < 0xdc00 ∧ 0xdc00 ≤ next ∧ next < 0xe000 then
      (ofUnits? rest).map (Char.ofNat (0x10000 + (unit - 0xd800) * 0x400 + (next - 0xdc00)) :: ·)
    else if 0xd800 ≤ unit ∧ unit < 0xe000 then none
    else (ofUnits? (next :: rest)).map (Char.ofNat unit :: ·)

/-- The value of a quoted text. One with an unpaired surrogate cannot be read. -/
def quotedValue (units : List Nat) : Value :=
  match ofUnits? units with
  | some chars => .text (String.ofList chars)
  | none => .unreadable

/-- The value of a scalar without quotes. -/
def bareValue? (chars : List Char) : Option Value :=
  match String.ofList chars with
  | "null" => some .null
  | "true" => some (.bool true)
  | "false" => some (.bool false)
  | _ => numberValue? chars

/-- Where in a JSON text a character stands. -/
inductive Place where
  /-- Between tokens. -/
  | outside
  /-- In a scalar without quotes; its characters so far, the last first. -/
  | bare (chars : List Char)
  /-- In a quoted text; its code points so far, the last first. -/
  | quoted (units : List Nat)
  /-- After a backslash in a quoted text. -/
  | escape (units : List Nat)
  /-- In the digits of an escaped code point: how many are missing, and the number so far. -/
  | codePoint (units : List Nat) (missing value : Nat)

/-- What an escaped character stands for, except for code points. -/
def escaped? : Char → Option Nat
  | '"' => some 0x22
  | '\\' => some 0x5c
  | '/' => some 0x2f
  | 'b' => some 8
  | 'f' => some 12
  | 'n' => some 10
  | 'r' => some 13
  | 't' => some 9
  | _ => none

/-- The place between tokens after one more character, and the token it makes. -/
def stepOutside? (char : Char) : Option (Place × List Token) :=
  match char with
  | ' ' | '\t' | '\n' | '\r' => some (.outside, [])
  | '[' => some (.outside, [.openList])
  | ']' => some (.outside, [.closeList])
  | '\x7b' => some (.outside, [.openMapping])
  | '\x7d' => some (.outside, [.closeMapping])
  | ',' => some (.outside, [.comma])
  | ':' => some (.outside, [.colon])
  | '"' => some (.quoted [], [])
  | char =>
    if char.isAlphanum || char = '-' || char = '+' || char = '.' then some (.bare [char], [])
    else none

/-- The place after one more character, and the tokens that it ends. -/
def step? : Place → Char → Option (Place × List Token)
  | .outside, char => stepOutside? char
  | .bare chars, char =>
    if char.isAlphanum || char = '-' || char = '+' || char = '.' then
      some (.bare (char :: chars), [])
    else
      match bareValue? chars.reverse, stepOutside? char with
      | some value, some (place, tokens) => some (place, .bare value :: tokens)
      | _, _ => none
  | .quoted units, char =>
    if char = '"' then some (.outside, [.quoted (quotedValue units.reverse)])
    else if char = '\\' then some (.escape units, [])
    else if char.toNat < 0x20 then none
    else some (.quoted (char.toNat :: units), [])
  | .escape units, char =>
    if char = 'u' then some (.codePoint units 4 0, [])
    else (escaped? char).map fun unit => (.quoted (unit :: units), [])
  | .codePoint units missing value, char =>
    (digitValue? 16 char).map fun digit =>
      if missing ≤ 1 then (.quoted ((value * 16 + digit) :: units), [])
      else (.codePoint units (missing - 1) (value * 16 + digit), [])

/-- The tokens of a text from a place on. -/
def tokensFrom? : Place → List Char → Option (List Token)
  | .outside, [] => some []
  | .bare chars, [] => (bareValue? chars.reverse).map fun value => [.bare value]
  | _, [] => none
  | place, char :: rest =>
    (step? place char).bind fun (next, tokens) => (tokensFrom? next rest).map (tokens ++ ·)

/-- The tokens of a text. -/
def tokens? (chars : List Char) : Option (List Token) := tokensFrom? .outside chars

end PipelineConfig.Document.Json
