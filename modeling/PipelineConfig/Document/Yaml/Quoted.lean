import PipelineConfig.Document.Yaml.Gap
import PipelineConfig.Text.Numeral

/-!
# Quoted scalars

Scalars between single quotes, where a quote is written twice, and between double quotes, where
characters can be escaped.
-/

namespace PipelineConfig.Document.Yaml

/-- The rest of a scalar in single quotes, and the spots after it. What was read before is given
with the last character first. -/
def singleQuoted (text : List Char) (gap : Gap) : List Spot → Option (List Char × List Spot)
  | [] => none
  | spot :: rest =>
    if isBlank spot.char || isBreak spot.char then singleQuoted text (gap.add spot.char) rest
    else if atDocumentMark (spot :: rest) then none
    else
      let text := gap.toChars.reverse ++ text
      if spot.char = '\'' then
        match rest with
        | next :: rest =>
          if next.char = '\'' then singleQuoted ('\'' :: text) .empty rest
          else some (text.reverse, next :: rest)
        | [] => some (text.reverse, [])
      else singleQuoted (spot.char :: text) .empty rest

/-- What is expected inside a scalar in double quotes. -/
inductive Inside where
  /-- A character, white space or the end. -/
  | text
  /-- The character after a backslash. -/
  | escape
  /-- More hexadecimal digits of a character: how many, and the number so far. -/
  | digits (missing value : Nat)

/-- The characters that an escaped character stands for. -/
def escaped? (char : Char) : Option Char :=
  match char with
  | '0' => some (Char.ofNat 0)
  | 'a' => some (Char.ofNat 7)
  | 'b' => some (Char.ofNat 8)
  | 't' | '\t' => some '\t'
  | 'n' => some '\n'
  | 'v' => some (Char.ofNat 11)
  | 'f' => some (Char.ofNat 12)
  | 'r' => some '\r'
  | 'e' => some (Char.ofNat 27)
  | ' ' | '"' | '/' | '\\' => some char
  | 'N' => some (Char.ofNat 0x85)
  | '_' => some (Char.ofNat 0xa0)
  | 'L' => some (Char.ofNat 0x2028)
  | 'P' => some (Char.ofNat 0x2029)
  | _ => none

/-- The number of hexadecimal digits after an escaped letter. -/
def digitCount? (char : Char) : Option Nat :=
  match char with
  | 'x' => some 2
  | 'u' => some 4
  | 'U' => some 8
  | _ => none

/-- The character of a code point. -/
def charOf? (code : Nat) : Option Char :=
  if code < 0x110000 ∧ ¬(0xd800 ≤ code ∧ code < 0xe000) then some (Char.ofNat code) else none

/-- The rest of a scalar in double quotes, and the spots after it. What was read before is given
with the last character first. -/
def doubleQuoted (inside : Inside) (text : List Char) (gap : Gap) :
    List Spot → Option (List Char × List Spot)
  | [] => none
  | spot :: rest =>
    match inside with
    | .escape =>
      if isBreak spot.char then doubleQuoted .text text { escaped := true } rest
      else
        match escaped? spot.char, digitCount? spot.char with
        | some char, _ => doubleQuoted .text (char :: text) .empty rest
        | none, some count => doubleQuoted (.digits count 0) text .empty rest
        | none, none => none
    | .digits missing value =>
      match Text.digitValue? 16 spot.char with
      | none => none
      | some digit =>
        let value := value * 16 + digit
        if missing ≤ 1 then
          match charOf? value with
          | some char => doubleQuoted .text (char :: text) .empty rest
          | none => none
        else doubleQuoted (.digits (missing - 1) value) text .empty rest
    | .text =>
      if isBlank spot.char || isBreak spot.char then
        doubleQuoted .text text (gap.add spot.char) rest
      else if atDocumentMark (spot :: rest) then none
      else
        let text := gap.toChars.reverse ++ text
        if spot.char = '"' then some (text.reverse, rest)
        else if spot.char = '\\' then doubleQuoted .escape text .empty rest
        else doubleQuoted .text (spot.char :: text) .empty rest

end PipelineConfig.Document.Yaml
