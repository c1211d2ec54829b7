import PipelineConfig.Document.Value
import PipelineConfig.Text.Numeral
import PipelineConfig.Text.Parser

/-!
# TOML scalars

Quoted texts in their four forms, whole and fractional numbers, truth values, dates and times.
-/

namespace PipelineConfig.Document.Toml

open PipelineConfig.Text

/-- The characters of white space within a line. -/
def isSpace (char : Char) : Bool := char == ' ' || char == '\t'

/-- The characters that may stand in comments and quoted texts: tabs and all but controls. -/
def isPrintable (char : Char) : Bool :=
  char == '\t' || (0x20 ≤ char.toNat && char.toNat != 0x7f)

/-- White space within a line. -/
def space : Parser Unit := do
  let _ ← Parser.takeWhile isSpace

/-- The end of a line. -/
def newline : Parser Unit := Parser.word "\n" <|> Parser.word "\r\n"

/-- A comment up to the end of its line. -/
def comment : Parser Unit := do
  Parser.char '#'
  let _ ← Parser.takeWhile isPrintable

/-! ## Quoted texts -/

/-- A character given by a number of hexadecimal digits. -/
def codePoint (digits : Nat) : Parser (List Char) := do
  let chars ← (List.range digits).mapM fun _ =>
    Parser.satisfy fun char => (digitValue? 16 char).isSome
  let code := (natural? 16 chars).getD 0
  if code < 0x110000 ∧ ¬(0xd800 ≤ code ∧ code < 0xe000) then return [Char.ofNat code] else failure

/-- An escaped character, after the backslash. -/
def escaped : Parser (List Char) := do
  match ← Parser.satisfy fun _ => true with
  | 'b' => return [Char.ofNat 8]
  | 't' => return ['\t']
  | 'n' => return ['\n']
  | 'f' => return [Char.ofNat 12]
  | 'r' => return ['\r']
  | '"' => return ['"']
  | '\\' => return ['\\']
  | 'u' => codePoint 4
  | 'U' => codePoint 8
  | _ => failure

/-- The end of a line inside a text of many lines; it counts as one line feed. -/
def innerNewline : Parser (List Char) := do
  newline
  return ['\n']

/-- A backslash at the end of a line, after which all white space is passed over. -/
def continuation : Parser (List Char) := do
  space
  newline
  let _ ← Parser.many (newline <|> do let _ ← Parser.takeSome isSpace)
  return []

/-- One or two quotes with something given behind them. -/
def quotesBefore (quote : Char) (next : Parser Unit) : Parser (List Char) := do
  let one : Parser (List Char) := do
    Parser.char quote
    Parser.ahead next
    return [quote]
  let two : Parser (List Char) := do
    Parser.char quote
    Parser.char quote
    Parser.ahead next
    return [quote, quote]
  two <|> one

/-- The characters of a text between the given marks. -/
def between (mark : String) (part : Parser (List Char)) : Parser String := do
  Parser.word mark
  let parts ← Parser.many part
  Parser.word mark
  return String.ofList parts.flatten

/-- The characters of a text of many lines, which may begin on the line after the mark. The mark is
three quotes; one or two quotes may stand inside the text, and also right before the mark that ends
it. -/
def betweenLines (quote : Char) (part : Parser (List Char)) : Parser String := do
  let mark := Parser.word (String.ofList [quote, quote, quote])
  let other : Parser Unit := do
    let _ ← Parser.satisfy fun char => char != quote
  mark
  let _ ← Parser.optional newline
  let parts ← Parser.many (part <|> innerNewline <|> quotesBefore quote other)
  let last ← Parser.optional (quotesBefore quote mark)
  mark
  return String.ofList (parts.flatten ++ last.getD [])

/-- Characters that stand for themselves. -/
def verbatim (condition : Char → Bool) : Parser (List Char) :=
  Parser.takeSome fun char => isPrintable char && condition char

/-- A text on one line, with or without escapes. -/
def lineText : Parser String :=
  between "\"" (verbatim (fun char => char != '"' && char != '\\') <|>
    (Parser.char '\\' *> escaped)) <|>
  between "'" (verbatim fun char => char != '\'')

/-- A text on many lines, with or without escapes. -/
def blockText : Parser String :=
  betweenLines '"' (verbatim (fun char => char != '"' && char != '\\') <|>
    (Parser.char '\\' *> (escaped <|> continuation))) <|>
  betweenLines '\'' (verbatim fun char => char != '\'')

/-! ## Numbers -/

/-- Digits of a base, in which single underscores may stand between digits. -/
def digits (base : Nat) : Parser (List Char) := do
  let digit := Parser.satisfy fun char => (digitValue? base char).isSome
  let first ← digit
  let rest ← Parser.many (digit <|> (Parser.char '_' *> digit))
  return first :: rest

/-- The sign of a number: whether it is negative. -/
def sign : Parser Bool :=
  (do Parser.char '-'; return true) <|> (do Parser.char '+'; return false) <|> pure false

/-- The digits of a decimal number before its point. A zero stands alone. -/
def wholeDigits : Parser (List Char) := do
  match ← Parser.satisfy isDigit with
  | '0' => return ['0']
  | first => return first :: (← Parser.many
      (Parser.satisfy isDigit <|> (Parser.char '_' *> Parser.satisfy isDigit)))

/-- A whole number of 64 bits. -/
def wholeNumber : Parser Value := do
  let based (mark : String) (base : Nat) : Parser Value := do
    Parser.word mark
    let value := (natural? base (← digits base)).getD 0
    if value < 1 <<< 63 then return .number else failure
  let decimal : Parser Value := do
    let negative ← sign
    let value := digitsValue (← wholeDigits)
    if value < 1 <<< 63 || (negative && value == 1 <<< 63) then return .number else failure
  based "0x" 16 <|> based "0o" 8 <|> based "0b" 2 <|> decimal

/-- The exponent of a fractional number. -/
def exponent : Parser (Bool × List Char) := do
  let _ ← Parser.satisfy fun char => char == 'e' || char == 'E'
  return (← sign, ← digits 10)

/-- A fractional number. One that is too great is refused, unless it is negative. -/
def fractionalNumber : Parser Value := do
  let negative ← sign
  let numeral : Parser Value := do
    let whole ← wholeDigits
    let fraction ← Parser.optional (Parser.char '.' *> digits 10)
    let exponent ← Parser.optional exponent
    if fraction.isNone && exponent.isNone then failure
    else if !negative && (Numeral.mk whole fraction exponent).overflows then failure
    else return .number
  let special : Parser Value := do
    Parser.word "inf" <|> Parser.word "nan"
    return .number
  numeral <|> special

/-! ## Dates and times -/

/-- A number of exactly so many digits that is not out of range. -/
def digitsIn (count least greatest : Nat) : Parser Nat := do
  let chars ← (List.range count).mapM fun _ => Parser.satisfy isDigit
  let value := digitsValue chars
  if least ≤ value ∧ value ≤ greatest then return value else failure

/-- A number with zeros in front up to a width. -/
def padded (width value : Nat) : String :=
  let text := toString value
  String.ofList (List.replicate (width - text.length) '0') ++ text

/-- The number of days of a month. -/
def daysIn (year month : Nat) : Nat :=
  if month = 2 then if year % 4 = 0 ∧ (year % 100 ≠ 0 ∨ year % 400 = 0) then 29 else 28
  else if [4, 6, 9, 11].contains month then 30
  else 31

/-- A date. -/
def date : Parser String := do
  let year ← digitsIn 4 0 9999
  Parser.char '-'
  let month ← digitsIn 2 1 12
  Parser.char '-'
  let day ← digitsIn 2 1 (daysIn year month)
  return padded 4 year ++ "-" ++ padded 2 month ++ "-" ++ padded 2 day

/-- The fraction of a second, to nine places and without zeros at its end. -/
def secondFraction : Parser String := do
  Parser.char '.'
  let digits ← Parser.takeSome isDigit
  let kept := ((digits.take 9).reverse.dropWhile (· == '0')).reverse
  return if kept.isEmpty then "" else "." ++ String.ofList kept

/-- A time of day. -/
def time : Parser String := do
  let hour ← digitsIn 2 0 23
  Parser.char ':'
  let minute ← digitsIn 2 0 59
  Parser.char ':'
  let second ← digitsIn 2 0 60
  let fraction ← Parser.optional secondFraction
  return padded 2 hour ++ ":" ++ padded 2 minute ++ ":" ++ padded 2 second ++ fraction.getD ""

/-- The distance of a time from universal time. -/
def offset : Parser String :=
  (do
    let _ ← Parser.satisfy fun char => char == 'Z' || char == 'z'
    return "Z") <|>
  (do
    let mark ← Parser.satisfy fun char => char == '+' || char == '-'
    let hour ← digitsIn 2 0 23
    Parser.char ':'
    let minute ← digitsIn 2 0 59
    let shown := if mark = '-' ∧ hour + minute = 0 then '+' else mark
    return String.ofList [shown] ++ padded 2 hour ++ ":" ++ padded 2 minute)

/-- The time that follows a date. -/
def timeAfterDate : Parser String := do
  let _ ← Parser.satisfy fun char => char == 'T' || char == 't' || char == ' '
  let time ← time
  let offset ← Parser.optional offset
  return "T" ++ time ++ offset.getD ""

/-- The key under which a date or time is the only entry of a mapping. -/
def dateKey : String := "$__toml_private_datetime"

/-- A date, a time, or both. -/
def moment : Parser Value := do
  let dated : Parser String := do
    let date ← date
    let time ← Parser.optional timeAfterDate
    return date ++ time.getD ""
  let text ← dated <|> time
  return .mapping [(.text dateKey, .text text)]

/-- A value that is neither a list nor a mapping. -/
def scalar : Parser Value :=
  ((blockText <|> lineText).map Value.text) <|>
  (do Parser.word "true"; return .bool true) <|>
  (do Parser.word "false"; return .bool false) <|>
  moment <|> fractionalNumber <|> wholeNumber

end PipelineConfig.Document.Toml
