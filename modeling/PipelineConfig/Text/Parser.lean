/-!
# Parsers

A parser takes characters off the front of a text and gives a value, or fails. Alternatives are
tried from left to right, each from the same place.
-/

namespace PipelineConfig.Text

/-- Takes characters off the front of a text. -/
abbrev Parser := StateT (List Char) Option

namespace Parser

variable {α : Type}

/-- Take the next character if it meets a condition. -/
def satisfy (condition : Char → Bool) : Parser Char := fun chars =>
  match chars with
  | char :: rest => if condition char then some (char, rest) else none
  | [] => none

/-- Take one given character. -/
def char (expected : Char) : Parser Unit := do
  let _ ← satisfy fun char => char == expected

/-- Take given characters. -/
def word (expected : String) : Parser Unit := fun chars =>
  if expected.toList.isPrefixOf chars then some ((), chars.drop expected.toList.length) else none

/-- Take all characters up to the first that does not meet a condition. -/
def takeWhile (condition : Char → Bool) : Parser (List Char) := fun chars =>
  some (chars.takeWhile condition, chars.dropWhile condition)

/-- Take the characters up to the first that does not meet a condition, at least one. -/
def takeSome (condition : Char → Bool) : Parser (List Char) := do
  let first ← satisfy condition
  return first :: (← takeWhile condition)

/-- Succeed at the end of the text only. -/
def atEnd : Parser Unit := fun chars => if chars.isEmpty then some ((), []) else none

/-- Succeed without taking anything if a parser would succeed. -/
def ahead (parser : Parser α) : Parser Unit := fun chars =>
  (parser chars).map fun _ => ((), chars)

/-- What a parser gives, or nothing if it fails. -/
def optional (parser : Parser α) : Parser (Option α) := fun chars =>
  match parser chars with
  | some (value, rest) => some (some value, rest)
  | none => some (none, chars)

/-- Repeat a parser until it fails, but not more than `limit` times. -/
def repeated (parser : Parser α) : Nat → Parser (List α)
  | 0 => pure []
  | limit + 1 => fun chars =>
    match parser chars with
    | some (value, rest) =>
      (repeated parser limit rest).map fun (values, rest) => (value :: values, rest)
    | none => some ([], chars)

/-- Repeat a parser until it fails. A parser that takes a character each time cannot succeed more
often than there are characters. -/
def many (parser : Parser α) : Parser (List α) := fun chars => repeated parser chars.length chars

/-- Repeat a parser with a separator in between, at least once. -/
def separated (parser : Parser α) (separator : Parser Unit) : Parser (List α) := do
  let first ← parser
  return first :: (← many (separator *> parser))

/-- What a parser makes of a whole text. -/
def run? (parser : Parser α) (text : List Char) : Option α :=
  ((parser <* atEnd).run text).map Prod.fst

end Parser

end PipelineConfig.Text
