import PipelineConfig.Document.Value

/-!
# Printing JSON

Prints a value as a JSON text, with every member of a list or mapping on a line of its own,
indented by two spaces for each level. An empty list or mapping stays on its line.
-/

namespace PipelineConfig.Document.Json

/-- A hexadecimal digit in lower case. -/
def hexDigit (value : Nat) : Char :=
  if value < 10 then Char.ofNat ('0'.toNat + value) else Char.ofNat ('a'.toNat + (value - 10))

/-- A character as it stands in a quoted text. -/
def escape (char : Char) : List Char :=
  match char with
  | '"' => ['\\', '"']
  | '\\' => ['\\', '\\']
  | '\n' => ['\\', 'n']
  | '\r' => ['\\', 'r']
  | '\t' => ['\\', 't']
  | char =>
    if char.toNat = 8 then ['\\', 'b']
    else if char.toNat = 12 then ['\\', 'f']
    else if char.toNat < 0x20 then
      ['\\', 'u', '0', '0', hexDigit (char.toNat / 16), hexDigit (char.toNat % 16)]
    else [char]

/-- A text between quotes. -/
def quote (text : String) : String :=
  String.ofList ('"' :: text.toList.flatMap escape ++ ['"'])

/-- The white space at the start of a line. -/
def indentation (level : Nat) : String := String.ofList (List.replicate (2 * level) ' ')

/-- Members between brackets, each on a line of its own. -/
def block (opening closing : String) (level : Nat) (members : List String) : String :=
  match members with
  | [] => opening ++ closing
  | first :: rest =>
    let line (member : String) : String := "\n" ++ indentation (level + 1) ++ member
    opening ++ line first ++ String.join (rest.map fun member => "," ++ line member) ++ "\n" ++
      indentation level ++ closing

mutual

/-- A value at a level. What JSON has no words for is printed as nothing. -/
def printAt (level : Nat) : Value → String
  | .null | .number | .unreadable => "null"
  | .bool true => "true"
  | .bool false => "false"
  | .natural value => toString value
  | .text text | .plain text => quote text
  | .tagged _ value => printAt level value
  | .list items => block "[" "]" level (printAll (level + 1) items)
  | .mapping entries => block "\x7b" "\x7d" level (printEntries (level + 1) entries)

/-- The members of a list. -/
def printAll (level : Nat) : List Value → List String
  | [] => []
  | value :: rest => printAt level value :: printAll level rest

/-- The entries of a mapping. -/
def printEntries (level : Nat) : List (Value × Value) → List String
  | [] => []
  | (key, value) :: rest =>
    (printAt level key ++ ": " ++ printAt level value) :: printEntries level rest

end

/-- A value as a JSON text. -/
def print (value : Value) : String := printAt 0 value

end PipelineConfig.Document.Json
