import PipelineConfig.Document.Toml.Scalar
import PipelineConfig.Document.Toml.Table

/-!
# TOML statements

A TOML document is a list of statements, one on a line: headers of tables and keys with their
values. Values may hold lists and inline tables.
-/

namespace PipelineConfig.Document.Toml

open PipelineConfig.Text

/-- A statement. The path of its key leads to the table it is about. -/
inductive Statement where
  /-- The header of a table. -/
  | table (path : List String) (key : String)
  /-- The header of one of several tables. -/
  | item (path : List String) (key : String)
  /-- A key and its value. -/
  | entry (path : List String) (key : String) (value : Value)

/-- The greatest number of lists and inline tables inside one another, and of parts of a key. -/
def depthLimit : Nat := 79

/-- A part of a key. -/
def keyPart : Parser String :=
  lineText <|> do
    let chars ← Parser.takeSome fun char => char.isAlphanum || char == '_' || char == '-'
    return String.ofList chars

/-- A dotted key: its path and its last part. -/
def key : Parser (List String × String) := do
  let parts ← Parser.separated (space *> keyPart <* space) (Parser.char '.')
  match parts.getLast? with
  | some last => if depthLimit < parts.length then failure else return (parts.dropLast, last)
  | none => failure

/-- White space, ends of lines and comments. -/
def gap : Parser Unit := do
  let _ ← Parser.many ((do let _ ← Parser.takeSome isSpace) <|> newline <|> (comment <* newline))

/-- A list. A comma may follow its last member. -/
def list (value : Parser Value) : Parser Value := do
  Parser.char '['
  let items ← Parser.optional
    (Parser.separated (gap *> value <* gap) (Parser.char ',') <* Parser.optional (Parser.char ','))
  gap
  Parser.char ']'
  return .list (items.getD [])

/-- A key and its value inside an inline table. -/
def inlineEntry (value : Parser Value) : Parser (List String × String × Value) := do
  let (path, key) ← key
  Parser.char '='
  space
  let value ← value
  space
  return (path, key, value)

/-- An inline table. -/
def inlineTable (value : Parser Value) : Parser Value := do
  Parser.char '\x7b'
  let entries ← Parser.optional (Parser.separated (inlineEntry value) (Parser.char ','))
  space
  Parser.char '\x7d'
  let table := (entries.getD []).foldlM
    (fun table (path, key, value) => table.insert? path key value)
    Table.empty
  match table with
  | some table => return table.toValue
  | none => failure

/-- A value in which lists and inline tables go no deeper than a limit. -/
def value : Nat → Parser Value
  | 0 => scalar
  | depth + 1 => scalar <|> list (value depth) <|> inlineTable (value depth)

/-- What may stand on a line after a statement. -/
def restOfLine : Parser Unit := do
  space
  let _ ← Parser.optional comment
  newline <|> Parser.atEnd

/-- A header, without its line's end. -/
def header : Parser Statement :=
  (do
    Parser.word "[["
    let (path, key) ← key
    Parser.word "]]"
    return .item path key) <|>
  (do
    Parser.char '['
    let (path, key) ← key
    Parser.char ']'
    return .table path key)

/-- A key and its value, without its line's end. -/
def entry : Parser Statement := do
  let (path, key) ← key
  Parser.char '='
  space
  return .entry path key (← value depthLimit)

/-- A line: a statement, or nothing but white space and a comment. -/
def line : Parser (Option Statement) :=
  space *>
    ((some <$> (header <|> entry)) <* restOfLine <|>
      (do newline; return none) <|>
      (do comment; newline <|> Parser.atEnd; return none))

/-- The statements of a document, which may begin with a byte order mark. -/
def statements : Parser (List Statement) := do
  let _ ← Parser.optional (Parser.char (Char.ofNat 0xfeff))
  let lines ← Parser.many line
  space
  return lines.filterMap id

end PipelineConfig.Document.Toml
