import PipelineConfig.Document.Yaml.Token

/-!
# YAML nodes

The structure that tokens tell: scalars, lists, mappings and references. References are resolved
only later, so a node keeps the number that its name had when it was read.
-/

namespace PipelineConfig.Document.Yaml

/-- What a node is called and declared to be. -/
structure Properties where
  /-- The number of its name, if it has one. -/
  anchor : Option Nat := none
  /-- Its declared type, if it has one. -/
  tag : Option String := none
deriving DecidableEq, Repr

/-- A node of a document. -/
inductive Node where
  /-- A reference to the node whose name has this number. -/
  | alias (anchor : Nat)
  /-- A scalar, and whether it is written without quotes. -/
  | scalar (properties : Properties) (text : String) (isPlain : Bool)
  /-- A list. -/
  | list (properties : Properties) (items : List Node)
  /-- A mapping. -/
  | mapping (properties : Properties) (entries : List (Node × Node))
deriving Repr

/-- A node that is not written. -/
def Node.absent : Node := .scalar {} "" true

/-- What names and handles mean at a place of a document. -/
structure Names where
  /-- The numbers of the names so far. -/
  anchors : List (String × Nat) := []
  /-- What the handles of tags stand for. -/
  handles : List (String × String) := []
deriving Repr

namespace Names

/-- Give a name a number: how many names there are. A name that is given again gets a new one. -/
def declare (names : Names) (name : String) : Names × Nat :=
  let number := names.anchors.length
  ({ names with
      anchors := (name, number) :: names.anchors.filter fun entry => entry.1 != name }, number)

/-- The tag that a handle and the rest of a tag make. -/
def resolve? (names : Names) (handle rest : String) : Option String :=
  if handle.isEmpty then some rest
  else (List.lookup handle names.handles).map fun start => start ++ rest

end Names

/-- Reads something from the front of a list of tokens. -/
abbrev NodeReader := StateT (Names × List Token) Option

namespace NodeReader

/-- The next token, which stays. -/
def peek : NodeReader (Option Token) := do return (← get).2.head?

/-- Take the next token. -/
def skip : NodeReader Unit := modify fun (names, tokens) => (names, tokens.drop 1)

/-- Take the next token if it is a given one, and say whether it was. -/
def accept (token : Token) : NodeReader Bool := do
  if (← peek) = some token then
    skip
    return true
  else return false

/-- Take a given token. -/
def expect (token : Token) : NodeReader Unit := do
  if ← accept token then return else failure

/-- Whether the next token is one of some tokens, or there is none. -/
def atAny (tokens : List Token) : NodeReader Bool := do
  match ← peek with
  | some token => return tokens.contains token
  | none => return true

/-- The name of the next node, if it has one. -/
def anchor : NodeReader (Option Nat) := do
  match ← peek with
  | some (.anchor name) => do
    skip
    let (names, tokens) ← get
    let (names, number) := names.declare name
    set (names, tokens)
    return some number
  | _ => return none

/-- The declared type of the next node, if it has one: the handle and the rest. -/
def tag : NodeReader (Option (String × String)) := do
  match ← peek with
  | some (.tag handle rest) => do
    skip
    return some (handle, rest)
  | _ => return none

end NodeReader

end PipelineConfig.Document.Yaml
