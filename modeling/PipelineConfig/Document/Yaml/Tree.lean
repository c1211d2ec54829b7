import PipelineConfig.Document.Yaml.Node

/-!
# Nodes from tokens

Reads the nodes that tokens tell. Each reader but the first few knows how much further its
recursion may go; every second step takes a token, so twice the number of tokens is enough.
-/

namespace PipelineConfig.Document.Yaml

open NodeReader

/-- A node that is not written if one of some tokens comes next, else what a reader gives. -/
def unlessAt (tokens : List Token) (reader : NodeReader Node) : NodeReader Node := do
  if ← atAny tokens then return .absent else reader

/-- What a reader gives after a colon, or a node that is not written if there is no colon or one
of some tokens follows it. -/
def afterColon (tokens : List Token) (reader : NodeReader Node) : NodeReader Node := do
  if ← accept .value then unlessAt tokens reader else return .absent

mutual

/-- A node. In indented text it may be an indented collection; as the value of a mapping it may
also be a list that is not indented further than the mapping. -/
def node (inBlock besideKey : Bool) : Nat → NodeReader Node
  | 0 => failure
  | steps + 1 => do
    if let some (.alias name) ← peek then
      skip
      match List.lookup name (← get).1.anchors with
      | some number => return .alias number
      | none => failure
    else
      let before ← anchor
      let declared ← tag
      let anchor ← if before.isSome then pure before else anchor
      let tag ←
        match declared with
        | some (handle, rest) => do
          match (← get).1.resolve? handle rest with
          | some tag => pure (some tag)
          | none => failure
        | none => pure none
      content inBlock besideKey { anchor, tag } steps

/-- What stands at a node whose name and type have been read. -/
def content (inBlock besideKey : Bool) (properties : Properties) : Nat → NodeReader Node
  | 0 => failure
  | steps + 1 => do
    match ← peek with
    | some (.scalar text isPlain) => do
      skip
      return .scalar properties text isPlain
    | some .openList => do
      skip
      return .list properties (← flowItems true steps)
    | some .openMapping => do
      skip
      return .mapping properties (← flowEntries true steps)
    | token =>
      if besideKey && token == some .dash then
        return .list properties (← besideItems steps)
      else if inBlock && token == some .listStart then
        skip
        return .list properties (← blockItems steps)
      else if inBlock && token == some .mappingStart then
        skip
        return .mapping properties (← blockEntries steps)
      else if properties.anchor.isSome || properties.tag.isSome then
        return .scalar properties "" true
      else failure

/-- The members of an indented list, and its end. -/
def blockItems : Nat → NodeReader (List Node)
  | 0 => failure
  | steps + 1 => do
    if ← accept .dash then
      let item ← unlessAt [.dash, .collectionEnd] (node true false steps)
      return item :: (← blockItems steps)
    else
      expect .collectionEnd
      return []

/-- The members of a list that is not indented further than the mapping it stands in. -/
def besideItems : Nat → NodeReader (List Node)
  | 0 => failure
  | steps + 1 => do
    if ← accept .dash then
      let item ← unlessAt [.dash, .key, .value, .collectionEnd] (node true false steps)
      return item :: (← besideItems steps)
    else return []

/-- The entries of an indented mapping, and its end. -/
def blockEntries : Nat → NodeReader (List (Node × Node))
  | 0 => failure
  | steps + 1 => do
    if ← accept .key then
      let ends := [.key, .value, .collectionEnd]
      let key ← unlessAt ends (node true true steps)
      let value ← afterColon ends (node true true steps)
      return (key, value) :: (← blockEntries steps)
    else
      expect .collectionEnd
      return []

/-- The members of a list in brackets, and its end. A member may be a single entry of a mapping;
if its key is not written, the token in the place of the key does not count. -/
def flowItems (isFirst : Bool) : Nat → NodeReader (List Node)
  | 0 => failure
  | steps + 1 => do
    if ← accept .closeList then return []
    if !isFirst then expect .comma
    if ← accept .key then
      let key ←
        if ← atAny [.value, .comma, .closeList] then do
          skip
          pure Node.absent
        else node false false steps
      let value ← afterColon [.comma, .closeList] (node false false steps)
      return .mapping {} [(key, value)] :: (← flowItems false steps)
    else if ← accept .closeList then return []
    else
      let item ← node false false steps
      return item :: (← flowItems false steps)

/-- The entries of a mapping in brackets, and its end. -/
def flowEntries (isFirst : Bool) : Nat → NodeReader (List (Node × Node))
  | 0 => failure
  | steps + 1 => do
    if ← accept .closeMapping then return []
    if !isFirst then expect .comma
    if ← accept .key then
      let key ← unlessAt [.value, .comma, .closeMapping] (node false false steps)
      let value ← afterColon [.comma, .closeMapping] (node false false steps)
      return (key, value) :: (← flowEntries false steps)
    else if ← accept .closeMapping then return []
    else
      let key ← node false false steps
      return (key, .absent) :: (← flowEntries false steps)

end

/-- What the directives before a document say: the version may be given once, and each handle may
be declared once. -/
def directives? (hasVersion : Bool) (handles : List (String × String)) :
    List Token → Option (List (String × String) × List Token)
  | .version major minor :: rest =>
    if hasVersion || major ≠ 1 || (minor ≠ 1 && minor ≠ 2) then none
    else directives? true handles rest
  | .handle name start :: rest =>
    if (List.lookup name handles).isSome then none
    else directives? hasVersion ((name, start) :: handles) rest
  | tokens => some (handles, tokens)

/-- What handles stand for that no directive declares. -/
def defaultHandles : List (String × String) := [("!", "!"), ("!!", "tag:yaml.org,2002:")]

/-- Whether a document has no node of its own, given the tokens after its mark. -/
def isBare : List Token → Bool
  | [] => true
  | token :: _ =>
    match token with
    | .version .. | .handle .. | .documentStart | .documentEnd => true
    | _ => false

/-- The only document of a text, if it has one. A text without any token has none. -/
def document? (tokens : List Token) : Option (Option Node) := do
  if tokens.isEmpty then return none
  let (handles, rest) ← directives? false [] tokens
  let hasDirectives := tokens.length != rest.length
  let isMarked := rest.head? == some .documentStart
  if hasDirectives && !isMarked then none
  else
    let rest := if isMarked then rest.drop 1 else rest
    let names : Names := { handles := handles ++ defaultHandles }
    let (node, _, rest) ←
      if isMarked && isBare rest then some (.absent, names, rest)
      else node true false (2 * rest.length + 2) (names, rest)
    if rest.all (· == .documentEnd) then return some node else none

end PipelineConfig.Document.Yaml
