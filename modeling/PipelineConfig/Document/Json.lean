import PipelineConfig.Document.Json.Token

/-!
# JSON documents

Reads the value of a JSON text. The tokens are read one by one, with the lists and mappings that
are still open on a stack.
-/

namespace PipelineConfig.Document.Json

/-- A list or mapping that is still open. Members stand with the last first. -/
inductive Frame where
  /-- An open list. -/
  | list (items : List Value)
  /-- An open mapping. -/
  | mapping (entries : List (Value × Value))
  /-- An open mapping after a key. -/
  | entry (entries : List (Value × Value)) (key : Value)

/-- What may come next. -/
inductive Expected where
  /-- A value. -/
  | value
  /-- A value, or the end of a list. -/
  | item
  /-- A key. -/
  | key
  /-- A key, or the end of a mapping. -/
  | firstKey
  /-- The colon after a key. -/
  | colon
  /-- A comma, or the end of what is open. -/
  | more
  /-- Nothing. -/
  | ending (value : Value)

/-- The greatest number of lists and mappings inside one another that can be read. -/
def depthLimit : Nat := 127

/-- A list or mapping, or something unreadable if it is too deep. -/
def limited (frames : List Frame) (value : Value) : Value :=
  if frames.length < depthLimit then value else .unreadable

/-- Put a finished value where it belongs. -/
def place (value : Value) : List Frame → Option (List Frame × Expected)
  | [] => some ([], .ending value)
  | .list items :: frames => some (.list (value :: items) :: frames, .more)
  | .entry entries key :: frames => some (.mapping ((key, value) :: entries) :: frames, .more)
  | .mapping _ :: _ => none

/-- Close what is open last. -/
def close (frames : List Frame) (token : Token) : Option (List Frame × Expected) :=
  match token, frames with
  | .closeList, .list items :: frames => place (limited frames (.list items.reverse)) frames
  | .closeMapping, .mapping entries :: frames =>
    place (limited frames (.mapping entries.reverse)) frames
  | _, _ => none

/-- What is open and what may come next after a token that starts a value. -/
def start (frames : List Frame) : Token → Option (List Frame × Expected)
  | .openList => some (.list [] :: frames, .item)
  | .openMapping => some (.mapping [] :: frames, .firstKey)
  | .quoted value | .bare value => place value frames
  | _ => none

/-- What is open and what may come next after one more token. -/
def advance (frames : List Frame) (expected : Expected) (token : Token) :
    Option (List Frame × Expected) :=
  match expected, token with
  | .value, token => start frames token
  | .item, .closeList => close frames token
  | .item, token => start frames token
  | .firstKey, .closeMapping => close frames token
  | .firstKey, .quoted key | .key, .quoted key =>
    match frames with
    | .mapping entries :: frames => some (.entry entries key :: frames, .colon)
    | _ => none
  | .colon, .colon => some (frames, .value)
  | .more, .comma =>
    match frames with
    | .list _ :: _ => some (frames, .value)
    | .mapping _ :: _ => some (frames, .key)
    | _ => none
  | .more, token => close frames token
  | _, _ => none

/-- The value that tokens make. -/
def ofTokens? (frames : List Frame) : Expected → List Token → Option Value
  | .ending value, [] => some value
  | _, [] => none
  | expected, token :: rest =>
    (advance frames expected token).bind fun (frames, expected) => ofTokens? frames expected rest

/-- The value of a text, if it is a JSON text. -/
def read? (text : String) : Option Value := (tokens? text.toList).bind (ofTokens? [] .value)

end PipelineConfig.Document.Json
