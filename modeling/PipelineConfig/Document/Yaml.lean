import PipelineConfig.Document.Field
import PipelineConfig.Document.Outline
import PipelineConfig.Document.Yaml.Layout
import PipelineConfig.Document.Yaml.Tree

/-!
# YAML documents

Reads the value of a YAML text as far as an outline asks for it. References stand for what they
refer to, up to a depth and a number of references followed; a node that contains itself therefore
has a part that cannot be read, and so has a text in which a few references stand for a great many
nodes. What nobody looks at is not followed, so it may hold any references. An empty text is an
empty scalar.
-/

namespace PipelineConfig.Document.Yaml

/-- A node under the number of its name, if it has one. -/
def named (properties : Properties) (node : Node) : List (Nat × Node) :=
  properties.anchor.toList.map fun number => (number, node)

mutual

/-- The nodes with names inside a node, in the order in which they begin. -/
def Node.anchored : Node → List (Nat × Node)
  | .alias _ => []
  | .scalar properties text isPlain => named properties (.scalar properties text isPlain)
  | .list properties items => named properties (.list properties items) ++ anchoredItems items
  | .mapping properties entries =>
    named properties (.mapping properties entries) ++ anchoredEntries entries

/-- The nodes with names inside the members of a list. -/
def anchoredItems : List Node → List (Nat × Node)
  | [] => []
  | item :: rest => item.anchored ++ anchoredItems rest

/-- The nodes with names inside the entries of a mapping. -/
def anchoredEntries : List (Node × Node) → List (Nat × Node)
  | [] => []
  | (key, value) :: rest => key.anchored ++ value.anchored ++ anchoredEntries rest

end

mutual

/-- The number of marks in a node: one for a scalar or reference, two around a list or mapping. -/
def Node.marks : Node → Nat
  | .alias _ | .scalar .. => 1
  | .list _ items => marksOfItems items + 2
  | .mapping _ entries => marksOfEntries entries + 2

/-- The number of marks in the members of a list. -/
def marksOfItems : List Node → Nat
  | [] => 0
  | item :: rest => item.marks + marksOfItems rest

/-- The number of marks in the entries of a mapping. -/
def marksOfEntries : List (Node × Node) → Nat
  | [] => 0
  | (key, value) :: rest => key.marks + value.marks + marksOfEntries rest

end

/-- A value with its declared type, if it has one. -/
def tagged (properties : Properties) (value : Value) : Value :=
  match properties.tag with
  | some tag => .tagged tag value
  | none => value

/-- The node that a reference stands for, if it may still be followed. Of two nodes with the same
number the later counts. The state is the number of references that may be followed. -/
def target? (anchors : List (Nat × Node)) : Node → StateM Nat (Option Node)
  | .alias number => do
    match ← get with
    | 0 => return none
    | left + 1 =>
      set left
      return List.lookup number anchors.reverse
  | node => return some node

/-- The value of a node in which lists and mappings go no deeper than a limit. -/
def toValue (anchors : List (Nat × Node)) (depth : Nat) (outline : Outline) (node : Node) :
    StateM Nat Value := do
  match ← target? anchors node, depth with
  | some (.scalar properties text isPlain), _ =>
    return tagged properties (if isPlain then .plain text else .text text)
  | some (.list properties items), depth + 1 =>
    return tagged properties (.list (← items.mapM (toValue anchors depth outline.item)))
  | some (.mapping properties entries), depth + 1 =>
    let entries ← entries.mapM fun entry => do
      let key ← toValue anchors depth .whole entry.1
      match outline.at? key.text? with
      | some outline => return (key, ← toValue anchors depth outline entry.2)
      | none => return (key, .unreadable)
    return tagged properties (.mapping entries)
  | _, _ => return .unreadable

/-- The greatest number of lists and mappings inside one another that can be read. -/
def depthLimit : Nat := 128

/-- The number of references that may be followed for each mark of a text. -/
def referenceLimit : Nat := 100

/-- The value of a text, if it is a YAML text with at most one document. -/
def read? (outline : Outline) (text : String) : Option Value := do
  let tokens ← tokens? text
  match ← document? tokens with
  | some node =>
    return ((toValue node.anchored depthLimit outline node).run (referenceLimit * node.marks)).1
  | none => return .plain ""

end PipelineConfig.Document.Yaml
