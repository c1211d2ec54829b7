import PipelineConfig.Document.Toml.Syntax

/-!
# TOML documents

Reads the value of a TOML text. Statements are taken one by one; the table of the last header is
kept open until the next header and then put where its path leads.
-/

namespace PipelineConfig.Document.Toml

open PipelineConfig.Text

/-- A document after some of its statements. -/
structure Draft where
  /-- The tables that are closed. -/
  root : Table
  /-- The table that is open. -/
  current : Table
  /-- The header of the open table, if it has one. -/
  header : Option Statement

namespace Draft

/-- The document before its first statement. -/
def start : Draft := ⟨.empty, .empty, none⟩

/-- Close the open table. -/
def close? (draft : Draft) : Option Table :=
  match draft.header with
  | none => some draft.current
  | some (.table path key) => draft.root.attach? path key draft.current.entries
  | some (.item path key) => draft.root.attachItem? path key draft.current.entries
  | some (.entry ..) => none

/-- Open the table of a header. A table that stands on the way to another header may be opened
once; one that is declared or made by dotted keys may not. -/
def openTable? (root : Table) (path : List String) (key : String) : Option Draft :=
  match root.lookup? path key with
  | some none => some ⟨root, .empty, some (.table path key)⟩
  | some (some (.table .implied entries)) =>
    some ⟨root, ⟨.declared, entries⟩, some (.table path key)⟩
  | _ => none

/-- Open one of several tables with the same header. -/
def openItem? (root : Table) (path : List String) (key : String) : Option Draft :=
  match root.lookup? path key with
  | some none | some (some (.tables _)) => some ⟨root, .empty, some (.item path key)⟩
  | _ => none

/-- The document after one more statement. -/
def step? (draft : Draft) : Statement → Option Draft
  | .table path key => draft.close?.bind fun root => openTable? root path key
  | .item path key => draft.close?.bind fun root => openItem? root path key
  | .entry path key value =>
    (draft.current.insert? path key value).map fun current => { draft with current }

end Draft

/-- The value of a text, if it is a TOML text. -/
def read? (text : String) : Option Value := do
  let statements ← Parser.run? statements text.toList
  let draft ← statements.foldlM Draft.step? Draft.start
  return (← draft.close?).toValue

end PipelineConfig.Document.Toml
