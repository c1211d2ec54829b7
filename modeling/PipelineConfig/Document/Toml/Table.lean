import PipelineConfig.Document.Value

/-!
# TOML tables

A TOML document builds its tables statement by statement. What a statement may add to a table
depends on how the table came to be: by a header of its own, by standing on the way to another
header, or by standing in a dotted key. A table that has been closed, such as one written inline,
is a value like any other.
-/

namespace PipelineConfig.Document.Toml

/-- How a table came to be. -/
inductive Origin where
  /-- A header names it, or it is a whole document or inline table. -/
  | declared
  /-- It stands on the way to the table of a header. -/
  | implied
  /-- It stands in a dotted key. -/
  | dotted
deriving DecidableEq, Repr

/-- What stands at a key. -/
inductive Node where
  /-- A value that is complete. -/
  | value (value : Value)
  /-- A table that may still grow. -/
  | table (origin : Origin) (entries : List (String × Node))
  /-- The tables of a header that is repeated, the last first. -/
  | tables (items : List (List (String × Node)))

/-- The entries of a table in the order of the document. -/
abbrev Entries := List (String × Node)

/-- A table with the way it came to be. -/
structure Table where
  /-- How the table came to be. -/
  origin : Origin
  /-- The entries. -/
  entries : Entries

namespace Table

/-- The table of a whole document, or of an inline table, before its first entry. -/
def empty : Table := ⟨.declared, []⟩

/-- What stands at a key. -/
def get? (table : Table) (key : String) : Option Node := List.lookup key table.entries

/-- Put something at a key, in the place of what stood there. -/
def put (table : Table) (key : String) (node : Node) : Table :=
  { table with entries := table.entries.filter (fun entry => entry.1 != key) ++ [(key, node)] }

/-- What stands at a key of the table at the end of a path. Tables that are missing on the way are
no hindrance, values are; of repeated tables the last is meant. -/
def lookupIn? (key : String) : List String → Table → Option (Option Node)
  | [], table => some (table.get? key)
  | part :: path, table =>
    match table.get? part with
    | none => some none
    | some (.table origin entries) => lookupIn? key path ⟨origin, entries⟩
    | some (.tables (last :: _)) => lookupIn? key path ⟨.declared, last⟩
    | some _ => none

/-- What stands at the key of a header. -/
def lookup? (table : Table) (path : List String) (key : String) : Option (Option Node) :=
  lookupIn? key path table

/-- Change the table at the end of a path. Tables that are missing on the way are made with the
given origin; of repeated tables the last is meant. A dotted key does not step into a table that a
header has declared. -/
def update? (origin : Origin) (change : Table → Option Table) : List String → Table → Option Table
  | [], table => change table
  | key :: path, table =>
    match table.get? key with
    | none =>
      (update? origin change path ⟨origin, []⟩).map fun inner =>
        table.put key (.table inner.origin inner.entries)
    | some (.table found entries) =>
      if origin = .dotted ∧ found = .declared then none
      else
        (update? origin change path ⟨found, entries⟩).map fun inner =>
          table.put key (.table inner.origin inner.entries)
    | some (.tables (last :: others)) =>
      (update? origin change path ⟨.declared, last⟩).map fun inner =>
        table.put key (.tables (inner.entries :: others))
    | some _ => none

/-- Put a value at a dotted key. The tables on the way must belong to dotted keys. -/
def insert? (table : Table) (path : List String) (key : String) (value : Value) : Option Table :=
  table.update? .dotted
    (fun inner =>
      if !path.isEmpty && inner.origin != .dotted then none
      else if (inner.get? key).isSome then none
      else some (inner.put key (.value value)))
    path

/-- Close a table: put it where the path of its header leads, in the place of what it grew from. -/
def attach? (root : Table) (path : List String) (key : String) (entries : Entries) : Option Table :=
  root.update? .implied (fun parent => some (parent.put key (.table .declared entries))) path

/-- Close one of the tables of a repeated header: put it behind those that are there. -/
def attachItem? (root : Table) (path : List String) (key : String) (entries : Entries) :
    Option Table :=
  root.update? .implied
    (fun parent =>
      match parent.get? key with
      | none => some (parent.put key (.tables [entries]))
      | some (.tables items) => some (parent.put key (.tables (entries :: items)))
      | some _ => none)
    path

end Table

mutual

/-- A node as a value. -/
def Node.toValue : Node → Value
  | .value value => value
  | .table _ entries => .mapping (entriesToValues entries)
  | .tables items => .list (tablesToValues items).reverse

/-- The entries of a table as keys and values. -/
def entriesToValues : List (String × Node) → List (Value × Value)
  | [] => []
  | (key, node) :: rest => (.text key, node.toValue) :: entriesToValues rest

/-- The tables of a repeated header as values. -/
def tablesToValues : List (List (String × Node)) → List Value
  | [] => []
  | entries :: rest => .mapping (entriesToValues entries) :: tablesToValues rest

end

/-- A table as a value. -/
def Table.toValue (table : Table) : Value := .mapping (entriesToValues table.entries)

end PipelineConfig.Document.Toml
