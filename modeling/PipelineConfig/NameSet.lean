import PipelineConfig.Name
import PipelineConfig.Table

/-!
# Sets of names

A set of names in the order of names. Each member is shown in one spelling: `add` keeps the
spelling that is there, `ofList` shows the last one given.
-/

namespace PipelineConfig

/-- A set of names, each in one spelling. -/
abbrev NameSet := Table Name Unit

namespace NameSet

/-- The members in order, each in the spelling it is kept in. -/
def toList (names : NameSet) : List Name := names.keys

/-- Whether a name is a member in any spelling. -/
def has (names : NameSet) (name : Name) : Bool := names.contains name

/-- Add a name. A member keeps its spelling. -/
def add (names : NameSet) (name : Name) : NameSet := names.insert name ()

/-- The set of the names of a list, each in the spelling in which it stands last. -/
def ofList (names : List Name) : NameSet :=
  names.foldl (fun members name => members.put name ()) ∅

/-- The set of the names of a list, each in the spelling in which it stands first. -/
def ofListFirst (names : List Name) : NameSet := names.foldl add ∅

theorem has_add (names : NameSet) (name other : Name) :
    (names.add name).has other = (other.same name || names.has other) := by
  rw [add, has, Table.contains, Table.get?_insert]
  cases hit : other.same name with
  | true =>
    have equal : (compare other name).isEq = true := by
      rw [Name.compare_eq_iff_same.2 hit]
      rfl
    simp [equal]
  | false =>
    have apart : (compare other name).isEq = false := by
      cases order : compare other name with
      | eq => exact absurd (Name.compare_eq_iff_same.1 order) (by simp [hit])
      | lt => rfl
      | gt => rfl
    simp [apart, has, Table.contains]

end NameSet

end PipelineConfig
