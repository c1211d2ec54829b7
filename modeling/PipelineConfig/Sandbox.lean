import PipelineConfig.Text.Split

/-!
# Paths that stay inside

A relative path stays inside the folder it starts from if, followed component by component, it
never climbs above that folder.
-/

namespace PipelineConfig.Sandbox

/-- A part of a path. -/
inductive Component where
  /-- The topmost folder. -/
  | root
  /-- The folder itself. -/
  | current
  /-- The enclosing folder. -/
  | parent
  /-- An entry of the folder. -/
  | entry (name : List Char)
deriving DecidableEq, Repr

/-- The component that a text between slashes stands for. Nothing stands for no component, and a
single dot for none but at the start of a path. -/
def Component.ofPiece? : List Char → Option Component
  | [] | ['.'] => none
  | ['.', '.'] => some .parent
  | name => some (.entry name)

/-- The components of a path. A slash at the start stands for the topmost folder, a single dot at
the start for the folder itself. -/
def components (path : String) : List Component :=
  let pieces := Text.splitChars '/' path.toList
  let start : List Component :=
    if path.toList.head? = some '/' then [.root]
    else if pieces.head? = some ['.'] then [.current]
    else []
  start ++ pieces.filterMap Component.ofPiece?

/-- Whether the components never climb above the start when they are followed from a folder `depth`
levels below it. -/
def staysInside : Nat → List Component → Bool
  | _, [] => true
  | depth, .entry _ :: rest => staysInside (depth + 1) rest
  | depth, .current :: rest => staysInside depth rest
  | 0, .parent :: _ => false
  | up + 1, .parent :: rest => staysInside up rest
  | _, .root :: _ => false

/-- Whether a path is relative and never climbs above its start. -/
def isInside (path : String) : Bool := staysInside 0 (components path)

end PipelineConfig.Sandbox
