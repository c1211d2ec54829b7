/-!
# Commands

What can be asked for on a command line. Every command works on one configuration file.
-/

namespace PipelineConfig

/-- The forms of a report. -/
inductive ReportFormat where
  /-- Lines for a reader. -/
  | text
  /-- JavaScript object notation. -/
  | json
deriving DecidableEq, Repr

namespace ReportFormat

/-- The form of a name, in exactly this spelling. -/
def ofName? : String → Option ReportFormat
  | "text" => some text
  | "json" => some json
  | _ => none

end ReportFormat

/-- The drawings of a graph. -/
inductive Drawing where
  /-- A numbered list. -/
  | text
  /-- A DOT graph. -/
  | dot
  /-- A Mermaid flow chart. -/
  | mermaid
deriving DecidableEq, Repr

namespace Drawing

/-- The drawing of a name, in exactly this spelling. -/
def ofName? : String → Option Drawing
  | "text" => some text
  | "dot" => some dot
  | "mermaid" => some mermaid
  | _ => none

end Drawing

/-- The names of the commands. -/
inductive Verb where
  /-- Validate the definitions of a configuration. -/
  | validate
  /-- Draw the dependency graph. -/
  | graph
  /-- Tell which pipelines can be deleted. -/
  | canDelete
  /-- List the materials. -/
  | materials
deriving DecidableEq, Repr

namespace Verb

/-- The command of a name, in exactly this spelling. -/
def ofName? : String → Option Verb
  | "validate" => some validate
  | "graph" => some graph
  | "can-delete" => some canDelete
  | "materials" => some materials
  | _ => none

end Verb

/-- What to do with a configuration. -/
inductive Command where
  /-- Validate all definitions, or the pipelines of one name. -/
  | validate (pipeline : Option String) (format : ReportFormat)
  /-- Draw the dependency graph. -/
  | graph (drawing : Drawing)
  /-- Tell which pipelines can be deleted. -/
  | canDelete (format : ReportFormat)
  /-- List the materials, all of them or those that several pipelines share. -/
  | materials (shared : Bool)
deriving DecidableEq, Repr

/-- A command with all that goes with it. -/
structure Invocation where
  /-- The command. -/
  command : Command
  /-- The path of the configuration. -/
  config : String
  /-- Whether the output has more detail. -/
  verbose : Bool := false
  /-- The directory that the path starts from. -/
  directory : Option String := none
deriving DecidableEq, Repr

/-- Why a command line gives no command. -/
inductive Usage where
  /-- It asks for help. -/
  | help
  /-- It asks for the version. -/
  | version
  /-- It is not well formed. -/
  | invalid
deriving DecidableEq, Repr

end PipelineConfig
