import PipelineConfig.Name
import PipelineConfig.Text.Split

/-!
# Failures

A failure stops an operation as a whole: a file that cannot be read, an edit that is refused, a
dependency walk that finds a loop. Problems inside a definition are no failures; they are recorded
on its nodes.
-/

namespace PipelineConfig

/-- The file formats of configurations. -/
inductive Format where
  /-- JavaScript object notation. -/
  | json
  /-- YAML documents. -/
  | yaml
  /-- TOML documents. -/
  | toml
deriving DecidableEq, Repr

/-- Why an operation stopped. -/
inductive Failure where
  /-- There is no file at the path. -/
  | configNotFound (path : String)
  /-- The file at the path has no text. -/
  | unreadable (path : String)
  /-- The path does not end like a known format. -/
  | unsupportedFormat (path : String)
  /-- The text is no configuration of the format. -/
  | malformed (format : Format)
  /-- There is no pipeline of the name. -/
  | pipelineNotFound (name : String)
  /-- There already is a pipeline of the name. -/
  | duplicatePipeline (name : String)
  /-- An edit has problems. -/
  | validationFailed (pipeline : String) (count : Nat)
  /-- Dependencies lead from a pipeline back to itself. -/
  | circularDependency (path : List Name)
  /-- A dependency names a pipeline that does not exist. -/
  | unknownPipeline (pipeline referencedBy : Name)
  /-- Definitions of a configuration have problems. -/
  | invalidDefinitions (failed total : Nat)
deriving DecidableEq, Repr

namespace Failure

/-- How a failure is told. -/
def message : Failure → String
  | configNotFound path => s!"Configuration file not found: {path}"
  | unreadable path => s!"Failed to read file '{path}'"
  | unsupportedFormat path => s!"Unsupported configuration format: {path}"
  | malformed .json => "JSON parsing error"
  | malformed .yaml => "YAML parsing error"
  | malformed .toml => "TOML parsing error"
  | pipelineNotFound name => s!"Pipeline '{name}' not found"
  | duplicatePipeline name => s!"Pipeline '{name}' already exists"
  | validationFailed pipeline count =>
    s!"Pipeline '{pipeline}' failed validation with {count} error(s)"
  | circularDependency path =>
    let loop := Text.joinWith " <- " (path.map Name.text)
    s!"Circular dependency: {loop}"
  | unknownPipeline pipeline referencedBy =>
    s!"Pipeline '{pipeline.text}' does not exist. It is used from pipeline '{referencedBy.text}'."
  | invalidDefinitions failed total => s!"{failed} of {total} definition(s) failed validation"

/-- The loop that a name closes on a walk: the walk from its first visit to that name on, or the
whole walk when it never came by, ended by the name. -/
def loopPath (walk : List Name) (closing : Name) : List Name :=
  match walk.dropWhile fun name => !name.same closing with
  | [] => walk ++ [closing]
  | loop => loop ++ [closing]

/-- The failure of a walk that a name leads back to. -/
def circular (walk : List Name) (closing : Name) : Failure :=
  circularDependency (loopPath walk closing)

end Failure

end PipelineConfig
