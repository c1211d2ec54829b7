import PipelineConfig.Command
import PipelineConfig.Deletion
import PipelineConfig.Document.Json.Printing
import PipelineConfig.Graph.Rendering
import PipelineConfig.Inventory
import PipelineConfig.Load
import PipelineConfig.Verdict

/-!
# The output of the commands

What a command writes, and the failure it ends with if it does. A command that cannot read its
configuration writes nothing.
-/

namespace PipelineConfig

/-- What came of a command. -/
structure Output where
  /-- What it writes. -/
  text : String
  /-- What it fails with. -/
  failure : Option Failure := none
deriving DecidableEq, Repr

namespace Output

/-- A failure before anything is written. -/
def ofFailure (failure : Failure) : Output := ⟨"", some failure⟩

/-- A line that tells of something good. -/
def passedLine (text : String) : String := s!"  ✓ {text}\n"

/-- A line that tells of something bad. -/
def failedLine (text : String) : String := s!"  ✗ {text}\n"

/-- A title over everything, underlined at least forty characters wide. -/
def title (text : String) : String :=
  text ++ "\n" ++ String.ofList (List.replicate (max text.utf8ByteSize 40) '═') ++ "\n"

/-- A value as the whole output. -/
def document (value : Document.Value) : String := Document.Json.print value ++ "\n"

end Output

namespace Verdict

/-- The definition of a verdict as its line names it. -/
def label (verdict : Verdict) (verbose : Bool) : String :=
  let name := s!"{verdict.kind} '{verdict.name.text}'"
  match verbose, verdict.group with
  | true, some group => s!"{name} ({group})"
  | _, _ => name

/-- A finding as a line. -/
def findingLine (found : Finding) : String :=
  s!"      {found.location} [{found.field}]: {found.message}\n"

/-- A verdict as lines. -/
def lines (verdict : Verdict) (verbose : Bool) : String :=
  if verdict.valid then Output.passedLine (verdict.label verbose)
  else
    Output.failedLine (verdict.label verbose) ++ String.join (verdict.findings.map findingLine)

/-- Verdicts as text. -/
def report (verdicts : List Verdict) (verbose : Bool) : String :=
  "Validating configuration...\n\n" ++
    String.join (verdicts.map fun verdict => verdict.lines verbose) ++ "\n" ++
    if verdicts.all Verdict.valid then "Configuration is valid!\n" else ""

end Verdict

namespace DeletionCheck

/-- A deletion check as a line. -/
def line (check : DeletionCheck) : String :=
  let told := s!"{check.name.text}: {check.message}"
  if check.isAllowed then Output.passedLine told else Output.failedLine told

/-- A deletion check as a document value. -/
def toValue (check : DeletionCheck) : Document.Value :=
  .record [("can_delete", some (.bool check.isAllowed)), ("message", some (.text check.message))]

/-- Deletion checks as a document value, in the order of the spelled names. -/
def listing (checks : List DeletionCheck) : Document.Value :=
  let sorted := checks.mergeSort fun left right => (compare left.name.text right.name.text).isLE
  .record (sorted.map fun check => (check.name.text, some check.toValue))

end DeletionCheck

namespace InventoryItem

/-- An item as lines. -/
def lines (item : InventoryItem) (verbose : Bool) : String :=
  s!"\n{item.description}:\n" ++ (if verbose then s!"  {item.fingerprint}\n" else "") ++
    String.join (item.pipelines.map fun name => s!"  • {name}\n")

/-- Items as text. -/
def report (items : List InventoryItem) (verbose : Bool) : String :=
  if items.isEmpty then "No materials found.\n"
  else String.join (items.map fun item => item.lines verbose)

end InventoryItem

/-- The graph in one of its drawings. Only the numbered list needs an order to exist. -/
def DependencyGraph.draw (graph : DependencyGraph) : Drawing → Except Failure String
  | .text => graph.text
  | .dot => .ok graph.dot
  | .mermaid => .ok graph.mermaid

namespace Command

/-- What came of a command on a configuration. -/
def run [Pattern.Engine] (command : Command) (verbose : Bool) (config : Configuration) : Output :=
  let catalog := Catalog.ofConfiguration config
  match command with
  | .validate only format =>
    match config.verdicts only, format with
    | .error failure, _ => .ofFailure failure
    | .ok verdicts, .text => ⟨Verdict.report verdicts verbose, Failure.ofVerdicts? verdicts⟩
    | .ok verdicts, .json =>
      ⟨Output.document (.list (verdicts.map Verdict.toValue)), Failure.ofVerdicts? verdicts⟩
  | .graph drawing =>
    match (DependencyGraph.ofCatalog catalog).draw drawing with
    | .error failure => .ofFailure failure
    | .ok text => { text := text ++ "\n" }
  | .canDelete .text =>
    { text := Output.title "Pipeline deletion" ++
        String.join (catalog.deletionChecks.map DeletionCheck.line) }
  | .canDelete .json => { text := Output.document (DeletionCheck.listing catalog.deletionChecks) }
  | .materials shared =>
    let items := catalog.inventory.filter fun item => !shared || item.isShared
    { text := InventoryItem.report items verbose }

end Command

/-- What came of an invocation, given what stands at its path. -/
def Invocation.run [Pattern.Engine] (invocation : Invocation) (entry : FileEntry) : Output :=
  match Configuration.load invocation.config entry with
  | .error failure => .ofFailure failure
  | .ok config => invocation.command.run invocation.verbose config

end PipelineConfig
