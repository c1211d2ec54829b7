import PipelineConfig.Document.Value
import PipelineConfig.Review

/-!
# Verdicts

A verdict is what the review of one definition came to. A configuration is judged against the
catalog of its own pipelines.
-/

namespace PipelineConfig

/-- What the review of a template or pipeline came to. -/
structure Verdict where
  /-- The name of the definition. -/
  name : Name
  /-- The group, if the definition is a pipeline; templates have none. -/
  group : Option String
  /-- Whether nothing is wrong with it. -/
  valid : Bool
  /-- What is recorded on its nodes. -/
  findings : List Finding
deriving DecidableEq, Repr

namespace Verdict

/-- The verdict on a template. -/
def ofTemplate (template : Template) (catalog : Catalog) : Verdict :=
  let (valid, template) := template.validate catalog
  ⟨template.name, none, valid, template.findings⟩

/-- The verdict on a pipeline of a group. -/
def ofPipeline [Pattern.Engine] (group : String) (pipeline : Pipeline) (catalog : Catalog) :
    Verdict :=
  let (valid, pipeline) := pipeline.validate catalog
  ⟨pipeline.name, some group, valid, pipeline.findings⟩

/-- What kind of definition the verdict is on. -/
def kind (verdict : Verdict) : String := if verdict.group.isSome then "pipeline" else "template"

/-- A verdict as a document value. -/
def toValue (verdict : Verdict) : Document.Value :=
  let finding (found : Finding) : Document.Value :=
    .record [("location", some (.text found.location)), ("field", some (.text found.field)),
      ("message", some (.text found.message))]
  .record [("kind", some (.text verdict.kind)), ("name", some (.text verdict.name.text)),
    ("group", some ((verdict.group.map .text).getD .null)), ("valid", some (.bool verdict.valid)),
    ("errors", some (.list (verdict.findings.map finding)))]

end Verdict

namespace Configuration

/-- The verdicts on all templates against a catalog. -/
def templateVerdicts (config : Configuration) (catalog : Catalog) : List Verdict :=
  config.templates.map fun template => .ofTemplate template catalog

variable [Pattern.Engine]

/-- The verdicts on all declared pipelines against a catalog. -/
def pipelineVerdicts (config : Configuration) (catalog : Catalog) : List Verdict :=
  config.declarations.map fun (group, pipeline) => .ofPipeline group pipeline catalog

/-- The verdicts on all definitions, or on the pipelines of one name if there are any. -/
def verdicts (config : Configuration) (only : Option String) : Except Failure (List Verdict) :=
  let catalog := Catalog.ofConfiguration config
  match only with
  | none => .ok (config.templateVerdicts catalog ++ config.pipelineVerdicts catalog)
  | some name =>
    match config.declarations.filter fun declared => declared.2.name.same ⟨name⟩ with
    | [] => .error (.pipelineNotFound name)
    | declared => .ok (declared.map fun (group, pipeline) => .ofPipeline group pipeline catalog)

end Configuration

/-- The failure that verdicts come to, when a definition is not valid. -/
def Failure.ofVerdicts? (verdicts : List Verdict) : Option Failure :=
  match (verdicts.filter fun verdict => !verdict.valid).length with
  | 0 => none
  | failed => some (.invalidDefinitions failed verdicts.length)

end PipelineConfig
