import PipelineConfig.Pipeline
import PipelineConfig.Problem
import PipelineConfig.Text.Blank
import PipelineConfig.Text.Split

/-!
# Label templates

A label template refers to the run number, to environment variables and to materials by tokens:
the texts between a dollar sign with an opening brace and the next closing brace.
-/

namespace PipelineConfig.Label

/-- Where in a label template a character stands. -/
inductive Place where
  /-- Between tokens; the character before may be a dollar sign. -/
  | outside (afterDollar : Bool)
  /-- In a token that began with these characters, the last first. -/
  | inside (token : List Char)

/-- The tokens that close from a place on. A token that is never closed is none. -/
def tokensFrom : Place → List Char → List (List Char)
  | _, [] => []
  | .outside afterDollar, char :: rest =>
    if afterDollar && char = '\x7b' then tokensFrom (.inside []) rest
    else tokensFrom (.outside (char = '$')) rest
  | .inside token, char :: rest =>
    if char = '\x7d' then token.reverse :: tokensFrom (.outside false) rest
    else tokensFrom (.inside (char :: token)) rest

/-- The tokens of a label template from left to right. -/
def tokens (template : List Char) : List (List Char) := tokensFrom (.outside false) template

/-- What a token refers to: the part before the marks of a shortened revision, trimmed. -/
def reference (token : List Char) : List Char :=
  Text.trimChars (Text.beforeFirst ['[', ':'] token)

/-- Whether a reference is to the run number, to an environment variable or to a material. -/
def resolves (materials : List Material) (reference : List Char) : Bool :=
  let name : Name := ⟨String.ofList reference⟩
  name.same ⟨"COUNT"⟩ || "env:".toList.isPrefixOf name.folded.toList ||
    (materials.filterMap Material.effectiveName?).any fun material => material.same name

/-- What is wrong with the label template of a pipeline. -/
def problems (pipeline : Pipeline) : List Problem :=
  let template := pipeline.labelTemplate.toList
  match tokens template with
  | [] =>
    Problem.when (!Text.occurs ['#', '\x7b'] template) (.constantLabel pipeline.labelTemplate)
  | found =>
    (found.map reference).filterMap fun reference =>
      if resolves pipeline.materials.items reference then none
      else some (.unknownLabelMaterial pipeline.name (String.ofList reference))

end PipelineConfig.Label
