import PipelineConfig.Command

/-!
# The help text

What is told to someone who asks for help or for the version, or whose command line is not well
formed.
-/

namespace PipelineConfig.Usage

/-- The help text. -/
def helpText : String :=
  "Validate pipeline definitions against each other and inspect their dependency graph.\n\n" ++
  "Usage: pipeline-config [OPTIONS] COMMAND CONFIG\n\n" ++
  "Commands:\n" ++
  "  validate    Validate pipelines against the rest of the configuration\n" ++
  "                -p, --pipeline NAME  Validate only this pipeline\n" ++
  "                -f, --format FORMAT  text or json\n" ++
  "  graph       Show the pipeline dependency graph\n" ++
  "                -f, --format FORMAT  text, dot or mermaid\n" ++
  "  can-delete  Show which pipelines can be deleted\n" ++
  "                -f, --format FORMAT  text or json\n" ++
  "  materials   List materials by fingerprint and the pipelines using them\n" ++
  "                --shared             Only materials used by more than one pipeline\n\n" ++
  "Options:\n" ++
  "  -v, --verbose        Enable verbose output\n" ++
  "  -C, --directory DIR  Start from this directory\n" ++
  "  -h, --help           Print help\n" ++
  "  -V, --version        Print the version\n"

/-- The version. -/
def versionText : String := "pipeline-config 0.1.0\n"

/-- The hint after a command line that is not well formed. -/
def hintText : String :=
  "The command line is not well formed. For more information, try '--help'.\n"

end PipelineConfig.Usage
