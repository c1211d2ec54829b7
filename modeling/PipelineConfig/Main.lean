import PipelineConfig.Command.Line
import PipelineConfig.Command.Output
import PipelineConfig.Command.Usage

/-!
# The program

Reads the file that an invocation names, writes what came of it, and ends with a status other than
zero when something failed.
-/

namespace PipelineConfig

/-- The path of the configuration, seen from the directory of the invocation. -/
def Invocation.location (invocation : Invocation) : String :=
  match invocation.directory with
  | some directory =>
    if invocation.config.startsWith "/" then invocation.config
    else directory ++ "/" ++ invocation.config
  | none => invocation.config

/-- What stands at a path of the file system. -/
def readEntry (path : String) : IO FileEntry := do
  try return .file (← IO.FS.readBinFile path)
  catch
    | .noFileOrDirectory .. => return .absent
    | _ => return .folder

end PipelineConfig

open PipelineConfig

def main (words : List String) : IO UInt32 := do
  match Invocation.ofWords words with
  | .error .help => IO.print Usage.helpText; return 0
  | .error .version => IO.print Usage.versionText; return 0
  | .error .invalid => IO.eprint Usage.hintText; return 2
  | .ok invocation =>
    let output := invocation.run (← readEntry invocation.location)
    IO.print output.text
    match output.failure with
    | none => return 0
    | some failure => IO.eprintln s!"Error: {failure.message}"; return 1
