import PipelineConfig.Document.Json
import PipelineConfig.Document.Toml
import PipelineConfig.Document.Yaml
import PipelineConfig.Document.Reading
import PipelineConfig.Failure

/-!
# Loading a configuration

The ending of a path tells the format of the file. Loading is a function of what stands at the
path, so it needs no file system: a missing file, a folder and bytes that are no text are cases of
its input.
-/

namespace PipelineConfig

/-- What stands at a path. -/
inductive FileEntry where
  /-- Nothing stands there. -/
  | absent
  /-- Something stands there that has no content, such as a folder. -/
  | folder
  /-- A file stands there. -/
  | file (bytes : ByteArray)

namespace FileEntry

/-- The content, when it is text. -/
def text? : FileEntry → Option String
  | .file bytes => String.fromUTF8? bytes
  | _ => none

end FileEntry

/-- The last part of a path that names something: empty parts and single dots name nothing. -/
def fileName? (path : List Char) : Option (List Char) :=
  ((Text.splitChars '/' path).filter fun part => part != [] && part != ['.']).getLast?

/-- What follows the last dot of a file name, when something stands before that dot. -/
def extension? (name : List Char) : Option (List Char) :=
  if name = ['.', '.'] then none
  else
    match (Text.splitChars '.' name).reverse with
    | [] | [_] | [_, []] => none
    | extension :: _ => some extension

namespace Format

/-- The format that an extension stands for, in exactly this spelling. -/
def ofExtension? : String → Option Format
  | "yaml" | "yml" => some .yaml
  | "json" => some .json
  | "toml" => some .toml
  | _ => none

/-- The format of the file at a path. -/
def ofPath? (path : String) : Option Format := do
  let name ← fileName? path.toList
  let extension ← extension? name
  ofExtension? (String.ofList extension)

/-- The value that a text of a format holds, as far as a configuration is read from it. -/
def read? : Format → String → Option Document.Value
  | .json => Document.Json.read?
  | .yaml => Document.Yaml.read? Configuration.outline
  | .toml => Document.Toml.read?

end Format

namespace Configuration

/-- The configuration that a text of a format holds. -/
def ofText? (format : Format) (text : String) : Option Configuration :=
  (format.read? text).bind (Configuration.ofValue? format)

/-- The configuration at a path. Of several faults the first in this order counts: nothing stands
there, it is no text, its format is unknown, its text is malformed. -/
def load (path : String) (entry : FileEntry) : Except Failure Configuration :=
  match entry, entry.text?, Format.ofPath? path with
  | .absent, _, _ => .error (.configNotFound path)
  | _, none, _ => .error (.unreadable path)
  | _, some _, none => .error (.unsupportedFormat path)
  | _, some text, some format =>
    match ofText? format text with
    | some config => .ok config
    | none => .error (.malformed format)

end Configuration

end PipelineConfig
