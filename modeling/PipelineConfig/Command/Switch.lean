import PipelineConfig.Command

/-!
# Switches

The words of a command line that start with a hyphen. Before the name of a command other switches
are known than after it.
-/

namespace PipelineConfig

/-- The switches. -/
inductive Switch where
  /-- More detail. -/
  | verbose
  /-- The directory to start from. -/
  | directory
  /-- The one pipeline to look at. -/
  | pipeline
  /-- The form of the output. -/
  | format
  /-- Only what is shared. -/
  | shared
  /-- A request for help. -/
  | help
  /-- A request for the version. -/
  | version
deriving DecidableEq, Repr

namespace Switch

/-- The word of a switch after two hyphens. -/
def longName : Switch → String
  | verbose => "verbose"
  | directory => "directory"
  | pipeline => "pipeline"
  | format => "format"
  | shared => "shared"
  | help => "help"
  | version => "version"

/-- The letter of a switch after one hyphen. -/
def letter? : Switch → Option Char
  | verbose => some 'v'
  | directory => some 'C'
  | pipeline => some 'p'
  | format => some 'f'
  | shared => none
  | help => some 'h'
  | version => some 'V'

/-- Whether a value belongs to the switch. -/
def takesValue : Switch → Bool
  | directory | pipeline | format => true
  | verbose | shared | help | version => false

/-- The switches known before the name of a command and after it. -/
def known : Option Verb → List Switch
  | none => [verbose, directory, help, version]
  | some .validate => [verbose, directory, pipeline, format, help]
  | some .graph | some .canDelete => [verbose, directory, format, help]
  | some .materials => [verbose, directory, shared, help]

/-- The known switch of a long name. -/
def ofLongName? (verb : Option Verb) (name : String) : Option Switch :=
  (known verb).find? fun switch => switch.longName == name

/-- The known switch of a letter. -/
def ofLetter? (verb : Option Verb) (letter : Char) : Option Switch :=
  (known verb).find? fun switch => switch.letter? == some letter

/-- Whether a value will do for a switch. -/
def accepts (verb : Option Verb) (switch : Switch) (value : String) : Bool :=
  match switch with
  | directory => value != ""
  | format =>
    if verb = some .graph then (Drawing.ofName? value).isSome
    else (ReportFormat.ofName? value).isSome
  | _ => true

end Switch

/-- A word of a command line by its looks. -/
inductive Word where
  /-- Two hyphens alone. -/
  | separator
  /-- A long name, perhaps with a value after an equals sign. -/
  | long (name : String) (value : Option String)
  /-- Letters after a hyphen. -/
  | letters (letters : List Char)
  /-- Any other word; a lone hyphen is one. -/
  | plain (text : String)
deriving DecidableEq, Repr

namespace Word

/-- A word by its looks. -/
def ofString (text : String) : Word :=
  match text.toList with
  | ['-', '-'] => separator
  | '-' :: '-' :: rest =>
    let name := String.ofList (rest.takeWhile fun char => char != '=')
    match rest.dropWhile fun char => char != '=' with
    | [] => long name none
    | _ :: value => long name (some (String.ofList value))
  | '-' :: first :: rest => letters (first :: rest)
  | _ => plain text

end Word

end PipelineConfig
