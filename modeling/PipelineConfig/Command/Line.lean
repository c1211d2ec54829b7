import PipelineConfig.Command.Switch

/-!
# Reading a command line

A command line is read word by word. A word is judged when it comes, so the first fault of a line
decides, and a request for help is granted when everything before it is well formed. Only a value
that is a word of its own is judged later, together with the next switch or operand on its side of
the command's name or, when none follows, at the end of the line.
-/

namespace PipelineConfig

/-- What the next word of a command line may be. -/
inductive Expectation where
  /-- A switch, the name of a command or its operand. -/
  | any
  /-- The value of a switch. -/
  | value (switch : Switch)
  /-- An operand, whatever it looks like. -/
  | operand
  /-- The command that help is asked for. -/
  | topic
  /-- No further word. -/
  | nothing
deriving DecidableEq, Repr

/-- A command line as far as it is read. -/
structure CommandLine where
  /-- The name of the command. -/
  verb : Option Verb := none
  /-- The switches before the name of the command. -/
  before : List (Switch × String) := []
  /-- The switches after it. -/
  after : List (Switch × String) := []
  /-- The path of the configuration. -/
  config : Option String := none
  /-- What the next word may be. -/
  expected : Expectation := .any
deriving DecidableEq, Repr

namespace CommandLine

/-- The switches on the side of the command's name where reading stands. -/
def current (line : CommandLine) : List (Switch × String) :=
  if line.verb.isSome then line.after else line.before

/-- Whether the switches on one side of the command's name will do, the last one first: each
stands once and has a value that it accepts. -/
def areSound (verb : Option Verb) : List (Switch × String) → Bool
  | [] => true
  | (switch, value) :: earlier =>
    switch.accepts verb value && (List.lookup switch earlier).isNone && areSound verb earlier

/-- Judge the switches on the side where reading stands. -/
def judged (line : CommandLine) : Except Usage CommandLine :=
  if areSound line.verb line.current then .ok line else .error .invalid

/-- Add a switch with its value on the side where reading stands. -/
def add (line : CommandLine) (switch : Switch) (value : String) : CommandLine :=
  if line.verb.isSome then { line with after := (switch, value) :: line.after, expected := .any }
  else { line with before := (switch, value) :: line.before, expected := .any }

/-- Take a switch with a value in the same word or none, which is judged at once. -/
def take (line : CommandLine) (switch : Switch) (value : String) : Except Usage CommandLine := do
  let line ← line.judged
  match switch with
  | .help => .error .help
  | .version => .error .version
  | switch => (line.add switch value).judged

/-- Take a switch whose value is the next word. -/
def takeOpen (line : CommandLine) (switch : Switch) : Except Usage CommandLine := do
  return { ← line.judged with expected := .value switch }

/-- Take a long name, perhaps with a value. -/
def takeLong (line : CommandLine) (name : String) (value : Option String) :
    Except Usage CommandLine :=
  match Switch.ofLongName? line.verb name, value with
  | none, _ => .error .invalid
  | some switch, some value =>
    if switch.takesValue then line.take switch value else .error .invalid
  | some switch, none =>
    if switch.takesValue then line.takeOpen switch else line.take switch ""

/-- Take the letters after a hyphen. What follows the letter of a switch with a value is that
value, with or without an equals sign before it. -/
def takeLetters (line : CommandLine) : List Char → Except Usage CommandLine
  | [] => .ok line
  | letter :: rest =>
    match Switch.ofLetter? line.verb letter with
    | none => .error .invalid
    | some switch =>
      if switch.takesValue then
        match rest with
        | [] => line.takeOpen switch
        | '=' :: value => line.take switch (String.ofList value)
        | value => line.take switch (String.ofList value)
      else do (← line.take switch "").takeLetters rest

/-- Take a word as the operand of the command. -/
def takeOperand (line : CommandLine) (text : String) : Except Usage CommandLine :=
  if line.verb.isNone || line.config.isSome || text == "" then .error .invalid
  else return { ← line.judged with config := some text }

/-- Take a word that is no switch: the name of a command or its operand. -/
def takePlain (line : CommandLine) (text : String) : Except Usage CommandLine :=
  if line.verb.isSome then line.takeOperand text
  else if text = "help" then .ok { line with expected := .topic }
  else
    match Verb.ofName? text with
    | some verb => .ok { line with verb }
    | none => .error .invalid

/-- Take the next word. -/
def next (line : CommandLine) (word : String) : Except Usage CommandLine :=
  match line.expected, Word.ofString word with
  | .any, .separator => .ok { line with expected := .operand }
  | .any, .long name value => line.takeLong name value
  | .any, .letters letters => line.takeLetters letters
  | .any, .plain text => line.takePlain text
  | .value switch, .plain text => .ok (line.add switch text)
  | .value _, _ => .error .invalid
  | .operand, _ => line.takeOperand word
  | .topic, _ =>
    if word = "help" || (Verb.ofName? word).isSome then .ok { line with expected := .nothing }
    else .error .invalid
  | .nothing, _ => .error .invalid

/-- The value of a switch. When it stands on both sides of the command's name, the later one
counts. -/
def value? (line : CommandLine) (switch : Switch) : Option String :=
  (List.lookup switch line.after).or (List.lookup switch line.before)

/-- The command of a line with a given name. -/
def command (line : CommandLine) (verb : Verb) : Command :=
  let format := ((line.value? .format).bind ReportFormat.ofName?).getD .text
  match verb with
  | .validate => .validate (line.value? .pipeline) format
  | .graph => .graph (((line.value? .format).bind Drawing.ofName?).getD .text)
  | .canDelete => .canDelete format
  | .materials => .materials (line.value? .shared).isSome

/-- What a line asks for that has no further words. -/
def finish (line : CommandLine) : Except Usage Invocation :=
  match line.expected, line.verb, line.config with
  | .topic, _, _ | .nothing, _, _ => .error .help
  | .any, some verb, some config | .operand, some verb, some config =>
    if areSound none line.before && areSound (some verb) line.after then
      .ok {
        command := line.command verb
        config
        verbose := (line.value? .verbose).isSome
        directory := line.value? .directory }
    else .error .invalid
  | _, _, _ => .error .invalid

end CommandLine

/-- What a command line asks for. -/
def Invocation.ofWords (words : List String) : Except Usage Invocation := do
  (← words.foldlM CommandLine.next {}).finish

end PipelineConfig
