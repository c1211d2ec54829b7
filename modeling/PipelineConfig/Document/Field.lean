import PipelineConfig.Document.Plain
import PipelineConfig.Failure
import PipelineConfig.Name
import PipelineConfig.Table

/-!
# Reading values

How the parts of a configuration are read from document values: texts, truth values, optional
values, lists, and records with named fields. A value of another shape is not read; there is no
conversion, except that a scalar without quotes may be what the reader asks for.
-/

namespace PipelineConfig.Document

namespace Value

/-- Read a text. -/
def text? (value : Value) : Option String :=
  match value.untagged with
  | .text scalar | .plain scalar => some scalar
  | _ => none

/-- Read a name. -/
def name? (value : Value) : Option Name := value.text?.map Name.mk

/-- Read a truth value. -/
def bool? (value : Value) : Option Bool :=
  match value.untagged with
  | .bool truth => some truth
  | .plain scalar => Plain.bool? scalar
  | _ => none

/-- Read a value that may be absent. -/
def optional? {α : Type} (read : Value → Option α) (value : Value) : Option (Option α) :=
  match value with
  | .null => some none
  | .plain scalar =>
    if scalar.isEmpty || Plain.isNull scalar then some none else (read value).map some
  | .tagged tag (.plain scalar) =>
    if tag = Plain.nullTag then if Plain.isNull scalar then some none else none
    else (read value).map some
  | value => (read value).map some

/-- Read a list. A scalar without any character is an empty list. -/
def list? {α : Type} (read : Value → Option α) (value : Value) : Option (List α) :=
  match value.untagged with
  | .list items => items.mapM read
  | .plain scalar => if scalar.isEmpty then some [] else none
  | _ => none

/-- The entries of a mapping from texts. A scalar without any character is an empty mapping. -/
def entries? (value : Value) : Option (List (String × Value)) :=
  match value.untagged with
  | .mapping entries => entries.mapM fun entry => entry.1.text?.map fun key => (key, entry.2)
  | .plain scalar => if scalar.isEmpty then some [] else none
  | _ => none

/-- Read a mapping from texts to texts. Of a repeated key the last value counts. -/
def table? (value : Value) : Option (Table String String) :=
  value.entries?.bind fun entries =>
    entries.foldlM (fun table entry => entry.2.text?.map fun text => table.insert entry.1 text) ∅

/-- Read one of several words, or its position among them. -/
def choice? (words : List String) (value : Value) : Option String :=
  match value with
  | .text word => if words.contains word then some word else none
  | .natural position => words[position]?
  | _ => none

mutual

/-- Decide what a value is without knowing what will be asked of it. Types that only the document
declares stand in the way, and so do values that cannot be read. -/
def settle? : Value → Option Value
  | .null => some .null
  | .bool truth => some (.bool truth)
  | .natural count => some (.natural count)
  | .number => some .number
  | .text scalar => some (.text scalar)
  | .plain scalar => Plain.resolve? scalar
  | .tagged tag value =>
    if "!".toList.isPrefixOf tag.toList then none
    else
      match value with
      | .text scalar | .plain scalar => Plain.resolveAs? tag scalar
      | value => settle? value
  | .unreadable => none
  | .list items => (settleAll? items).map .list
  | .mapping entries => (settleEntries? entries).map .mapping

/-- Settle the members of a list. -/
def settleAll? : List Value → Option (List Value)
  | [] => some []
  | value :: rest =>
    match settle? value, settleAll? rest with
    | some value, some rest => some (value :: rest)
    | _, _ => none

/-- Settle the keys and values of a mapping. -/
def settleEntries? : List (Value × Value) → Option (List (Value × Value))
  | [] => some []
  | (key, value) :: rest =>
    match settle? key, settle? value, settleEntries? rest with
    | some key, some value, some rest => some ((key, value) :: rest)
    | _, _, _ => none

end

end Value

/-- The named values of a record, each name at most once. -/
abbrev Fields := List (String × Value)

namespace Fields

/-- The entries whose names are known, if none of these stands twice. Other entries do not count. -/
def known? (names : List String) (entries : List (String × Value)) : Option Fields :=
  let fields := entries.filter fun entry => names.contains entry.1
  if (fields.map Prod.fst).Nodup then some fields else none

/-- Read a field that must be there. -/
def required? {α : Type} (fields : Fields) (name : String) (read : Value → Option α) : Option α :=
  (List.lookup name fields).bind read

/-- Read a field that may be left out. -/
def default? {α : Type} (fields : Fields) (name : String) (default : α)
    (read : Value → Option α) : Option α :=
  match List.lookup name fields with
  | some value => read value
  | none => some default

/-- Read a field that may be left out or be absent. -/
def optional? {α : Type} (fields : Fields) (name : String) (read : Value → Option α) :
    Option (Option α) :=
  fields.default? name none (Value.optional? read)

end Fields

namespace Value

/-- Read a record with the given field names. Two of the formats also take a list of the values in
the order of the names, of which the last may be missing; one of them refuses surplus values. -/
def fields? (format : Format) (names : List String) (value : Value) : Option Fields :=
  match format, value.untagged with
  | .json, .list items => if names.length < items.length then none else some (names.zip items)
  | .toml, .list items => some (names.zip items)
  | _, value => value.entries?.bind (Fields.known? names)

end Value

end PipelineConfig.Document
