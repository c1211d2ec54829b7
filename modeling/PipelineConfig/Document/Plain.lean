import PipelineConfig.Document.Value
import PipelineConfig.Text.Numeral

/-!
# Plain scalars

A scalar without quotes may be a text, or one of the few spellings of nothing, truth values and
numbers. A declared type decides which of them it has to be.
-/

namespace PipelineConfig.Document.Plain

open PipelineConfig.Text

/-- Whether a scalar spells nothing. -/
def isNull (scalar : String) : Bool := ["~", "null", "Null", "NULL"].contains scalar

/-- The truth value that a scalar spells. -/
def bool? (scalar : String) : Option Bool :=
  if ["true", "True", "TRUE"].contains scalar then some true
  else if ["false", "False", "FALSE"].contains scalar then some false
  else none

/-- What a scalar says when it is read as a whole number. -/
inductive Whole where
  /-- A number that is not negative and fits. -/
  | natural (value : Nat)
  /-- A negative number that fits. -/
  | negative
  /-- A number that is too great to be read at all. -/
  | tooGreat
deriving DecidableEq, Repr

/-- Whether a scalar has digits only and yet counts as text because the first of several is zero. -/
def isPaddedNumber (scalar : List Char) : Bool :=
  match scalar with
  | '0' :: rest | '-' :: '0' :: rest | '+' :: '0' :: rest => !rest.isEmpty && rest.all isDigit
  | _ => false

/-- The digits of a whole number without sign, in the base that its first characters declare. -/
def magnitude? : List Char → Option Nat
  | '0' :: 'x' :: digits => natural? 16 digits
  | '0' :: 'o' :: digits => natural? 8 digits
  | '0' :: 'b' :: digits => natural? 2 digits
  | digits => natural? 10 digits

/-- Read a scalar as a whole number. Numbers of more than 128 bits are left to be read as
fractional numbers. -/
def whole? (scalar : List Char) : Option Whole :=
  if isPaddedNumber scalar then none
  else
    match scalar with
    | '-' :: digits =>
      (magnitude? digits).bind fun value =>
        if value ≤ 1 <<< 63 then some .negative
        else if value ≤ 1 <<< 127 then some .tooGreat
        else none
    | '+' :: digits | digits =>
      (magnitude? digits).bind fun value =>
        if value < 1 <<< 64 then some (.natural value)
        else if value < 1 <<< 128 then some .tooGreat
        else none

/-- Whether a scalar is a fractional number. -/
def isFractional (scalar : List Char) : Bool :=
  let unsigned :=
    match scalar with
    | '-' :: rest | '+' :: rest | rest => rest
  let infinities := [".inf", ".Inf", ".INF"].map String.toList
  let undefined := [".nan", ".NaN", ".NAN"].map String.toList
  infinities.contains unsigned || undefined.contains scalar ||
    (Numeral.ofChars? unsigned).any fun numeral => !numeral.overflows

/-- The value of a whole number. -/
def Whole.value? : Whole → Option Value
  | natural value => some (.natural value)
  | negative => some .number
  | tooGreat => none

/-- The value of a plain scalar without a declared type. -/
def resolve? (scalar : String) : Option Value :=
  if scalar.isEmpty || isNull scalar then some .null
  else
    match bool? scalar, whole? scalar.toList with
    | some value, _ => some (.bool value)
    | none, some whole => whole.value?
    | none, none =>
      if !isPaddedNumber scalar.toList && isFractional scalar.toList then some .number
      else some (.text scalar)

/-- The declared type of nothing. -/
def nullTag : String := "tag:yaml.org,2002:null"

/-- The value of a scalar with a declared type. -/
def resolveAs? (tag scalar : String) : Option Value :=
  if tag = "tag:yaml.org,2002:bool" then (bool? scalar).map .bool
  else if tag = "tag:yaml.org,2002:int" then (whole? scalar.toList).bind Whole.value?
  else if tag = "tag:yaml.org,2002:float" then
    if isFractional scalar.toList then some .number else none
  else if tag = nullTag then if isNull scalar then some .null else none
  else some (.text scalar)

end PipelineConfig.Document.Plain
