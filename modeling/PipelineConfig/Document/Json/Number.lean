import PipelineConfig.Document.Value
import PipelineConfig.Text.Numeral

/-!
# JSON numbers

A number is read with the arithmetic of doubles: as many digits as fit into 64 bits make a whole
number, which is rounded and then multiplied by a rounded power of ten. A number whose product is
infinite cannot be read, even where the exact value lies just below the greatest double.
-/

namespace PipelineConfig.Document.Json

open PipelineConfig.Text

/-- Whether a numeral has the form that JSON asks for: no needless zero in front, and digits on
both sides of a point. -/
def isStrictNumeral (numeral : Numeral) : Bool :=
  (match numeral.whole with
    | [] => false
    | '0' :: rest => rest.isEmpty
    | _ => true) &&
  numeral.fraction != some []

/-- Add digits to a number as long as it fits into 64 bits, and tell how many are left over. -/
def addDigits (value : Nat) : List Char → Nat × Nat
  | [] => (value, 0)
  | digit :: rest =>
    let next := value * 10 + digitsValue [digit]
    if next < 1 <<< 64 then addDigits next rest else (value, rest.length + 1)

/-- The greatest power of ten below the greatest double. -/
def greatestPower : Int := 308

/-- Whether a numeral is infinite in the arithmetic of doubles. Of the digits that are left over,
those before the point raise the power of ten, and those after it do not count. -/
def isInfinite (numeral : Numeral) : Bool :=
  let fraction := numeral.fraction.getD []
  let (whole, raised) := addDigits 0 numeral.whole
  let (value, unused) := addDigits whole fraction
  let power := numeral.power + (raised : Int) + (unused : Int) - (fraction.length : Int)
  if value = 0 || power < 0 then false
  else if greatestPower < power then true
  else doubleLimit ≤ roundToDouble value * roundToDouble (Nat.pow 10 power.toNat)

/-- The value of a number. One that is infinite cannot be read. -/
def numberValue? (chars : List Char) : Option Value :=
  let (negative, unsigned) :=
    match chars with
    | '-' :: rest => (true, rest)
    | chars => (false, chars)
  (Numeral.ofChars? unsigned).bind fun numeral =>
    if !isStrictNumeral numeral then none
    else if isInfinite numeral then some .unreadable
    else if negative || numeral.fraction.isSome || numeral.exponent.isSome then some .number
    else
      let value := digitsValue numeral.whole
      if value < 1 <<< 64 then some (.natural value) else some .number

end PipelineConfig.Document.Json
