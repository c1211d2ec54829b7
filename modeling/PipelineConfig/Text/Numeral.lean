/-!
# Numerals

Digits of a base, and decimal numerals with a fraction and an exponent. Of the latter only one
thing counts here: whether the number is too great for double precision.
-/

namespace PipelineConfig.Text

/-- Whether a character is a decimal digit. -/
def isDigit (char : Char) : Bool := '0' ≤ char && char ≤ '9'

/-- The value of a character as a digit of a base up to sixteen. -/
def digitValue? (base : Nat) (char : Char) : Option Nat :=
  let value :=
    if isDigit char then char.toNat - '0'.toNat
    else if 'a' ≤ char && char ≤ 'f' then char.toNat - 'a'.toNat + 10
    else if 'A' ≤ char && char ≤ 'F' then char.toNat - 'A'.toNat + 10
    else base
  if value < base then some value else none

/-- The number that digits of a base write, if there is a digit and every character is one. -/
def natural? (base : Nat) (chars : List Char) : Option Nat :=
  if chars.isEmpty then none
  else
    chars.foldlM (fun value char => (digitValue? base char).map fun digit => value * base + digit) 0

/-- The number that decimal digits write; other characters are passed over. -/
def digitsValue (chars : List Char) : Nat := (natural? 10 (chars.filter isDigit)).getD 0

/-- The least whole number that rounds beyond the greatest finite double. -/
def doubleLimit : Nat := 1 <<< 1024 - 1 <<< 970

/-- A whole number rounded to the 53 significant bits of a double, a half to the even side. -/
def roundToDouble (value : Nat) : Nat :=
  let unit := 1 <<< (value.log2 + 1 - 53)
  let least := value / unit
  let excess := 2 * (value % unit)
  unit * if unit < excess || (excess == unit && least % 2 == 1) then least + 1 else least

/-- A decimal numeral: digits with an optional fraction and an optional exponent. -/
structure Numeral where
  /-- The digits before the point. -/
  whole : List Char
  /-- The digits after the point, if there is one. -/
  fraction : Option (List Char) := none
  /-- Whether the exponent is negative, and its digits, if there is one. -/
  exponent : Option (Bool × List Char) := none
deriving DecidableEq, Repr

namespace Numeral

/-- The power of ten by which the digits are multiplied. -/
def power (numeral : Numeral) : Int :=
  match numeral.exponent with
  | none => 0
  | some (true, chars) => -(digitsValue chars : Int)
  | some (false, chars) => digitsValue chars

/-- Whether the number is too great for double precision. -/
def overflows (numeral : Numeral) : Bool :=
  let digits := numeral.whole ++ numeral.fraction.getD []
  let value := digitsValue digits
  let scale := numeral.power - ((numeral.fraction.getD []).length : Int)
  if value = 0 then false
  else if scale > 308 then true
  else if 0 ≤ scale then doubleLimit ≤ value * Nat.pow 10 scale.toNat
  else if (digits.length : Int) ≤ -scale then false
  else doubleLimit * Nat.pow 10 (-scale).toNat ≤ value

/-- Divide a text into an optional exponent, after the letter, and what stands before it. -/
def exponent? : List Char → Option (Option (Bool × List Char))
  | [] => some none
  | letter :: rest =>
    if letter ≠ 'e' ∧ letter ≠ 'E' then none
    else
      let (negative, digits) :=
        match rest with
        | '-' :: digits => (true, digits)
        | '+' :: digits => (false, digits)
        | digits => (false, digits)
      if digits.isEmpty || !digits.all isDigit then none else some (some (negative, digits))

/-- Read a numeral without sign. The digits before or after the point may be left out, but not
both. -/
def ofChars? (chars : List Char) : Option Numeral :=
  let whole := chars.takeWhile isDigit
  match chars.dropWhile isDigit with
  | '.' :: rest =>
    let fraction := rest.takeWhile isDigit
    if whole.isEmpty && fraction.isEmpty then none
    else (exponent? (rest.dropWhile isDigit)).map fun exponent => ⟨whole, some fraction, exponent⟩
  | rest =>
    if whole.isEmpty then none else (exponent? rest).map fun exponent => ⟨whole, none, exponent⟩

end Numeral

end PipelineConfig.Text
