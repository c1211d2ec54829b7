/-!
# White space

The characters that count as blank, and the operations that look at them: trimming, the
test for a text that shows nothing, and the number of words.
-/

namespace PipelineConfig.Text

/-- The characters with the Unicode property `White_Space`. -/
def isBlankChar (char : Char) : Bool :=
  let code := char.toNat
  (9 ≤ code && code ≤ 13) || code == 0x20 || code == 0x85 || code == 0xa0 || code == 0x1680 ||
    (0x2000 ≤ code && code ≤ 0x200a) || code == 0x2028 || code == 0x2029 || code == 0x202f ||
    code == 0x205f || code == 0x3000

/-- A text is blank when it holds nothing but white space. -/
def isBlank (text : String) : Bool := text.toList.all isBlankChar

/-- The characters left when white space is taken off both ends. -/
def trimChars (chars : List Char) : List Char :=
  ((chars.dropWhile isBlankChar).reverse.dropWhile isBlankChar).reverse

/-- The text left when white space is taken off both ends. -/
def trim (text : String) : String := String.ofList (trimChars text.toList)

/-- The number of maximal runs without white space. `inWord` says that a run is already open. -/
def countWordsFrom (inWord : Bool) : List Char → Nat
  | [] => 0
  | char :: rest =>
    if isBlankChar char then countWordsFrom false rest
    else if inWord then countWordsFrom true rest
    else countWordsFrom true rest + 1

/-- The number of words of a text, divided by white space. -/
def countWords (text : String) : Nat := countWordsFrom false text.toList

@[simp]
theorem trimChars_nil : trimChars [] = [] := rfl

@[simp]
theorem isBlank_empty : isBlank "" = true := rfl

end PipelineConfig.Text
