import PipelineConfig.Text.Blank

/-!
# Names

Pipelines, stages, jobs and materials are named by texts that keep the spelling their author
chose but are told apart without regard to the case of ASCII letters. Sameness, order and
hashing all look at a name through one view, its `key`.
-/

namespace PipelineConfig

/-- A name. Spellings that differ only in the case of ASCII letters are the same name. -/
structure Name where
  /-- The spelling as written. -/
  text : String
deriving DecidableEq, Repr, Inhabited

namespace Name

/-- Lower case of one byte: the ASCII capitals move, every other byte stays. -/
def foldByte (byte : UInt8) : UInt8 := if 65 ≤ byte && byte ≤ 90 then byte + 32 else byte

/-- The bytes of the name with ASCII capitals in lower case. -/
def key (name : Name) : List UInt8 := name.text.toByteArray.data.toList.map foldByte

/-- The spelling with ASCII capitals in lower case. -/
def folded (name : Name) : String := name.text.map Char.toLower

/-- Whether two spellings are the same name. -/
def same (left right : Name) : Bool := left.key == right.key

/-- What a name feeds to a hash function: its key, ended by a byte that no key contains. -/
def hashInput (name : Name) : List UInt8 := name.key ++ [0xff]

/-- Names are ordered by their keys, byte by byte. -/
instance : Ord Name := ⟨fun left right => compare left.key right.key⟩

/-- Whether the name shows nothing but white space. -/
def isBlank (name : Name) : Bool := Text.isBlank name.text

/-- Letters, digits, hyphens and underscores may stand anywhere in a valid name. -/
def isNameChar (char : Char) : Bool := char.isAlphanum || char == '_' || char == '-'

/-- The greatest number of bytes of a valid name. -/
def maxLength : Nat := 255

/-- Whether a text may name a pipeline, stage, job, material or parameter: name characters and
periods, not starting with a period, and not too long. -/
def isValid (text : String) : Bool :=
  match text.toList with
  | [] => false
  | first :: rest =>
    text.utf8ByteSize ≤ maxLength && isNameChar first &&
      rest.all fun char => isNameChar char || char == '.'

theorem compare_def (left right : Name) : compare left right = compare left.key right.key := rfl

instance : Std.TransOrd Name where
  eq_swap {left right} := by
    simp only [compare_def]
    exact Std.OrientedCmp.eq_swap
  isLE_trans {first second third} := by
    simp only [compare_def]
    exact Std.TransCmp.isLE_trans

theorem same_iff {left right : Name} : left.same right = true ↔ left.key = right.key := by
  simp [same]

/-- Sameness is what the order calls equal. -/
theorem compare_eq_iff_same {left right : Name} :
    compare left right = .eq ↔ left.same right = true := by
  rw [same_iff, compare_def, Std.LawfulEqOrd.compare_eq_iff_eq]

@[simp]
theorem same_self (name : Name) : name.same name = true := by simp [same]

theorem same_comm (left right : Name) : left.same right = right.same left := by
  rw [Bool.eq_iff_iff, same_iff, same_iff]
  exact eq_comm

theorem same_trans {first second third : Name} (left : first.same second = true)
    (right : second.same third = true) : first.same third = true := by
  rw [same_iff] at *
  exact left.trans right

end Name

end PipelineConfig
