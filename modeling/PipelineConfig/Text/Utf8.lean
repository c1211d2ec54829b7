import PipelineConfig.Text.CharSet

/-!
# Ranges of bytes

Divides ranges of characters into sequences of ranges of bytes: the UTF-8 forms of the characters
are exactly the bytes that can be chosen from the ranges of one sequence, one from each.
-/

namespace PipelineConfig.Text.Utf8

/-- A range of bytes. -/
abbrev ByteRange := Nat × Nat

/-- The greatest code points of the characters of one, two and three bytes. -/
def lengthEnds : List Nat := [0x7f, 0x7ff, 0xffff]

/-- The number of code points that share all bytes but the last, the last two, the last three. -/
def blocks : List Nat := [1 <<< 6, 1 <<< 12, 1 <<< 18]

/-- The last code point up to which a range goes beyond an end. -/
def endWithin? (low high : Nat) : List Nat → Option Nat
  | [] => none
  | last :: rest => if low ≤ last ∧ last < high then some last else endWithin? low high rest

/-- Where a range that lies in several blocks has to be divided: after its first block, unless it
has all of it, or before its last. -/
def blockEnd? (low high : Nat) : List Nat → Option Nat
  | [] => none
  | block :: rest =>
    if low / block < high / block then
      if low % block ≠ 0 then some (low / block * block + (block - 1))
      else if high % block ≠ block - 1 then some (high / block * block - 1)
      else blockEnd? low high rest
    else blockEnd? low high rest

/-- The last code point of the first part of a range that has to be divided. -/
def cut? (low high : Nat) : Option Nat :=
  (endWithin? low high lengthEnds).or
    (if high ≤ 0x7f then none else blockEnd? low high blocks)

/-- The bytes of a character. -/
def bytesOf (code : Nat) : List Nat :=
  if code < 0x80 then [code]
  else if code < 0x800 then [0xc0 + code / 64, 0x80 + code % 64]
  else if code < 0x10000 then [0xe0 + code / 4096, 0x80 + code / 64 % 64, 0x80 + code % 64]
  else
    [0xf0 + code / 262144, 0x80 + code / 4096 % 64, 0x80 + code / 64 % 64, 0x80 + code % 64]

theorem endWithin?_bounds {low high : Nat} {ends : List Nat} {last : Nat}
    (found : endWithin? low high ends = some last) : low ≤ last ∧ last < high := by
  induction ends with
  | nil => simp [endWithin?] at found
  | cons first rest ih =>
    rw [endWithin?] at found
    split at found
    · rename_i within
      simp_all
    · exact ih found

/-- A range is divided before its last code point. -/
theorem blockEnd?_bounds {low high : Nat} {sizes : List Nat} {last : Nat}
    (positive : ∀ block ∈ sizes, 0 < block)
    (found : blockEnd? low high sizes = some last) : low ≤ last ∧ last < high := by
  induction sizes with
  | nil => simp [blockEnd?] at found
  | cons block rest ih =>
    have block_pos : 0 < block := positive block (by simp)
    have rest_pos : ∀ size ∈ rest, 0 < size := fun size member => positive size (by simp [member])
    have low_eq := Nat.div_add_mod low block
    have high_eq := Nat.div_add_mod high block
    have low_lt := Nat.mod_lt low block_pos
    rw [blockEnd?] at found
    split at found
    · rename_i apart
      have step : block * (low / block) + block ≤ block * (high / block) := by
        rw [← Nat.mul_succ]
        exact Nat.mul_le_mul_left block apart
      rw [Nat.mul_comm (low / block), Nat.mul_comm (high / block)] at found
      split at found
      · simp only [Option.some.injEq] at found
        omega
      · split at found
        · simp only [Option.some.injEq] at found
          omega
        · exact ih rest_pos found
    · exact ih rest_pos found

theorem cut?_bounds {low high last : Nat} (found : cut? low high = some last) :
    low ≤ last ∧ last < high := by
  rw [cut?, Option.or_eq_some_iff] at found
  rcases found with found | ⟨_, found⟩
  · exact endWithin?_bounds found
  · split at found
    · simp at found
    · exact blockEnd?_bounds (by decide) found

/-- The sequences of a range without surrogates. -/
def sequencesOf (low high : Nat) : List (List ByteRange) :=
  match _found : cut? low high with
  | some last => sequencesOf low last ++ sequencesOf (last + 1) high
  | none => [(bytesOf low).zip (bytesOf high)]
termination_by high - low
decreasing_by
  all_goals
    have bounds := cut?_bounds _found
    omega

/-- The sequences of the characters of a range, of which surrogates are left out. -/
def ofRange (low high : Nat) : List (List ByteRange) :=
  if low < 0xe000 ∧ 0xd7ff < high then
    (if low ≤ 0xd7ff then sequencesOf low 0xd7ff else []) ++
      (if 0xe000 ≤ high then sequencesOf 0xe000 high else [])
  else sequencesOf low high

/-- The sequences of a set of characters, in ascending order. -/
def ofSet (set : CharSet) : List (List ByteRange) :=
  set.ranges.flatMap fun range => ofRange range.1 range.2

end PipelineConfig.Text.Utf8
