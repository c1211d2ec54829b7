import Mathlib.Data.List.Forall2
import Mathlib.Tactic.TFAE
import PipelineConfig.Proofs.LowerCase
import PipelineConfig.Proofs.Sorting
import PipelineConfig.Proofs.Tables

/-!
# One relation behind all comparisons of names

Names are compared byte by byte, ordered byte by byte and hashed byte by byte. An encoding stands
before another just when its character does, and no encoding is the beginning of another, so all of
this can be read off the characters in lower case: the order of names is the order of their code
points. A table therefore tells two names apart just when they differ in lower case.
-/

namespace PipelineConfig

namespace Name

/-! ## Bytes and code points -/

theorem compare_ofNat {left right : Nat} (left_small : left < 256) (right_small : right < 256) :
    compare (UInt8.ofNat left) (UInt8.ofNat right) = compare left right := by
  rw [UInt8.compare_eq_toNat_compare_toNat, UInt8.toNat_ofNat', UInt8.toNat_ofNat',
    Nat.mod_eq_of_lt left_small, Nat.mod_eq_of_lt right_small]

theorem toNat_lt (char : Char) : char.toNat < 0x110000 := by
  rcases char.valid with low | ⟨-, high⟩
  · exact Nat.lt_trans low (by decide)
  · exact high

/-- The lesser of two numbers is less before its last digit to base 64, or else in this digit. -/
theorem lt_or_of_lt {low high : Nat} (before : low < high) :
    low / 64 < high / 64 ∨ low / 64 = high / 64 ∧ low % 64 < high % 64 := by
  omega

/-- An encoding is made of the digits of the code point to base 64, the first of them marked with
the number of bytes. Encodings of different lengths differ in the first byte, those of one length in
the first digit that differs. -/
theorem compare_utf8EncodeChar_of_lt {left right : Char} (before : left.toNat < right.toNat)
    (rest rest' : List UInt8) :
    compare (String.utf8EncodeChar left ++ rest) (String.utf8EncodeChar right ++ rest') = .lt := by
  have small := toNat_lt right
  have second (value : Nat) : value / 4096 = value / 64 / 64 := by omega
  have first (value : Nat) : value / 262144 = value / 64 / 64 / 64 := by omega
  simp only [String.utf8EncodeChar, Char.toNat_val, second, first]
  clear second first
  generalize left.toNat = low at *
  generalize right.toNat = high at *
  have fourth_digit := lt_or_of_lt before
  have third_digit := @lt_or_of_lt (low / 64) (high / 64)
  have second_digit := @lt_or_of_lt (low / 64 / 64) (high / 64 / 64)
  repeat' split
  all_goals
    simp (disch := omega) only [List.cons_append, List.nil_append, List.compare_cons_cons,
      compare_ofNat, Ordering.then_eq_lt, Nat.compare_eq_lt, Nat.compare_eq_eq]
    omega

theorem compare_append_left {α : Type} [Ord α] [Std.ReflOrd α] (start rest rest' : List α) :
    compare (start ++ rest) (start ++ rest') = compare rest rest' := by
  induction start with
  | nil => rfl
  | cons head start ih =>
    have alike : compare head head = .eq := Std.ReflCmp.compare_self
    rw [List.cons_append, List.cons_append, List.compare_cons_cons, alike, ih]
    rfl

/-- Texts are ordered by their first encodings, then by what follows them. -/
theorem compare_utf8EncodeChar_append (left right : Char) (rest rest' : List UInt8) :
    compare (String.utf8EncodeChar left ++ rest) (String.utf8EncodeChar right ++ rest') =
      (compare left.toNat right.toNat).then (compare rest rest') := by
  cases order : compare left.toNat right.toNat with
  | lt => exact compare_utf8EncodeChar_of_lt (Nat.compare_eq_lt.1 order) rest rest'
  | eq =>
    obtain rfl : left = right := Char.toNat_inj.1 (Nat.compare_eq_eq.1 order)
    exact compare_append_left _ rest rest'
  | gt =>
    have before : right.toNat < left.toNat := Nat.compare_eq_gt.1 order
    exact Std.OrientedCmp.gt_of_lt (compare_utf8EncodeChar_of_lt before rest' rest)

theorem utf8EncodeChar_ne_nil (char : Char) : String.utf8EncodeChar char ≠ [] := by
  simp only [String.utf8EncodeChar]
  repeat' split
  all_goals exact List.cons_ne_nil _ _

/-- The order of bytes is the order of code points. -/
theorem compare_flatMap_utf8EncodeChar (left right : List Char) :
    compare (left.flatMap String.utf8EncodeChar) (right.flatMap String.utf8EncodeChar) =
      compare (left.map Char.toNat) (right.map Char.toNat) := by
  induction left generalizing right with
  | nil =>
    cases right with
    | nil => rfl
    | cons char right =>
      obtain ⟨byte, bytes, encoded⟩ := List.exists_cons_of_ne_nil (utf8EncodeChar_ne_nil char)
      rw [List.flatMap_cons, encoded]
      rfl
  | cons char left ih =>
    cases right with
    | nil =>
      obtain ⟨byte, bytes, encoded⟩ := List.exists_cons_of_ne_nil (utf8EncodeChar_ne_nil char)
      rw [List.flatMap_cons, encoded]
      rfl
    | cons other right =>
      rw [List.flatMap_cons, List.flatMap_cons, compare_utf8EncodeChar_append, ih, List.map_cons,
        List.map_cons, List.compare_cons_cons]

/-- The code points of the name in lower case. -/
def codePoints (name : Name) : List Nat := name.folded.toList.map Char.toNat

theorem compare_eq_codePoints (left right : Name) :
    compare left right = compare left.codePoints right.codePoints := by
  rw [compare_def, key_eq_flatMap, key_eq_flatMap, compare_flatMap_utf8EncodeChar, codePoints,
    codePoints]

/-! ## Hashing -/

theorem not_mem_utf8EncodeChar (char : Char) : 0xff ∉ String.utf8EncodeChar char := by
  have other {value : Nat} (small : value < 255) : ¬(0xff : UInt8) = UInt8.ofNat value := by
    intro equal
    have values := congrArg UInt8.toNat equal
    rw [UInt8.toNat_ofNat', Nat.mod_eq_of_lt (by omega)] at values
    exact absurd values (Nat.ne_of_gt small)
  have small := toNat_lt char
  simp only [String.utf8EncodeChar, Char.toNat_val]
  repeat' split
  all_goals
    simp (disch := omega) only [List.mem_cons, List.not_mem_nil, or_false, other,
      not_false_eq_true]

theorem not_mem_key (name : Name) : 0xff ∉ name.key := by
  rw [key_eq_flatMap, List.mem_flatMap]
  rintro ⟨char, -, member⟩
  exact not_mem_utf8EncodeChar char member

/-- The byte at the end of a hashed name tells where the name ends. -/
theorem hashInput_eq_of_prefix {left right : Name} (begins : left.hashInput <+: right.hashInput) :
    left.hashInput = right.hashInput := by
  rcases List.prefix_concat_iff.1 begins with equal | inside
  · exact equal
  · have ended : 0xff ∈ left.hashInput := List.mem_append_right _ (List.mem_singleton_self _)
    exact absurd (inside.subset ended) right.not_mem_key

theorem hashInput_inj {left right : Name} :
    left.hashInput = right.hashInput ↔ left.same right = true := by
  rw [hashInput, hashInput, List.append_left_inj, same_iff]

/-! ## Spellings -/

/-- Whether a text is a spelling of the name: it has as many bytes as the name, and each byte agrees
with the one at its place in the name, up to case. -/
def spells (name : Name) (text : String) : Bool :=
  let bytes := name.text.toByteArray.data.toList
  let others := text.toByteArray.data.toList
  bytes.length == others.length &&
    (bytes.zip others).all fun (byte, other) => foldByte byte == foldByte other

theorem spells_iff {left right : Name} :
    left.spells right.text = true ↔ left.same right = true := by
  rw [same_iff, key, key, ← List.forall₂_eq_eq_eq, List.forall₂_map_left_iff,
    List.forall₂_map_right_iff, List.forall₂_iff_zip]
  simp [spells]

/-- A name stands before another, or the two are the same. -/
def AtMost (left right : Name) : Prop := (compare left right).isLE = true

end Name

/-! ## Tables of names -/

section Tables

universe u

variable {α : Type u} (table : Table Name α)

theorem Name.isEq_compare_iff_folded {left right : Name} :
    (compare left right).isEq = true ↔ left.folded = right.folded := by
  rw [← same_eq_isEq, same_iff_folded]

/-- A table holds no name in two spellings. -/
theorem Table.pairwise_folded :
    table.keys.Pairwise fun left right => left.folded ≠ right.folded := by
  refine table.pairwise_keys.imp fun {left right} before alike => ?_
  have equal : (compare left right).isEq = true := Name.isEq_compare_iff_folded.2 alike
  rw [before] at equal
  exact absurd equal (by decide)

theorem Table.get?_eq_of_folded {left right : Name} (alike : left.folded = right.folded) :
    table.get? left = table.get? right :=
  table.get?_congr (Ordering.isEq_iff_eq_eq.1 (Name.isEq_compare_iff_folded.2 alike))

/-- All comparisons of names draw the same line. Names are the same, byte by byte or in the order or
for a hash function, just when they agree in lower case. Their order is that of the code points in
lower case, it is total, and no hashed name begins another. So a look-up meets what was written or
removed under a name just when the names agree in lower case, and no table has room for a name in
two spellings. -/
theorem Name.comparisons_told (first second third : Name) (value : α) (names : NameSet) :
    [first.same second = true, first.spells second.text = true, compare first second = .eq,
      first.hashInput = second.hashInput, first.folded = second.folded].TFAE ∧
    compare first second = compare first.codePoints second.codePoints ∧
    (first.AtMost second ∨ second.AtMost first) ∧
    (first.AtMost second → second.AtMost first → first.same second = true) ∧
    (first.AtMost second → second.AtMost third → first.AtMost third) ∧
    (first.hashInput <+: second.hashInput → first.hashInput = second.hashInput) ∧
    (table.keys.Pairwise fun left right => left.folded ≠ right.folded) ∧
    (first.folded = second.folded → table.get? first = table.get? second) ∧
    ((table.insert first value).get? second =
      if second.folded = first.folded then some value else table.get? second) ∧
    ((table.erase first).get? second =
      if second.folded = first.folded then none else table.get? second) ∧
    ((names.add first).has second = true ↔
      second.folded = first.folded ∨ names.has second = true) := by
  refine ⟨?same, compare_eq_codePoints first second, ?total, ?antisymmetric,
    Std.TransCmp.isLE_trans, hashInput_eq_of_prefix, table.pairwise_folded,
    table.get?_eq_of_folded, ?inserted, ?erased, ?added⟩
  case same =>
    tfae_have 1 ↔ 2 := spells_iff.symm
    tfae_have 1 ↔ 3 := compare_eq_iff_same.symm
    tfae_have 1 ↔ 4 := hashInput_inj.symm
    tfae_have 1 ↔ 5 := same_iff_folded
    tfae_finish
  case total => exact Bool.or_eq_true_iff.1 (isLE_total compare first second)
  case antisymmetric =>
    intro before behind
    exact compare_eq_iff_same.1 (Std.OrientedCmp.isLE_antisymm before behind)
  case inserted => simp only [Table.get?_insert, isEq_compare_iff_folded]
  case erased => simp only [Table.get?_erase, isEq_compare_iff_folded]
  case added => rw [NameSet.has_add, Bool.or_eq_true, same_iff_folded]

end Tables

/-- Case is ignored in ASCII letters only, so two of the names are the same and the third is not. -/
theorem Name.comparisons_respelled :
    let first : Name := ⟨"zÜrich"⟩
    let second : Name := ⟨"ZÜRICH"⟩
    let third : Name := ⟨"zürich"⟩
    (first.AtMost second ∧ second.AtMost first ∧ first.same second = true) ∧
    (first.AtMost second ∧ second.AtMost third ∧ first.AtMost third) ∧
    (first.hashInput <+: second.hashInput ∧ first.hashInput = second.hashInput) ∧
    second.folded = first.folded ∧ third.folded ≠ first.folded := by
  intro first second third
  obtain ⟨-, -, -, antisymmetric, transitive, ended, -⟩ :=
    Name.comparisons_told (∅ : Table Name Unit) first second third () ∅
  have before : first.AtMost second := by unfold Name.AtMost; decide +kernel
  have behind : second.AtMost first := by unfold Name.AtMost; decide +kernel
  have later : second.AtMost third := by unfold Name.AtMost; decide +kernel
  have begins : first.hashInput <+: second.hashInput := by decide +kernel
  have alike : second.folded = first.folded :=
    Name.same_iff_folded.1 (Name.same_symm (antisymmetric before behind))
  exact ⟨⟨before, behind, antisymmetric before behind⟩, ⟨before, later, transitive before later⟩,
    ⟨begins, ended begins⟩, alike, by decide +kernel⟩

end PipelineConfig
