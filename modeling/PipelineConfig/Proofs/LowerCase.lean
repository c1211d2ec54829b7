import Mathlib.Data.List.Basic
import PipelineConfig.Name

/-!
# Names in lower case

Names are compared byte by byte, with the ASCII capitals in lower case. No other character has a
byte that is an ASCII letter, so this is to compare the characters in lower case.
-/

namespace PipelineConfig

namespace Name

theorem foldByte_of_capital {value : Nat} (low : 65 ≤ value) (high : value ≤ 90) :
    foldByte (UInt8.ofNat value) = UInt8.ofNat (value + 32) := by
  have capital : (65 ≤ UInt8.ofNat value && UInt8.ofNat value ≤ 90) = true := by
    simp [UInt8.le_iff_toNat_le]
    omega
  rw [foldByte, if_pos capital, UInt8.ofNat_add]
  rfl

theorem foldByte_of_other {value : Nat} (small : value < 256) (other : value < 65 ∨ 90 < value) :
    foldByte (UInt8.ofNat value) = UInt8.ofNat value := by
  refine if_neg ?_
  simp [UInt8.le_iff_toNat_le, Nat.mod_eq_of_lt small]
  omega

/-- Only encodings of one byte hold a byte that is an ASCII letter. -/
theorem map_foldByte_utf8EncodeChar (char : Char) :
    (String.utf8EncodeChar char).map foldByte = String.utf8EncodeChar char.toLower := by
  by_cases capital : char.val ≥ 'A'.val ∧ char.val ≤ 'Z'.val
  · have low : 65 ≤ char.val.toNat := capital.1
    have high : char.val.toNat ≤ 90 := capital.2
    have lower : char.toLower.val = char.val + ('a'.val - 'A'.val) :=
      congrArg Char.val (dif_pos capital)
    have moved : char.toLower.val.toNat = char.val.toNat + 32 := by
      have distance : ('a'.val - 'A'.val).toNat = 32 := rfl
      rw [lower, UInt32.toNat_add]
      omega
    rw [String.utf8EncodeChar.eq_1, String.utf8EncodeChar.eq_1, moved, if_pos (by omega),
      if_pos (by omega), List.map_cons, foldByte_of_capital low high]
    rfl
  · have other : char.val.toNat < 65 ∨ 90 < char.val.toNat := by
      rw [← Nat.not_le, ← Nat.not_le, ← not_and_or]
      exact capital
    have stays : char.toLower = char := dif_neg capital
    have kept (value : Nat) (high : 128 ≤ value ∧ value < 256) :
        foldByte (UInt8.ofNat value) = UInt8.ofNat value :=
      foldByte_of_other high.2 (.inr (by omega))
    rw [stays, String.utf8EncodeChar.eq_1]
    split
    · rw [List.map_cons, foldByte_of_other (by omega) other]
      rfl
    split
    · simp only [List.map_cons, List.map_nil]
      rw [kept _ (by omega), kept _ (by omega)]
    split
    · simp only [List.map_cons, List.map_nil]
      rw [kept _ (by omega), kept _ (by omega), kept _ (by omega)]
    · simp only [List.map_cons, List.map_nil]
      rw [kept _ (by omega), kept _ (by omega), kept _ (by omega), kept _ (by omega)]

theorem bytes_eq_flatMap (text : String) :
    text.toByteArray.data.toList = text.toList.flatMap String.utf8EncodeChar := by
  rw [← String.utf8Encode_toList, List.utf8Encode, List.data_toByteArray]

/-- The key of a name is the encoding of its spelling in lower case. -/
theorem key_eq_flatMap (name : Name) :
    name.key = name.folded.toList.flatMap String.utf8EncodeChar := by
  rw [key, bytes_eq_flatMap, folded, String.toList_map, List.map_flatMap, List.flatMap_map]
  simp only [map_foldByte_utf8EncodeChar]

/-- Spellings are the same name just when they agree in lower case. -/
theorem same_iff_folded {left right : Name} :
    left.same right = true ↔ left.folded = right.folded := by
  rw [same_iff, key_eq_flatMap, key_eq_flatMap, ← bytes_eq_flatMap, ← bytes_eq_flatMap,
    Array.toList_inj, ← String.toByteArray_inj]
  exact ByteArray.ext_iff.symm

end Name

end PipelineConfig
