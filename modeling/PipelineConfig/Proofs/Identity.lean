import PipelineConfig.Material.Fingerprint

/-!
# What the identity of a source shows

The identity of a source begins with the word for its kind, and no such word contains the sign that
separators begin with. So sources of one identity are of one kind.
-/

namespace PipelineConfig

namespace Source

theorem toList_foldl_parts (parts : List String) (start : String) :
    (parts.foldl (fun text part => text ++ separator ++ part) start).toList =
      start.toList ++ parts.flatMap fun part => separator.toList ++ part.toList := by
  induction parts generalizing start with
  | nil => simp
  | cons part rest ih => simp [ih]

/-- The kind stands before the first separator. -/
theorem typeName_eq_takeWhile (source : Source) :
    source.typeName.toList = source.identity.toList.takeWhile fun char => char != '<' := by
  have begins : ∃ rest, source.identity.toList = source.typeName.toList ++ '<' :: rest := by
    have parts := toList_foldl_parts source.identifyingAttributes source.typeName
    cases source <;> exact ⟨_, parts⟩
  have plain : ∀ char ∈ source.typeName.toList, (char != '<') = true := by
    cases source <;> simp [typeName]
  obtain ⟨rest, identity⟩ := begins
  rw [identity, List.takeWhile_append_of_pos plain]
  simp

theorem typeName_eq_of_identity {left right : Source} (same : left.identity = right.identity) :
    left.typeName = right.typeName := by
  rw [← String.toList_inj, typeName_eq_takeWhile, same, ← typeName_eq_takeWhile]

theorem isSome_url?_of_typeName {left right : Source} (same : left.typeName = right.typeName) :
    left.url?.isSome = right.url?.isSome := by
  have shown (source : Source) :
      source.url?.isSome = decide (source.typeName ∈ ["git", "svn", "hg", "p4", "tfs"]) := by
    cases source <;> rfl
  rw [shown, shown, same]

end Source

namespace Material

theorem identity_eq_of_bytes {left right : Material}
    (same : left.identityBytes = right.identityBytes) :
    left.source.identity = right.source.identity :=
  String.toByteArray_inj.1 (ByteArray.ext (Array.toList_inj.1 same))

/-- Materials that are digested from the same bytes are both repositories or both none. -/
theorem isScm_eq_of_bytes {left right : Material}
    (same : left.identityBytes = right.identityBytes) : left.isScm = right.isScm :=
  Source.isSome_url?_of_typeName (Source.typeName_eq_of_identity (identity_eq_of_bytes same))

end Material

end PipelineConfig
