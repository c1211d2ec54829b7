import Mathlib.Data.List.Basic
import PipelineConfig.Proofs.LowerCase
import PipelineConfig.Proofs.Soundness

/-!
# What fingerprints tell apart

The bytes that are digested for a material join its kind and its attributes with separators, and
nothing marks a separator that is written in an attribute. So the bytes tell two sources apart just
when the pieces between all separators do. They stand for the source alone as soon as one of the two
compared has no separator in an attribute; otherwise sources that differ may be digested alike.
-/

namespace PipelineConfig

namespace Source

/-! ## Sources -/

/-- Two sources are one: they are of one kind and agree in what identifies a source of the kind.
Names are compared without regard to case, and an absent user or domain counts as empty. -/
def SameOrigin : Source → Source → Prop
  | git url branch, git otherUrl otherBranch => url = otherUrl ∧ branch = otherBranch
  | svn url username checkExternals, svn otherUrl otherUsername otherCheckExternals =>
    url = otherUrl ∧ username.getD "" = otherUsername.getD "" ∧
      checkExternals = otherCheckExternals
  | hg url, hg otherUrl => url = otherUrl
  | p4 port view username, p4 otherPort otherView otherUsername =>
    port = otherPort ∧ view = otherView ∧ username.getD "" = otherUsername.getD ""
  | tfs url domain projectPath username, tfs otherUrl otherDomain otherProjectPath otherUsername =>
    url = otherUrl ∧ domain.getD "" = otherDomain.getD "" ∧ projectPath = otherProjectPath ∧
      username.getD "" = otherUsername.getD ""
  | dependency pipeline stage, dependency otherPipeline otherStage =>
    pipeline.same otherPipeline = true ∧ stage.same otherStage = true
  | package packageId, package otherPackageId => packageId = otherPackageId
  | pluggableScm scmId, pluggableScm otherScmId => scmId = otherScmId
  | _, _ => False

theorem sameOrigin_iff {left right : Source} :
    left.SameOrigin right ↔
      left.typeName = right.typeName ∧
        left.identifyingAttributes = right.identifyingAttributes := by
  have flag (left right : Bool) :
      (if left then "true" else "false") = (if right then "true" else "false") ↔ left = right := by
    cases left <;> cases right <;> decide
  cases left <;> cases right <;>
    simp [SameOrigin, typeName, identifyingAttributes, Name.same_iff_folded, flag]

/-! ## Pieces between separators -/

/-- Write a character in front of the first piece. -/
def extend (char : Char) : List (List Char) → List (List Char)
  | [] => [[char]]
  | piece :: later => (char :: piece) :: later

/-- What stands before, between and after the separators of a text. -/
def pieces : List Char → List (List Char)
  | [] => [[]]
  | '<' :: '|' :: '>' :: rest => [] :: pieces rest
  | char :: rest => extend char (pieces rest)

theorem toList_separator : separator.toList = ['<', '|', '>'] := rfl

theorem pieces_ne_nil (text : List Char) : pieces text ≠ [] := by
  fun_cases pieces text with
  | case1 => simp
  | case2 => simp
  | case3 char rest => cases pieces rest <;> simp [extend]

theorem pieces_separator_append (right : List Char) :
    pieces (separator.toList ++ right) = [] :: pieces right := rfl

/-- No part of a separator can be taken for the beginning of another. -/
theorem pieces_append (left right : List Char) :
    pieces (left ++ (separator.toList ++ right)) = pieces left ++ pieces right := by
  fun_induction pieces left with
  | case1 => rw [List.nil_append, pieces_separator_append, List.singleton_append]
  | case2 rest ih => simp [pieces, ih]
  | case3 char rest apart ih =>
    have still_apart (later : List Char) (opens : char = '<') :
        rest ++ (separator.toList ++ right) ≠ '|' :: '>' :: later := by
      rw [toList_separator]
      rcases rest with _ | ⟨second, _ | ⟨third, rest⟩⟩
      · simp
      · simp
      · rintro ⟨⟩
        exact apart rest opens rfl
    rw [List.cons_append, pieces, ih]
    · cases found : pieces rest with
      | nil => exact absurd found (pieces_ne_nil rest)
      | cons piece later => rfl
    · exact fun later opens => still_apart later opens

/-- The pieces and the separators between them make up the text. -/
theorem intercalate_pieces (text : List Char) :
    separator.toList.intercalate (pieces text) = text := by
  fun_induction pieces text with
  | case1 => rfl
  | case2 rest ih =>
    rw [List.intercalate_cons_of_ne_nil (pieces_ne_nil rest), ih]
    rfl
  | case3 char rest _ ih =>
    cases found : pieces rest with
    | nil => exact absurd found (pieces_ne_nil rest)
    | cons piece later =>
      rw [found] at ih
      cases later with
      | nil => simpa [extend] using ih
      | cons next later => simpa [extend, List.intercalate_cons_cons] using ih

theorem pieces_inj {left right : List Char} : pieces left = pieces right ↔ left = right := by
  constructor
  · intro same
    rw [← intercalate_pieces left, same, intercalate_pieces]
  · rintro rfl
    rfl

/-- A text with no separator in it is its own only piece. -/
theorem pieces_eq_singleton {text : List Char} (plain : ¬separator.toList <:+: text) :
    pieces text = [text] := by
  fun_induction pieces text with
  | case1 => rfl
  | case2 rest => exact absurd ⟨[], rest, rfl⟩ plain
  | case3 char rest _ ih =>
    rw [ih fun inner => plain (List.infix_cons inner)]
    rfl

theorem length_le_flatMap_pieces (parts : List (List Char)) :
    parts.length ≤ (parts.flatMap pieces).length := by
  induction parts with
  | nil => exact Nat.le_refl 0
  | cons part rest ih =>
    have some_piece := List.length_pos_of_ne_nil (pieces_ne_nil part)
    rw [List.flatMap_cons, List.length_append, List.length_cons]
    omega

/-- Texts with no more pieces than there are texts have no separators in them. -/
theorem flatMap_pieces_of_length_le {parts : List (List Char)}
    (few : (parts.flatMap pieces).length ≤ parts.length) : parts.flatMap pieces = parts := by
  induction parts with
  | nil => rfl
  | cons part rest ih =>
    have some_piece := List.length_pos_of_ne_nil (pieces_ne_nil part)
    have rest_pieces := length_le_flatMap_pieces rest
    rw [List.flatMap_cons, List.length_append, List.length_cons] at few
    obtain ⟨only, one⟩ : ∃ only, pieces part = [only] := List.length_eq_one_iff.1 (by omega)
    have whole := intercalate_pieces part
    rw [one, List.intercalate_singleton] at whole
    rw [List.flatMap_cons, one, whole, ih (by omega), List.singleton_append]

/-- As many texts as others have the same pieces only if they are the same texts, provided that
there are no separators in one of the two lists. -/
theorem flatMap_pieces_inj {left right : List (List Char)} (count : left.length = right.length)
    (plain : ∀ part ∈ left, ¬separator.toList <:+: part) :
    left.flatMap pieces = right.flatMap pieces ↔ left = right := by
  have left_pieces : left.flatMap pieces = left := by
    rw [List.flatMap_congr fun part member => pieces_eq_singleton (plain part member),
      List.flatMap_singleton']
  constructor
  · intro same
    rw [left_pieces] at same
    have as_many : (right.flatMap pieces).length = right.length := by rw [← same, count]
    rw [same, flatMap_pieces_of_length_le (Nat.le_of_eq as_many)]
  · rintro rfl
    rfl

/-! ## Identities -/

/-- What stands between the separators behind the kind of the source. -/
def segments (source : Source) : List (List Char) :=
  (source.identifyingAttributes.map String.toList).flatMap pieces

/-- No attribute of the source has a separator in it. -/
def Plain (source : Source) : Prop :=
  ∀ text ∈ source.identifyingAttributes, ¬separator.toList <:+: text.toList

theorem pieces_append_parts (start : List Char) (parts : List String) :
    pieces (start ++ parts.flatMap fun part => separator.toList ++ part.toList) =
      pieces start ++ (parts.map String.toList).flatMap pieces := by
  induction parts generalizing start with
  | nil => simp
  | cons part rest ih =>
    rw [List.flatMap_cons, List.append_assoc, pieces_append, ih, List.map_cons, List.flatMap_cons]

theorem pieces_identity (source : Source) :
    pieces source.identity.toList = source.typeName.toList :: source.segments := by
  have kind : ¬separator.toList <:+: source.typeName.toList := by
    intro inner
    have opens : '<' ∈ source.typeName.toList := inner.subset (by simp [toList_separator])
    cases source <;> simp [typeName] at opens
  rw [identity, toList_foldl_parts, pieces_append_parts, pieces_eq_singleton kind,
    List.singleton_append, segments]

/-- An identity tells the kind of a source and its pieces, and nothing else. -/
theorem identity_eq_iff {left right : Source} :
    left.identity = right.identity ↔
      left.typeName = right.typeName ∧ left.segments = right.segments := by
  rw [← String.toList_inj, ← pieces_inj, pieces_identity, pieces_identity, List.cons.injEq,
    String.toList_inj]

theorem length_identifyingAttributes {left right : Source}
    (same : left.typeName = right.typeName) :
    left.identifyingAttributes.length = right.identifyingAttributes.length := by
  cases left <;> cases right <;> simp_all [typeName, identifyingAttributes]

/-- If one of two sources has no separator in an attribute, their identities agree just when the
sources are one. -/
theorem identity_eq_iff_sameOrigin {left right : Source} (plain : left.Plain) :
    left.identity = right.identity ↔ left.SameOrigin right := by
  have texts : ∀ part ∈ left.identifyingAttributes.map String.toList,
      ¬separator.toList <:+: part :=
    List.forall_mem_map.2 plain
  have injective : Function.Injective String.toList := fun _ _ => String.toList_inj.1
  rw [identity_eq_iff, sameOrigin_iff]
  refine and_congr_right fun kind => ?_
  rw [segments, segments,
    flatMap_pieces_inj (by simpa using length_identifyingAttributes kind) texts]
  exact (List.map_injective_iff.2 injective).eq_iff

theorem SameOrigin.symm {left right : Source} (same : left.SameOrigin right) :
    right.SameOrigin left := by
  rw [sameOrigin_iff] at same ⊢
  exact ⟨same.1.symm, same.2.symm⟩

end Source

/-! ## Fingerprints -/

namespace Material

theorem identityBytes_inj {left right : Material} :
    left.identityBytes = right.identityBytes ↔ left.source.identity = right.source.identity := by
  constructor
  · exact identity_eq_of_bytes
  · intro same
    rw [identityBytes, identityBytes, same]

theorem identityBytes_eq_iff_sameOrigin {left right : Material}
    (plain : left.source.Plain ∨ right.source.Plain) :
    left.identityBytes = right.identityBytes ↔ left.source.SameOrigin right.source := by
  rw [identityBytes_inj]
  rcases plain with plain | plain
  · exact Source.identity_eq_iff_sameOrigin plain
  · rw [eq_comm, Source.identity_eq_iff_sameOrigin plain]
    exact ⟨.symm, .symm⟩

end Material

namespace Catalog

/-- A committed pipeline declares the material at the place that the use says. -/
def Declares (catalog : Catalog) (use : Use) : Prop :=
  catalog.pipeline? use.pipeline.name = some use.pipeline ∧
    use.pipeline.materials.items[use.position]? = some use.material

theorem Declares.mem_identities {catalog : Catalog} {use : Use} (declares : catalog.Declares use) :
    use.material.identityBytes ∈ catalog.identities := by
  obtain ⟨group, committed⟩ := pipeline?_eq_some_iff.1 declares.1
  exact List.mem_flatMap.2 ⟨_, Table.mem_values_iff.2 ⟨_, committed⟩,
    List.mem_map_of_mem (List.mem_of_getElem? declares.2)⟩

theorem Consistent.share_iff {catalog : Catalog} (consistent : catalog.Consistent)
    {left right : Use} (left_declared : catalog.Declares left)
    (right_declared : catalog.Declares right) :
    (∃ fingerprint, left ∈ catalog.usesAt fingerprint ∧ right ∈ catalog.usesAt fingerprint) ↔
      left.material.fingerprint = right.material.fingerprint := by
  constructor
  · rintro ⟨fingerprint, left_used, right_used⟩
    obtain ⟨_, _, left_source⟩ := consistent.mem_usesAt_iff.1 left_used
    obtain ⟨_, _, right_source⟩ := consistent.mem_usesAt_iff.1 right_used
    rw [left_source, right_source]
  · intro same
    exact ⟨right.material.fingerprint,
      consistent.mem_usesAt_iff.2 ⟨left_declared.1, left_declared.2, same⟩,
      consistent.mem_usesAt_iff.2 ⟨right_declared.1, right_declared.2, rfl⟩⟩

end Catalog

/-- Materials from one source are digested from the same bytes. The bytes of two materials agree just
when their kinds do and what stands between the separators, so materials from different sources are
told apart as soon as one of them has no separator in an attribute. If digests do not collide, this
decides which of the materials that are declared are found together under a fingerprint. -/
theorem Material.fingerprint_told [Pattern.Engine] (left right : Material) :
    (left.source.SameOrigin right.source → left.identityBytes = right.identityBytes) ∧
    (left.identityBytes = right.identityBytes ↔
      left.source.typeName = right.source.typeName ∧
        left.source.segments = right.source.segments) ∧
    (left.source.Plain ∨ right.source.Plain →
      (left.identityBytes = right.identityBytes ↔ left.source.SameOrigin right.source) ∧
      ∀ catalog : Catalog, catalog.Reachable → Blake3.CollisionFree catalog.identities →
        ∀ first second : Use, catalog.Declares first → catalog.Declares second →
          first.material = left → second.material = right →
            ((∃ fingerprint, first ∈ catalog.usesAt fingerprint ∧
                second ∈ catalog.usesAt fingerprint) ↔
              left.source.SameOrigin right.source)) := by
  have pieces : left.identityBytes = right.identityBytes ↔
      left.source.typeName = right.source.typeName ∧
        left.source.segments = right.source.segments := by
    rw [identityBytes_inj, Source.identity_eq_iff]
  refine ⟨fun same => ?same, pieces, fun plain => ⟨identityBytes_eq_iff_sameOrigin plain, ?shared⟩⟩
  case same =>
    obtain ⟨kind, attributes⟩ := Source.sameOrigin_iff.1 same
    rw [pieces, Source.segments, Source.segments, attributes]
    exact ⟨kind, rfl⟩
  case shared =>
    rintro catalog reachable free first second first_declared second_declared rfl rfl
    rw [reachable.consistent.share_iff first_declared second_declared,
      ← identityBytes_eq_iff_sameOrigin plain]
    constructor
    · exact free _ first_declared.mem_identities _ second_declared.mem_identities
    · intro same
      rw [fingerprint, fingerprint, same]

/-- A material from a source, with nothing else declared. -/
def Material.ofSource (source : Source) : Material := { source }

/-- A pipeline that polls one source. -/
def polling (name : String) (source : Source) : Pipeline :=
  { name := ⟨name⟩, materials.items := [.ofSource source] }

theorem fingerprint_respelled :
    let catalog := (Catalog.initial none).performAll
      [.record (polling "build" (.dependency ⟨"Docs"⟩ ⟨"run"⟩)) "first",
        .record (polling "deploy" (.dependency ⟨"docs"⟩ ⟨"Run"⟩)) "first"]
    ∃ fingerprint left right, left ∈ catalog.usesAt fingerprint ∧
      right ∈ catalog.usesAt fingerprint ∧ left.pipeline.name = ⟨"build"⟩ ∧
        right.pipeline.name = ⟨"deploy"⟩ := by
  intro catalog
  have left_declared : catalog.Declares ⟨polling "build" (.dependency ⟨"Docs"⟩ ⟨"run"⟩), 0,
    .ofSource (.dependency ⟨"Docs"⟩ ⟨"run"⟩)⟩ := ⟨by decide +kernel, rfl⟩
  have right_declared : catalog.Declares ⟨polling "deploy" (.dependency ⟨"docs"⟩ ⟨"Run"⟩), 0,
    .ofSource (.dependency ⟨"docs"⟩ ⟨"Run"⟩)⟩ := ⟨by decide +kernel, rfl⟩
  have free : Blake3.CollisionFree catalog.identities := by
    unfold Blake3.CollisionFree
    decide +kernel
  have plain : (Source.dependency ⟨"Docs"⟩ ⟨"run"⟩).Plain := by
    unfold Source.Plain
    decide +kernel
  have same : (Source.dependency ⟨"Docs"⟩ ⟨"run"⟩).SameOrigin (.dependency ⟨"docs"⟩ ⟨"Run"⟩) :=
    ⟨by decide, by decide⟩
  have told := ((Material.fingerprint_told _ _).2.2 (.inl plain)).2 catalog ⟨none, _, rfl⟩ free _ _
    left_declared right_declared rfl rfl
  obtain ⟨fingerprint, left_used, right_used⟩ := told.2 same
  exact ⟨fingerprint, _, _, left_used, right_used, rfl, rfl⟩

/-- The separator in the address of one repository stands where the other has one before its
branch. -/
theorem identityBytes_ambiguous :
    let left := Material.ofSource (.git "https://host/a<|>b" "c")
    let right := Material.ofSource (.git "https://host/a" "b<|>c")
    left.identityBytes = right.identityBytes ∧ ¬left.source.SameOrigin right.source := by
  refine ⟨by decide +kernel, ?_⟩
  rintro ⟨url, _⟩
  exact absurd url (by decide)

end PipelineConfig
