import Mathlib.Data.List.Basic
import PipelineConfig.Sandbox

/-!
# Where the pieces of a path lead

Slashes divide a path into pieces. Whether the path stays inside is decided by a depth that rises
and falls along its components. The depth never has to fall below that of the start just when no
beginning of the pieces leads up more often than it leads down, and this is to say that the path can
be followed from any folder without leaving it.
-/

namespace PipelineConfig.Sandbox

/-- The pieces have no slashes in them and make up the path with slashes between them. -/
structure Divides (pieces : List (List Char)) (path : String) : Prop where
  /-- There is a piece, even of an empty path. -/
  present : pieces ≠ []
  /-- Slashes stand between pieces only. -/
  plain : ∀ piece ∈ pieces, '/' ∉ piece
  /-- Nothing is lost. -/
  joined : ['/'].intercalate pieces = path.toList

/-- Whether a piece leads up to the enclosing folder. -/
def leadsUp (piece : List Char) : Bool := piece == ['.', '.']

/-- Whether a piece leads down to an entry of the folder. -/
def leadsDown (piece : List Char) : Bool :=
  piece != [] && piece != ['.'] && piece != ['.', '.']

/-- The folder that a piece leads to. A folder is given by the names on the way down to it, and the
topmost folder encloses itself. -/
def follow (folder : List (List Char)) (piece : List Char) : List (List Char) :=
  if piece = [] ∨ piece = ['.'] then folder
  else if piece = ['.', '.'] then folder.dropLast
  else folder ++ [piece]

/-- No beginning of the pieces leads up more often than down. -/
def NeverAbove (pieces : List (List Char)) : Prop :=
  ∀ start, start <+: pieces → start.countP leadsUp ≤ start.countP leadsDown

/-- Followed one by one from a folder, the pieces never leave it. -/
def NeverLeaves (base : List (List Char)) (pieces : List (List Char)) : Prop :=
  ∀ start, start <+: pieces → base <+: start.foldl follow base

/-! ## Pieces and components -/

/-- A path is divided by its slashes in one way. -/
theorem divides_iff {pieces : List (List Char)} {path : String} :
    Divides pieces path ↔ pieces = Text.splitChars '/' path.toList := by
  constructor
  · rintro ⟨present, plain, joined⟩
    rw [← joined, Text.splitChars_intercalate present plain]
  · rintro rfl
    exact ⟨Text.splitChars_ne_nil _ _, fun _ => Text.not_mem_of_mem_splitChars,
      Text.intercalate_splitChars _ _⟩

/-- A piece stands for no component, for the enclosing folder or for an entry. -/
theorem ofPiece?_cases (piece : List Char) :
    ((piece = [] ∨ piece = ['.']) ∧ Component.ofPiece? piece = none) ∨
    (piece = ['.', '.'] ∧ Component.ofPiece? piece = some .parent) ∨
    (¬(piece = [] ∨ piece = ['.']) ∧ piece ≠ ['.', '.'] ∧
      Component.ofPiece? piece = some (.entry piece)) := by
  fun_cases Component.ofPiece? piece with
  | case1 => exact .inl ⟨.inl rfl, rfl⟩
  | case2 => exact .inl ⟨.inr rfl, rfl⟩
  | case3 => exact .inr (.inl ⟨rfl, rfl⟩)
  | case4 name some_text no_dot no_dots =>
    exact .inr (.inr ⟨not_or.2 ⟨some_text, no_dot⟩, no_dots, rfl⟩)

/-- A path stays inside if it does not start at the topmost folder and its pieces stay inside. -/
theorem isInside_iff {path : String} {pieces : List (List Char)} (divides : Divides pieces path) :
    isInside path = true ↔ path.toList.head? ≠ some '/' ∧
      staysInside 0 (pieces.filterMap Component.ofPiece?) = true := by
  rw [isInside, components, ← divides_iff.1 divides]
  by_cases absolute : path.toList.head? = some '/'
  · simp [absolute, staysInside]
  · by_cases dot : pieces.head? = some ['.'] <;> simp [absolute, dot, staysInside]

/-! ## Depth -/

theorem forall_prefix_cons {α : Type} {motive : List α → Prop} {head : α} {rest : List α} :
    (∀ start, start <+: head :: rest → motive start) ↔
      motive [] ∧ ∀ start, start <+: rest → motive (head :: start) := by
  constructor
  · intro all
    exact ⟨all [] List.nil_prefix,
      fun start begins => all _ (List.cons_prefix_cons.2 ⟨rfl, begins⟩)⟩
  · rintro ⟨none_yet, later⟩ start begins
    rcases List.prefix_cons_iff.1 begins with rfl | ⟨rest_start, rfl, rest_begins⟩
    · exact none_yet
    · exact later rest_start rest_begins

/-- The depth is the number of names that were followed down and not left again. -/
theorem staysInside_iff_countP (depth : Nat) (pieces : List (List Char)) :
    staysInside depth (pieces.filterMap Component.ofPiece?) = true ↔
      ∀ start, start <+: pieces → start.countP leadsUp ≤ depth + start.countP leadsDown := by
  induction pieces generalizing depth with
  | nil => simp [staysInside]
  | cons piece rest ih =>
    rw [forall_prefix_cons]
    rcases ofPiece?_cases piece with ⟨idle, stands⟩ | ⟨rfl, stands⟩ | ⟨moves, other, stands⟩
    · have not_up : leadsUp piece = false := by rcases idle with rfl | rfl <;> rfl
      have not_down : leadsDown piece = false := by rcases idle with rfl | rfl <;> rfl
      rw [List.filterMap_cons_none stands, ih]
      simp [not_up, not_down]
    · have is_up : leadsUp ['.', '.'] = true := rfl
      have not_down : leadsDown ['.', '.'] = false := rfl
      rw [List.filterMap_cons_some stands]
      cases depth with
      | zero =>
        refine iff_of_false Bool.false_ne_true fun all => ?_
        simpa [is_up, not_down] using all.2 [] List.nil_prefix
      | succ up =>
        rw [staysInside, ih]
        simp [is_up, not_down, Nat.add_right_comm]
    · have not_up : leadsUp piece = false := by simpa [leadsUp] using other
      have is_down : leadsDown piece = true := by simp [leadsDown, not_or.1 moves, other]
      rw [List.filterMap_cons_some stands, staysInside, ih]
      simp [not_up, is_down, Nat.add_right_comm, Nat.add_assoc]

/-- The depth is the number of names between the base and the folder that is reached. The base has
to be below the topmost folder, which cannot be left. -/
theorem staysInside_iff_follow {base : List (List Char)} (below : base ≠ [])
    (pieces inner : List (List Char)) :
    staysInside inner.length (pieces.filterMap Component.ofPiece?) = true ↔
      ∀ start, start <+: pieces → base <+: start.foldl follow (base ++ inner) := by
  induction pieces generalizing inner with
  | nil => simp [staysInside]
  | cons piece rest ih =>
    rw [forall_prefix_cons]
    rcases ofPiece?_cases piece with ⟨idle, stands⟩ | ⟨rfl, stands⟩ | ⟨moves, other, stands⟩
    · have stays : follow (base ++ inner) piece = base ++ inner := if_pos idle
      rw [List.filterMap_cons_none stands, ih]
      simp [stays]
    · rw [List.filterMap_cons_some stands]
      rcases List.eq_nil_or_concat inner with rfl | ⟨outer, name, rfl⟩
      · refine iff_of_false Bool.false_ne_true fun all => ?_
        have shorter : base.length ≤ base.dropLast.length := by
          simpa [follow] using (all.2 [] List.nil_prefix).length_le
        have some_name := List.length_pos_of_ne_nil below
        rw [List.length_dropLast] at shorter
        omega
      · have climbs : follow (base ++ (outer ++ [name])) ['.', '.'] = base ++ outer := by
          rw [← List.append_assoc]
          exact List.dropLast_concat
        rw [List.concat_eq_append, List.length_append, List.length_singleton, staysInside, ih]
        simp [climbs]
    · have enters : follow (base ++ inner) piece = base ++ (inner ++ [piece]) := by
        rw [follow, if_neg moves, if_neg other, List.append_assoc]
      have deeper : inner.length + 1 = (inner ++ [piece]).length := by simp
      rw [List.filterMap_cons_some stands, staysInside, deeper, ih]
      simp [enters]

theorem neverLeaves_iff {base : List (List Char)} (below : base ≠ [])
    {pieces : List (List Char)} :
    NeverLeaves base pieces ↔ staysInside 0 (pieces.filterMap Component.ofPiece?) = true := by
  have followed := staysInside_iff_follow below pieces []
  rw [List.append_nil] at followed
  exact followed.symm

theorem neverAbove_iff {pieces : List (List Char)} :
    NeverAbove pieces ↔ staysInside 0 (pieces.filterMap Component.ofPiece?) = true := by
  simp only [staysInside_iff_countP, Nat.zero_add, NeverAbove]

/-- A path is divided by its slashes into pieces, in one way. It stays inside just when it is
relative and no beginning of the pieces leads up more often than down. This is to say that it is
relative and its pieces can be followed from every folder without leaving it. It is enough to try
one folder, but not the topmost one. -/
theorem isInside_told (path : String) :
    ∃ pieces, (∀ others, Divides others path ↔ others = pieces) ∧
      (isInside path = true ↔ path.toList.head? ≠ some '/' ∧ NeverAbove pieces) ∧
      (isInside path = true ↔
        path.toList.head? ≠ some '/' ∧ ∀ base, NeverLeaves base pieces) ∧
      ∀ base, base ≠ [] →
        (isInside path = true ↔ path.toList.head? ≠ some '/' ∧ NeverLeaves base pieces) := by
  let pieces := Text.splitChars '/' path.toList
  have divides : Divides pieces path := divides_iff.2 rfl
  have anywhere : (∀ base, NeverLeaves base pieces) ↔
      staysInside 0 (pieces.filterMap Component.ofPiece?) = true := by
    constructor
    · intro all
      exact (neverLeaves_iff (List.cons_ne_nil [] [])).1 (all [[]])
    · intro stays base
      by_cases top : base = []
      · subst top
        exact fun _ _ => List.nil_prefix
      · exact (neverLeaves_iff top).2 stays
  refine ⟨pieces, fun others => divides_iff, ?_, ?_, fun base below => ?_⟩
  · rw [isInside_iff divides, neverAbove_iff]
  · rw [isInside_iff divides, anywhere]
  · rw [isInside_iff divides, neverLeaves_iff below]

/-- The path comes back to the folder that it leaves. -/
theorem isInside_told_return :
    let base := ["in".toList]
    ∃ pieces, Divides pieces "../in" ∧ base ≠ [] ∧ pieces.foldl follow base = base ∧
      ¬NeverLeaves base pieces := by
  intro base
  obtain ⟨pieces, divided, -, -, decided⟩ := isInside_told "../in"
  have divides : Divides pieces "../in" := (divided pieces).2 rfl
  have pieces_eq : pieces = ["..".toList, "in".toList] := divides_iff.1 divides
  have below : base ≠ [] := List.cons_ne_nil _ _
  refine ⟨pieces, divides, below, by rw [pieces_eq]; rfl, fun remains => ?_⟩
  have relative : "../in".toList.head? ≠ some '/' := by decide
  exact absurd ((decided base below).2 ⟨relative, remains⟩) (by decide)

end PipelineConfig.Sandbox
