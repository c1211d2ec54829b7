import Mathlib.Data.List.Forall2
import PipelineConfig.Proofs.Breakage
import PipelineConfig.Proofs.LowerCase

/-!
# What label templates refer to

The tokens of a label template are found from left to right: each stands behind the first opening
that is closed at all, and ends where it is closed first. A token refers to the part before its
first mark, with the white space at both ends taken off. A pipeline is told of every token that
refers to nothing it knows, one message each, in their order; it is told that the label says nothing
when there is neither a token nor a parameter.
-/

namespace PipelineConfig

/-! ## Places in a text -/

namespace Text

/-- The first place of a text where `needle` stands with something behind it that meets a
condition. -/
structure FirstPlace (needle : List Char) (meets : List Char → Prop)
    (text before after : List Char) : Prop where
  /-- The text is divided at the place. -/
  split : text = before ++ (needle ++ after)
  /-- What follows is as wanted. -/
  wanted : meets after
  /-- There is no earlier place of this kind. -/
  first : ∀ earlier later, text = earlier ++ (needle ++ later) → meets later →
    before.length ≤ earlier.length

/-- What is left of a text without the white space at both ends. -/
structure Trimmed (text core : List Char) : Prop where
  /-- Nothing but white space is taken off. -/
  split : ∃ left right, text = left ++ (core ++ right) ∧ left.all isBlankChar = true ∧
    right.all isBlankChar = true
  /-- What is left does not begin with white space. -/
  head : ∀ char ∈ core.head?, isBlankChar char = false
  /-- What is left does not end with white space. -/
  last : ∀ char ∈ core.getLast?, isBlankChar char = false

variable {needle text before after : List Char} {meets : List Char → Prop} {char : Char}

namespace FirstPlace

theorem unique {before' after' : List Char} (place : FirstPlace needle meets text before after)
    (place' : FirstPlace needle meets text before' after') : before = before' ∧ after = after' := by
  have lengths : before.length = before'.length :=
    Nat.le_antisymm (place.first _ _ place'.split place'.wanted)
      (place'.first _ _ place.split place.wanted)
  obtain ⟨same, rest⟩ := List.append_inj (place.split.symm.trans place'.split) lengths
  exact ⟨same, List.append_cancel_left rest⟩

theorem here (wanted : meets after) : FirstPlace needle meets (needle ++ after) [] after :=
  ⟨rfl, wanted, fun _ _ _ _ => Nat.zero_le _⟩

/-- A character with which `needle` does not begin comes before the place. -/
theorem cons (place : FirstPlace needle meets text before after)
    (apart : ¬needle <+: char :: text) :
    FirstPlace needle meets (char :: text) (char :: before) after := by
  refine ⟨congrArg (char :: ·) place.split, place.wanted, fun earlier later split wanted => ?_⟩
  cases earlier with
  | nil => exact absurd ⟨later, split.symm⟩ apart
  | cons head earlier =>
    exact Nat.succ_le_succ (place.first earlier later (List.cons.inj split).2 wanted)

theorem of_not_mem (absent : char ∉ before) (after : List Char) :
    FirstPlace [char] (fun _ => True) (before ++ char :: after) before after := by
  induction before with
  | nil => exact here trivial
  | cons head before ih =>
    rw [List.mem_cons, not_or] at absent
    exact (ih absent.2).cons fun begins => absent.1 (List.cons_prefix_cons.1 begins).1

end FirstPlace

theorem occurs_iff : occurs needle text = true ↔ needle <:+: text := by
  rw [occurs]
  induction text with
  | nil => cases needle <;> simp [afterFirst?]
  | cons char rest ih =>
    rw [afterFirst?, List.infix_cons_iff, ← List.isPrefixOf_iff_prefix]
    cases needle.isPrefixOf (char :: rest) <;> simp [ih]

/-- The text before the first place of `needle` is all of it if there is no such place. -/
theorem beforeFirst_told (needle text : List Char) :
    ¬needle <:+: text ∧ beforeFirst needle text = text ∨
      ∃ after, FirstPlace needle (fun _ => True) text (beforeFirst needle text) after := by
  induction text with
  | nil =>
    cases needle with
    | nil => exact .inr ⟨[], .here trivial⟩
    | cons => exact .inl ⟨by simp, rfl⟩
  | cons char rest ih =>
    rw [beforeFirst]
    split
    · rename_i begins
      obtain ⟨after, split⟩ := List.isPrefixOf_iff_prefix.1 begins
      exact .inr ⟨after, split ▸ .here trivial⟩
    · rename_i apart
      rw [List.isPrefixOf_iff_prefix] at apart
      rcases ih with ⟨absent, all⟩ | ⟨after, place⟩
      · exact .inl ⟨fun occurs => (List.infix_cons_iff.1 occurs).elim apart absent, by rw [all]⟩
      · exact .inr ⟨after, place.cons apart⟩

/-- White space is taken off up to a character of another kind. -/
theorem dropWhile_append_eq {left core : List Char} (blank : left.all isBlankChar = true)
    (head : ∀ char ∈ core.head?, isBlankChar char = false) :
    (left ++ core).dropWhile isBlankChar = core := by
  rw [List.dropWhile_append_of_pos (List.all_eq_true.1 blank)]
  cases core with
  | nil => rfl
  | cons char rest => rw [List.dropWhile_cons, head char rfl, if_neg Bool.false_ne_true]

theorem Trimmed.eq_trimChars {core : List Char} (trimmed : Trimmed text core) :
    core = trimChars text := by
  obtain ⟨⟨left, right, rfl, left_blank, right_blank⟩, head, last⟩ := trimmed
  rw [trimChars]
  by_cases empty : core = []
  · subst empty
    have all : (left ++ right).all isBlankChar = true := by
      rw [List.all_append, left_blank, right_blank, Bool.and_self]
    have nothing : (left ++ right ++ []).dropWhile isBlankChar = [] :=
      dropWhile_append_eq all (by simp)
    rw [List.append_nil] at nothing
    rw [List.nil_append, nothing]
    rfl
  · obtain ⟨char, rest, rfl⟩ := List.exists_cons_of_ne_nil empty
    have right_reversed : right.reverse.all isBlankChar = true := by
      rwa [List.all_reverse]
    rw [dropWhile_append_eq left_blank (by simpa using head), List.reverse_append,
      dropWhile_append_eq right_reversed (by rwa [List.head?_reverse]), List.reverse_reverse]

theorem trimmed_trimChars (text : List Char) : Trimmed text (trimChars text) := by
  have tail (chars : List Char) : ∀ char ∈ (chars.dropWhile isBlankChar).head?,
      isBlankChar char = false := by
    intro char found
    have := List.head?_dropWhile_not isBlankChar chars
    rw [Option.mem_def.1 found] at this
    simpa using this
  obtain ⟨right, split, right_blank⟩ : ∃ right,
      text.dropWhile isBlankChar = trimChars text ++ right ∧ right.all isBlankChar = true := by
    refine ⟨((text.dropWhile isBlankChar).reverse.takeWhile isBlankChar).reverse, ?_, ?_⟩
    · rw [trimChars, ← List.reverse_append, List.takeWhile_append_dropWhile, List.reverse_reverse]
    · rw [List.all_reverse, List.all_takeWhile]
  refine ⟨⟨text.takeWhile isBlankChar, right, ?_, List.all_takeWhile, right_blank⟩,
    fun char found => tail text char ?_, fun char found => ?_⟩
  · rw [← split, List.takeWhile_append_dropWhile]
  · rw [split]
    exact List.mem_head?_append_of_mem_head? found
  · rw [trimChars, List.getLast?_reverse] at found
    exact tail _ char found

end Text

namespace Label

/-! ## Tokens -/

/-- What opens a token. -/
def opening : List Char := ['$', '\x7b']

/-- The tokens of a text from left to right. The first one stands behind the first opening that is
closed anywhere later, and it ends at the first closing; the others are those of what follows. -/
inductive Scans : List Char → List (List Char) → Prop
  /-- No opening is closed. -/
  | done {text : List Char}
      (silent : ∀ before after, text = before ++ (opening ++ after) → '\x7d' ∉ after) :
      Scans text []
  /-- An opening is closed. -/
  | token {text before after token rest : List Char} {tokens : List (List Char)}
      (opened : Text.FirstPlace opening ('\x7d' ∈ ·) text before after)
      (closed : Text.FirstPlace ['\x7d'] (fun _ => True) after token rest)
      (onward : Scans rest tokens) : Scans text (token :: tokens)

namespace Scans

variable {text : List Char} {tokens : List (List Char)} {char : Char}

theorem unique {tokens' : List (List Char)} (scans : Scans text tokens)
    (scans' : Scans text tokens') : tokens = tokens' := by
  induction scans generalizing tokens' with
  | done silent =>
    cases scans' with
    | done => rfl
    | token opened => exact absurd opened.wanted (silent _ _ opened.split)
  | token opened closed _ ih =>
    cases scans' with
    | done silent => exact absurd opened.wanted (silent _ _ opened.split)
    | token opened' closed' onward' =>
      obtain ⟨_, rfl⟩ := opened.unique opened'
      obtain ⟨rfl, rfl⟩ := closed.unique closed'
      rw [ih onward']

/-- A character with which no opening begins does not matter. -/
theorem cons (scans : Scans text tokens) (apart : ¬opening <+: char :: text) :
    Scans (char :: text) tokens := by
  cases scans with
  | done silent =>
    refine .done fun before after split => ?_
    cases before with
    | nil => exact absurd ⟨after, split.symm⟩ apart
    | cons head before => exact silent before after (List.cons.inj split).2
  | token opened closed onward => exact .token (opened.cons apart) closed onward

end Scans

theorem tokens_cons {char : Char} {rest : List Char} (apart : ¬opening <+: char :: rest) :
    tokens (char :: rest) = tokens rest := by
  have outside : tokens (char :: rest) = tokensFrom (.outside (char = '$')) rest := rfl
  rw [outside]
  by_cases dollar : char = '$'
  · subst dollar
    cases rest with
    | nil => rfl
    | cons next rest =>
      have plain : next ≠ '\x7b' := by
        rintro rfl
        exact apart ⟨rest, rfl⟩
      rw [tokens, tokensFrom, tokensFrom, if_neg (by simp [plain]), if_neg (by simp)]
  · rw [decide_eq_false dollar, tokens]

/-- In a token, everything up to the first closing belongs to it. -/
theorem tokensFrom_inside {token : List Char} (closed : '\x7d' ∉ token) (begun rest : List Char) :
    tokensFrom (.inside begun) (token ++ '\x7d' :: rest) =
      (begun.reverse ++ token) :: tokens rest := by
  induction token generalizing begun with
  | nil => simp [tokensFrom, tokens]
  | cons char token ih =>
    rw [List.mem_cons, not_or] at closed
    rw [List.cons_append, tokensFrom, if_neg (Ne.symm closed.1), ih closed.2]
    simp

theorem tokensFrom_unclosed {text : List Char} (unclosed : '\x7d' ∉ text) (begun : List Char) :
    tokensFrom (.inside begun) text = [] := by
  induction text generalizing begun with
  | nil => rfl
  | cons char rest ih =>
    rw [List.mem_cons, not_or] at unclosed
    rw [tokensFrom, if_neg (Ne.symm unclosed.1), ih unclosed.2]

/-- An opening that is not closed by the end of the text leaves no tokens. -/
theorem scans_unclosed {after : List Char} (unclosed : '\x7d' ∉ after) :
    Scans (opening ++ after) [] := by
  refine .done fun before later split closed => ?_
  have somewhere : '\x7d' ∈ opening ++ after := by
    rw [split]
    exact List.mem_append_right _ (List.mem_append_right _ closed)
  rcases List.mem_append.1 somewhere with inside | behind
  · simp [opening] at inside
  · exact unclosed behind

/-- The tokens of a text are those that a scan from left to right comes upon. -/
theorem scans_tokens (text : List Char) : Scans text (tokens text) := by
  match text with
  | [] => exact .done (by simp [opening])
  | char :: rest =>
    by_cases opens : opening <+: char :: rest
    · obtain ⟨after, split⟩ := opens
      have inside : tokens (char :: rest) = tokensFrom (.inside []) after := split ▸ rfl
      rw [inside, ← split]
      by_cases closes : '\x7d' ∈ after
      · obtain ⟨token, later, rfl, absent⟩ := List.eq_append_cons_of_mem closes
        rw [tokensFrom_inside absent]
        exact .token (.here closes) (.of_not_mem absent later) (scans_tokens later)
      · rw [tokensFrom_unclosed closes]
        exact scans_unclosed closes
    · rw [tokens_cons opens]
      exact (scans_tokens rest).cons opens
termination_by text.length
decreasing_by
  · have lengths := congrArg List.length split
    simp [opening] at lengths ⊢
    omega
  · simp

theorem scans_iff {text : List Char} {found : List (List Char)} :
    Scans text found ↔ found = tokens text :=
  ⟨fun scans => scans.unique (scans_tokens text), fun same => same ▸ scans_tokens text⟩

/-! ## References -/

/-- What marks a shortened revision. -/
def mark : List Char := ['[', ':']

/-- A token refers to the part before its first mark, without the white space at both ends. -/
inductive RefersTo (token reference : List Char) : Prop
  /-- There is no mark. -/
  | whole (plain : ¬mark <:+: token) (trimmed : Text.Trimmed token reference)
  /-- The part before the first mark counts. -/
  | shortened {part after : List Char}
      (marked : Text.FirstPlace mark (fun _ => True) token part after)
      (trimmed : Text.Trimmed part reference)

theorem refersTo_iff {token named : List Char} :
    RefersTo token named ↔ named = reference token := by
  have trimmed := Text.trimmed_trimChars (Text.beforeFirst mark token)
  constructor
  · intro refers
    rcases Text.beforeFirst_told mark token with ⟨absent, all⟩ | ⟨after, place⟩
    · cases refers with
      | whole _ trimmed =>
        rw [trimmed.eq_trimChars, reference, ← mark, all]
      | shortened marked => exact absurd ⟨_, _, by rw [marked.split, List.append_assoc]⟩ absent
    · cases refers with
      | whole plain => exact absurd ⟨_, _, by rw [List.append_assoc, ← place.split]⟩ plain
      | shortened marked trimmed =>
        rw [trimmed.eq_trimChars, reference, ← mark, (marked.unique place).1]
  · rintro rfl
    rcases Text.beforeFirst_told mark token with ⟨absent, all⟩ | ⟨after, place⟩
    · rw [all] at trimmed
      exact .whole absent (by rwa [reference, ← mark, all])
    · exact .shortened place trimmed

theorem forall₂_refersTo_iff {tokens named : List (List Char)} :
    List.Forall₂ RefersTo tokens named ↔ named = tokens.map reference := by
  have reading : RefersTo = fun token named => reference token = named := by
    funext token named
    exact propext (refersTo_iff.trans eq_comm)
  rw [reading, ← List.forall₂_map_left_iff, List.forall₂_eq_eq_eq, eq_comm]

/-- What a reference can be to. -/
inductive Known (materials : List Material) (reference : List Char) : Prop
  /-- The number of the run. -/
  | counter (same : (Name.mk (String.ofList reference)).same ⟨"COUNT"⟩ = true)
  /-- An environment variable, whatever its name. -/
  | environment {front name : List Char} (split : reference = front ++ name)
      (same : (Name.mk (String.ofList front)).same ⟨"env:"⟩ = true)
  /-- A material, by the name it goes by. -/
  | material {material : Material} {name : Name} (declared : material ∈ materials)
      (named : material.effectiveName? = some name)
      (same : name.same ⟨String.ofList reference⟩ = true)

/-- A reference begins like that to an environment variable just when its lower case does. -/
theorem env_isPrefixOf_iff {reference : List Char} :
    "env:".toList.isPrefixOf (Name.mk (String.ofList reference)).folded.toList = true ↔
      ∃ front name, reference = front ++ name ∧
        (Name.mk (String.ofList front)).same ⟨"env:"⟩ = true := by
  have folded (chars : List Char) :
      (Name.mk (String.ofList chars)).folded.toList = chars.map Char.toLower := by
    rw [Name.folded, String.toList_map, String.toList_ofList]
  have lower : (Name.mk "env:").folded.toList = "env:".toList := by
    rw [Name.folded, String.toList_map]
    decide
  rw [List.isPrefixOf_iff_prefix, folded]
  constructor
  · rintro ⟨rest, split⟩
    obtain ⟨front, name, rfl, front_eq, _⟩ := List.map_eq_append_iff.1 split.symm
    refine ⟨front, name, rfl, ?_⟩
    rw [Name.same_iff_folded, ← String.toList_inj, folded, front_eq, lower]
  · rintro ⟨front, name, rfl, same⟩
    rw [Name.same_iff_folded, ← String.toList_inj, folded, lower] at same
    exact ⟨name.map Char.toLower, by rw [List.map_append, same]⟩

theorem resolves_iff {materials : List Material} {reference : List Char} :
    resolves materials reference = true ↔ Known materials reference := by
  have found : ((materials.filterMap Material.effectiveName?).any fun material =>
      material.same ⟨String.ofList reference⟩) = true ↔
        ∃ material ∈ materials, ∃ name, material.effectiveName? = some name ∧
          name.same ⟨String.ofList reference⟩ = true := by
    simp only [List.any_eq_true, List.mem_filterMap]
    grind
  rw [resolves, Bool.or_eq_true, Bool.or_eq_true, env_isPrefixOf_iff, found]
  constructor
  · rintro ((same | ⟨front, name, split, same⟩) | ⟨material, declared, name, named, same⟩)
    · exact .counter same
    · exact .environment split same
    · exact .material declared named same
  · rintro (same | ⟨split, same⟩ | ⟨declared, named, same⟩)
    · exact .inl (.inl same)
    · exact .inl (.inr ⟨_, _, split, same⟩)
    · exact .inr ⟨_, declared, _, named, same⟩

instance (materials : List Material) (reference : List Char) :
    Decidable (Known materials reference) :=
  decidable_of_iff _ resolves_iff

/-- Whether a label changes from run to run: it has a token or a parameter. -/
def Varies (template : List Char) : Prop := tokens template ≠ [] ∨ ['#', '\x7b'] <:+: template

theorem problems_of_varies {pipeline : Pipeline} (varies : Varies pipeline.labelTemplate.toList) :
    problems pipeline =
      (((tokens pipeline.labelTemplate.toList).map reference).filter fun reference =>
        ¬Known pipeline.materials.items reference).map fun reference =>
          .unknownLabelMaterial pipeline.name (String.ofList reference) := by
  rw [problems]
  cases found : tokens pipeline.labelTemplate.toList with
  | nil =>
    have parameter := Text.occurs_iff.2 (varies.resolve_left (absurd found))
    simp [parameter, Problem.when]
  | cons token rest =>
    rw [map_filter_eq_filterMap]
    refine List.filterMap_congr fun reference _ => ?_
    cases known : resolves pipeline.materials.items reference <;> simp [← resolves_iff, known]

theorem problems_of_not_varies {pipeline : Pipeline}
    (constant : ¬Varies pipeline.labelTemplate.toList) :
    problems pipeline = [.constantLabel pipeline.labelTemplate] := by
  rw [Varies, not_or, not_not, ← Text.occurs_iff, Bool.not_eq_true] at constant
  rw [problems, constant.1, constant.2]
  rfl

end Label

namespace Pipeline

/-- Nothing but the label template is told on its field. -/
theorem on_labelTemplate_validate [Pattern.Engine] (pipeline : Pipeline) (catalog : Catalog) :
    (pipeline.validate catalog).2.errors.on "labelTemplate" =
      (Label.problems pipeline).map Problem.message := by
  have name : ∀ problem ∈ Problem.when (!Name.isValid pipeline.name.text)
      (.invalidName "name" "pipeline" pipeline.name.text), problem.field ≠ "labelTemplate" := by
    intro problem member
    obtain rfl := Problem.eq_of_mem_when member
    simp [Problem.field]
  have references : ∀ problem ∈ Review.downstreamDependencyProblems pipeline
      (.ofEdit catalog pipeline), problem.field ≠ "labelTemplate" := by
    intro problem member
    simp [field_eq_base_of_mem_references member, FieldErrors.base]
  have source : ∀ problem ∈ pipeline.stageSourceProblems (Scope.ofEdit catalog pipeline).catalog,
      problem.field ≠ "labelTemplate" := by
    intro problem member
    rcases field_of_mem_source member with field | field <;> simp [field]
  have fetches : ∀ problem ∈ Review.downstreamFetchProblems pipeline
      (.ofEdit catalog pipeline), problem.field ≠ "labelTemplate" := by
    intro problem member
    simp [field_eq_base_of_mem_fetches member, FieldErrors.base]
  rw [on_validate, problems, ownProblems, List.filter_append, List.filter_append,
    List.filter_append, List.filter_append, Problem.filter_field_eq_nil name,
    Problem.filter_field_eq_nil references, Problem.filter_field_eq_nil source,
    Problem.filter_field_eq_nil fetches, Problem.filter_field_eq_self fun _ => field_of_mem_label,
    List.nil_append, List.append_nil, List.append_nil, List.append_nil]

/-- A pipeline is told what its label template refers to in vain. The tokens are those that a scan
from left to right comes upon, and each has one reference. The label is in order just when it has a
token or a parameter and every reference is to something known; one message is for a label with
neither, otherwise there is one for each reference to nothing known, in their order. -/
theorem labelTemplate_told [Pattern.Engine] (pipeline : Pipeline) (catalog : Catalog) :
    ∃ tokens references,
      (∀ found, Label.Scans pipeline.labelTemplate.toList found ↔ found = tokens) ∧
      (∀ named, List.Forall₂ Label.RefersTo tokens named ↔ named = references) ∧
      let errors := (pipeline.validate catalog).2.errors.on "labelTemplate"
      let speaks := tokens ≠ [] ∨ ['#', '\x7b'] <:+: pipeline.labelTemplate.toList
      (errors = [] ↔
        speaks ∧ ∀ reference ∈ references, Label.Known pipeline.materials.items reference) ∧
      (¬speaks → errors = [(Problem.constantLabel pipeline.labelTemplate).message]) ∧
      (speaks → errors = (references.filter fun reference =>
        ¬Label.Known pipeline.materials.items reference).map fun reference =>
          (Problem.unknownLabelMaterial pipeline.name (String.ofList reference)).message) := by
  refine ⟨Label.tokens pipeline.labelTemplate.toList,
    (Label.tokens pipeline.labelTemplate.toList).map Label.reference, fun _ => Label.scans_iff,
    fun _ => Label.forall₂_refersTo_iff, ?_⟩
  intro errors speaks
  have told : errors = (Label.problems pipeline).map Problem.message :=
    pipeline.on_labelTemplate_validate catalog
  by_cases varies : speaks
  · rw [Label.problems_of_varies varies, List.map_map] at told
    refine ⟨?_, fun constant => absurd varies constant, fun _ => told⟩
    rw [told, List.map_eq_nil_iff, List.filter_eq_nil_iff]
    simp [varies]
  · rw [Label.problems_of_not_varies varies] at told
    exact ⟨iff_of_false (by simp [told]) fun fine => varies fine.1, fun _ => told,
      fun fine => absurd fine varies⟩

end Pipeline

end PipelineConfig
