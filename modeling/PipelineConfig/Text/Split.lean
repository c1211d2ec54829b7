/-!
# Dividing and searching text

Texts are divided at a separating character and searched for a fixed sequence of characters.
-/

namespace PipelineConfig.Text

/-- The pieces of a text between the occurrences of `separator`; there is always at least one. -/
def splitChars (separator : Char) : List Char → List (List Char)
  | [] => [[]]
  | char :: rest =>
    if char = separator then [] :: splitChars separator rest
    else
      match splitChars separator rest with
      | [] => [[char]]
      | piece :: pieces => (char :: piece) :: pieces

/-- The words of a text between blanks and line ends. -/
def words (text : List Char) : List (List Char) :=
  (splitChars ' ' (text.map fun char => if char = '\n' then ' ' else char)).filter
    fun word => !word.isEmpty

/-- What follows the first place where `needle` occurs in a text, if it occurs. -/
def afterFirst? (needle : List Char) : List Char → Option (List Char)
  | [] => if needle.isEmpty then some [] else none
  | char :: rest =>
    if needle.isPrefixOf (char :: rest) then some ((char :: rest).drop needle.length)
    else afterFirst? needle rest

/-- The text before the first place where `needle` occurs, or all of it. -/
def beforeFirst (needle : List Char) : List Char → List Char
  | [] => []
  | char :: rest =>
    if needle.isPrefixOf (char :: rest) then [] else char :: beforeFirst needle rest

/-- Whether `needle` occurs in a text. -/
def occurs (needle : List Char) (text : List Char) : Bool := (afterFirst? needle text).isSome

/-- The texts written one after the other with `separator` between them. -/
def joinWith (separator : String) : List String → String
  | [] => ""
  | [text] => text
  | text :: rest => text ++ separator ++ joinWith separator rest

theorem splitChars_ne_nil (separator : Char) (chars : List Char) :
    splitChars separator chars ≠ [] := by
  cases chars with
  | nil => simp [splitChars]
  | cons char rest =>
    rw [splitChars]
    split
    · simp
    · split <;> simp

/-- At a separator the pieces of what stands before it end. -/
theorem splitChars_append_cons (separator : Char) (left right : List Char) :
    splitChars separator (left ++ separator :: right) =
      splitChars separator left ++ splitChars separator right := by
  induction left with
  | nil => simp [splitChars]
  | cons char rest ih =>
    rw [List.cons_append, splitChars, splitChars, ih]
    split
    · rfl
    · cases pieces : splitChars separator rest with
      | nil => exact absurd pieces (splitChars_ne_nil separator rest)
      | cons piece later => rfl

/-- A text without the separator is its own only piece. -/
theorem splitChars_of_not_mem {separator : Char} {chars : List Char}
    (absent : separator ∉ chars) : splitChars separator chars = [chars] := by
  induction chars with
  | nil => rfl
  | cons char rest ih =>
    have head_ne : char ≠ separator := by
      intro equal
      exact absent (by simp [equal])
    have rest_absent : separator ∉ rest := by
      intro member
      exact absent (by simp [member])
    rw [splitChars, if_neg head_ne, ih rest_absent]

/-- Written with the separator between them, the pieces of a text make up the text. -/
theorem intercalate_splitChars (separator : Char) (chars : List Char) :
    [separator].intercalate (splitChars separator chars) = chars := by
  induction chars with
  | nil => rfl
  | cons char rest ih =>
    rw [splitChars]
    split
    · rename_i here
      rw [List.intercalate_cons_of_ne_nil (splitChars_ne_nil separator rest), ih, here]
      rfl
    · cases pieces : splitChars separator rest with
      | nil => exact absurd pieces (splitChars_ne_nil separator rest)
      | cons piece later =>
        rw [pieces] at ih
        cases later with
        | nil => simpa using ih
        | cons next later => simpa [List.intercalate_cons_cons] using ih

theorem not_mem_of_mem_splitChars {separator : Char} {chars piece : List Char}
    (member : piece ∈ splitChars separator chars) : separator ∉ piece := by
  induction chars generalizing piece with
  | nil =>
    obtain rfl := List.mem_singleton.1 member
    exact List.not_mem_nil
  | cons char rest ih =>
    rw [splitChars] at member
    split at member
    · rcases List.mem_cons.1 member with rfl | member
      · exact List.not_mem_nil
      · exact ih member
    · rename_i apart
      cases pieces : splitChars separator rest with
      | nil => exact absurd pieces (splitChars_ne_nil separator rest)
      | cons first later =>
        rw [pieces] at member ih
        rcases List.mem_cons.1 member with rfl | member
        · rw [List.mem_cons, not_or]
          exact ⟨fun equal => apart equal.symm, ih List.mem_cons_self⟩
        · exact ih (List.mem_cons_of_mem _ member)

/-- Texts without the separator are the pieces of the text that they are joined to. -/
theorem splitChars_intercalate {separator : Char} {pieces : List (List Char)}
    (present : pieces ≠ []) (absent : ∀ piece ∈ pieces, separator ∉ piece) :
    splitChars separator ([separator].intercalate pieces) = pieces := by
  induction pieces with
  | nil => exact absurd rfl present
  | cons piece later ih =>
    have whole := splitChars_of_not_mem (absent piece List.mem_cons_self)
    cases later with
    | nil => rw [List.intercalate_singleton, whole]
    | cons next later =>
      rw [List.intercalate_cons_cons, List.append_assoc, List.singleton_append,
        splitChars_append_cons, whole, List.singleton_append,
        ih (List.cons_ne_nil _ _) fun other listed => absent other (.tail _ listed)]

end PipelineConfig.Text
