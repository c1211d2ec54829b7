/-!
# Marking members of a list

Walks over a finite list mark the members they have seen. The number of members without a mark
never grows, and it falls when a member is marked for the first time; that is why such walks end.
-/

namespace PipelineConfig

variable {α : Type}

/-- The number of members of a list that bear no mark. -/
def unmarked (members : List α) (marked : α → Bool) : Nat :=
  members.countP fun member => !marked member

theorem unmarked_le {members : List α} {before after : α → Bool}
    (kept : ∀ member, before member = true → after member = true) :
    unmarked members after ≤ unmarked members before := by
  refine List.countP_mono_left ?_
  intro member _ fresh
  cases mark : before member with
  | false => rfl
  | true => simp [kept member mark] at fresh

theorem unmarked_lt {members : List α} {before after : α → Bool}
    (kept : ∀ member, before member = true → after member = true)
    {chosen : α} (member : chosen ∈ members) (fresh : before chosen = false)
    (marked : after chosen = true) : unmarked members after < unmarked members before := by
  induction members with
  | nil => simp at member
  | cons head rest ih =>
    have rest_le : unmarked rest after ≤ unmarked rest before := unmarked_le kept
    simp only [unmarked, List.countP_cons] at *
    obtain rfl | later := List.mem_cons.1 member
    · simp [fresh, marked]
      omega
    · have rest_lt := ih later
      cases mark : before head with
      | true => simpa [kept head mark] using rest_lt
      | false => cases after head <;> simp <;> omega

end PipelineConfig
