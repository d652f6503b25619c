import Mathlib.Logic.Function.Basic

/-!
Values that are assigned to keys one after the other: a key has the value that was
assigned to it last.
-/

namespace AiPlatform.Assignments

variable {Key Value : Type} [DecidableEq Key]

def assign (store : Key → Option Value) : List (Key × Value) → Key → Option Value
  | [] => store
  | (key, value) :: rest => assign (Function.update store key (some value)) rest

variable {store : Key → Option Value} {assignments : List (Key × Value)} {key : Key} {value : Value}

theorem assign_of_agrees (agrees : ∀ entry ∈ assignments, entry.1 = key → entry.2 = value)
    (given : (∃ entry ∈ assignments, entry.1 = key) ∨ store key = some value) :
    assign store assignments key = some value := by
  induction assignments generalizing store with
  | nil =>
      obtain ⟨_, member, _⟩ | kept := given
      · cases member
      · exact kept
  | cons entry rest ih =>
      apply ih fun later member => agrees later (List.mem_cons_of_mem entry member)
      by_cases same : entry.1 = key
      · right
        rw [← same, Function.update_self, agrees entry List.mem_cons_self same]
      · rw [Function.update_of_ne (Ne.symm same)]
        refine given.imp ?_ id
        rintro ⟨later, member, held⟩
        rcases List.mem_cons.mp member with rfl | member
        · exact absurd held same
        · exact ⟨later, member, held⟩

end AiPlatform.Assignments
