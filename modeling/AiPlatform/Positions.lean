import Mathlib.Data.List.Basic

/-!
Lists whose items are looked up by position: where an item comes from that is found
after one was appended, set or changed.
-/

namespace AiPlatform.Positions

variable {α : Type} {items : List α} {item found : α} {i j : Nat}

theorem concat_some (there : (items ++ [item])[i]? = some found) :
    items[i]? = some found ∨ i = items.length ∧ found = item := by
  rcases Nat.lt_or_ge i items.length with before | past
  · rw [List.getElem?_append_left before] at there
    exact .inl there
  · rw [List.getElem?_append_right past] at there
    have inside := (List.getElem?_eq_some_iff.mp there).1
    rw [List.length_singleton] at inside
    exact .inr ⟨by omega, List.mem_singleton.mp (List.mem_of_getElem? there)⟩

theorem concat_kept (there : items[i]? = some found) (more : List α) :
    (items ++ more)[i]? = some found := by
  rw [List.getElem?_append_left (List.getElem?_eq_some_iff.mp there).1]
  exact there

theorem set_some (there : (items.set i item)[j]? = some found) :
    i = j ∧ found = item ∨ i ≠ j ∧ items[j]? = some found := by
  by_cases same : i = j
  · subst same
    rw [List.getElem?_set_self'] at there
    obtain ⟨_, _, rfl⟩ := Option.map_eq_some_iff.mp there
    exact .inl ⟨rfl, rfl⟩
  · rw [List.getElem?_set_ne same] at there
    exact .inr ⟨same, there⟩

theorem set_own (there : items[i]? = some found) : (items.set i item)[i]? = some item :=
  List.getElem?_set_self (List.getElem?_eq_some_iff.mp there).1

theorem map_set {β : Type} {key : α → β} (there : items[i]? = some found)
    (same : key item = key found) : (items.set i item).map key = items.map key := by
  obtain ⟨within, itself⟩ := List.getElem?_eq_some_iff.mp there
  have inside : i < (items.map key).length := by
    rw [List.length_map]
    exact within
  have own : key item = (items.map key)[i] := by
    rw [List.getElem_map, itself, same]
  rw [List.map_set, own, List.set_getElem_self]

theorem modify_some {change : α → α} (there : (items.modify i change)[j]? = some found) :
    (∃ old, i = j ∧ items[j]? = some old ∧ found = change old) ∨
      i ≠ j ∧ items[j]? = some found := by
  by_cases same : i = j
  · subst same
    rw [List.getElem?_modify_eq] at there
    obtain ⟨old, listed, rfl⟩ := Option.map_eq_some_iff.mp there
    exact .inl ⟨old, rfl, listed, rfl⟩
  · rw [List.getElem?_modify_ne _ _ same] at there
    exact .inr ⟨same, there⟩

theorem modify_own {change : α → α} (there : items[i]? = some found) :
    (items.modify i change)[i]? = some (change found) := by
  rw [List.getElem?_modify_eq, there]
  rfl

theorem modify_other {change : α → α} (other : i ≠ j) (there : items[j]? = some found) :
    (items.modify i change)[j]? = some found := by
  rw [List.getElem?_modify_ne _ _ other]
  exact there

end AiPlatform.Positions
