import Mathlib.Data.List.Nodup

/-!
Tables as lists of rows, for services whose requests take effect one after the
other. A row is looked up by a key and changed in place, so a change of one row
leaves the keys of the table and its other rows as they were.
-/

namespace AiPlatform

theorem distinct_concat {Item Key : Type} (key : Item → Key) {items : List Item} {item : Item}
    (distinct : (items.map key).Nodup) (fresh : ∀ other ∈ items, key other ≠ key item) :
    ((items ++ [item]).map key).Nodup := by
  rw [List.map_append]
  refine distinct.append (List.nodup_singleton _) fun found old new => ?_
  obtain ⟨other, member, rfl⟩ := List.mem_map.mp old
  exact fresh other member (List.mem_singleton.mp new)

namespace Rows

variable {Row Key : Type} {key : Row → Key} {rows : List Row} {wanted : Key} {row : Row}

theorem key_unique (distinct : (rows.map key).Nodup) {other : Row} (member : row ∈ rows)
    (listed : other ∈ rows) (same : key other = key row) : other = row :=
  List.inj_on_of_nodup_map distinct listed member same

variable [DecidableEq Key]

def get (key : Row → Key) (rows : List Row) (wanted : Key) : Option Row :=
  rows.find? fun row => key row = wanted

def amend (key : Row → Key) (wanted : Key) (change : Row → Row) (rows : List Row) : List Row :=
  rows.map fun row => if key row = wanted then change row else row

theorem get_some (found : get key rows wanted = some row) : row ∈ rows ∧ key row = wanted := by
  constructor
  · exact List.mem_of_find?_eq_some found
  · simpa using List.find?_some found

theorem get_none : get key rows wanted = none ↔ ∀ row ∈ rows, key row ≠ wanted := by
  simp [get, List.find?_eq_none]

theorem get_row (distinct : (rows.map key).Nodup) (member : row ∈ rows) :
    get key rows (key row) = some row := by
  cases found : get key rows (key row) with
  | none => exact absurd rfl (get_none.mp found row member)
  | some other =>
      obtain ⟨listed, same⟩ := get_some found
      rw [key_unique distinct member listed same]

theorem mem_amend {change : Row → Row} :
    row ∈ amend key wanted change rows ↔
      (∃ old ∈ rows, key old = wanted ∧ change old = row) ∨ (row ∈ rows ∧ key row ≠ wanted) := by
  rw [amend, List.mem_map]
  constructor
  · rintro ⟨old, member, rfl⟩
    by_cases keyed : key old = wanted
    · rw [if_pos keyed]
      exact .inl ⟨old, member, keyed, rfl⟩
    · rw [if_neg keyed]
      exact .inr ⟨member, keyed⟩
  · rintro (⟨old, member, keyed, rfl⟩ | ⟨member, other⟩)
    · exact ⟨old, member, if_pos keyed⟩
    · exact ⟨row, member, if_neg other⟩

theorem amend_persists {change : Row → Row} (relation : Row → Row → Prop)
    (itself : relation row row) (changed : key row = wanted → relation row (change row))
    (member : row ∈ rows) : ∃ next ∈ amend key wanted change rows, relation row next := by
  by_cases keyed : key row = wanted
  · exact ⟨change row, mem_amend.mpr (.inl ⟨row, member, keyed, rfl⟩), changed keyed⟩
  · exact ⟨row, mem_amend.mpr (.inr ⟨member, keyed⟩), itself⟩

theorem keys_amend {change : Row → Row} (kept : ∀ row, key (change row) = key row) :
    (amend key wanted change rows).map key = rows.map key := by
  rw [amend, List.map_map]
  apply List.map_congr_left
  intro row _
  by_cases keyed : key row = wanted
  · simp [keyed, kept]
  · simp [keyed]

end Rows

end AiPlatform
