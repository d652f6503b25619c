import Mathlib.Data.List.Infix

/-!
Rows of cells written one after another with a separator between them. Splitting at the
separator takes a row apart into its cells when none of them holds it, and into one more
piece for every separator in them otherwise. A table is read without a fault when each of
its rows is.
-/

namespace AiPlatform.Columns

variable {α : Type} {separator : α} {cell : List α} {cells : List (List α)}

def joined (separator : α) : List (List α) → List α
  | [] => []
  | [cell] => cell
  | cell :: next :: rest => cell ++ separator :: joined separator (next :: rest)

theorem mem_of_joined {a : α} (member : a ∈ joined separator cells) :
    a = separator ∨ ∃ cell ∈ cells, a ∈ cell := by
  induction cells with
  | nil => simp [joined] at member
  | cons cell rest ih =>
      cases rest with
      | nil => exact .inr ⟨cell, by simp, member⟩
      | cons next rest =>
          rw [joined, List.mem_append, List.mem_cons] at member
          rcases member with inside | rfl | later
          · exact .inr ⟨cell, by simp, inside⟩
          · exact .inl rfl
          · refine (ih later).imp id ?_
            rintro ⟨cell, listed, inside⟩
            exact ⟨cell, List.mem_cons_of_mem _ listed, inside⟩

variable [BEq α]

theorem length_splitOn : (cell.splitOn separator).length = cell.count separator + 1 := by
  induction cell with
  | nil => simp
  | cons a rest ih =>
      rw [List.splitOn] at ih ⊢
      rw [List.splitOnP_cons_eq_if_modifyHead, List.count_cons]
      split <;> simp [ih]

theorem length_pieces (separator : α) (cells : List (List α)) :
    (cells.flatMap (List.splitOn separator)).length =
      cells.length + cells.flatten.count separator := by
  induction cells with
  | nil => simp
  | cons cell rest ih =>
      rw [List.flatMap_cons, List.length_append, length_splitOn, ih, List.flatten_cons,
        List.count_append, List.length_cons]
      omega

variable [LawfulBEq α]

theorem splitOn_absent (absent : separator ∉ cell) : cell.splitOn separator = [cell] := by
  refine List.splitOnP_eq_singleton fun a member => ?_
  rw [beq_eq_false_iff_ne]
  rintro rfl
  exact absent member

theorem splitOn_joined (separator : α) (some : cells ≠ []) :
    (joined separator cells).splitOn separator = cells.flatMap (List.splitOn separator) := by
  induction cells with
  | nil => exact absurd rfl some
  | cons cell rest ih =>
      cases rest with
      | nil => simp [joined]
      | cons next rest =>
          have apart : (cell ++ separator :: joined separator (next :: rest)).splitOn separator =
              cell.splitOn separator ++
                (joined separator (next :: rest)).splitOn separator :=
            List.splitOnP_append_cons _ _ (by simp)
          rw [joined, apart, ih (by simp), ← List.flatMap_cons]

theorem pieces_absent (absent : separator ∉ cells.flatten) :
    cells.flatMap (List.splitOn separator) = cells := by
  induction cells with
  | nil => rfl
  | cons cell rest ih =>
      rw [List.flatten_cons, List.mem_append, not_or] at absent
      rw [List.flatMap_cons, splitOn_absent absent.1, ih absent.2, List.singleton_append]

theorem mapM_eq_ok_map {Row Report Fault : Type} {read : Row → Except Fault Report}
    {shown : Row → Report} {rows : List Row} :
    rows.mapM read = .ok (rows.map shown) ↔ ∀ row ∈ rows, read row = .ok (shown row) := by
  induction rows with
  | nil => simp [pure, Except.pure]
  | cons row rest ih =>
      rw [List.mapM_cons, List.forall_mem_cons, ← ih]
      cases first : read row with
      | error fault => simp [bind, Except.bind]
      | ok report =>
          cases others : rest.mapM read with
          | error fault => simp [bind, Except.bind]
          | ok reports => simp [bind, Except.bind, pure, Except.pure]

theorem mapM_rows {Row Report Fault : Type} {read : Row → Except Fault Report} {rows : List Row}
    {reports : List Report} (ran : rows.mapM read = .ok reports) :
    ∀ row ∈ rows, ∃ report, read row = .ok report := by
  induction rows generalizing reports with
  | nil => simp
  | cons row rest ih =>
      rw [List.mapM_cons] at ran
      cases first : read row with
      | error fault => simp [first, bind, Except.bind] at ran
      | ok report =>
          cases others : rest.mapM read with
          | error fault => simp [first, others, bind, Except.bind] at ran
          | ok later => exact List.forall_mem_cons.mpr ⟨⟨report, first⟩, ih others⟩

end AiPlatform.Columns
