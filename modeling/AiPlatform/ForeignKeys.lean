import AiPlatform.Errors

/-!
Foreign keys of a relational database. Deleting rows of one table does to the
rows that refer to them what the key says: they go as well, they lose the
reference, or they refuse the deletion. Whatever it says, a reference that held
before holds after.
-/

namespace AiPlatform

/-- `ON DELETE`. A column that may be `NULL` comes with the row it is `NULL` in. -/
inductive OnDelete (Row : Type)
  | cascade
  | restrict
  | setNull (clear : Row → Row)

structure ForeignKey (Row Key : Type) where
  table : String
  column : Row → Option Key
  onDelete : OnDelete Row
  cleared : ∀ clear, onDelete = .setNull clear → ∀ row, column (clear row) = none

namespace ForeignKey

variable {Row Key : Type} [DecidableEq Key] {foreign : ForeignKey Row Key}
  {gone keys : List Key} {rows after : List Row}

def refers (foreign : ForeignKey Row Key) (gone : List Key) (row : Row) : Bool :=
  (foreign.column row).any fun key => key ∈ gone

@[simp] theorem refers_eq_true {row : Row} :
    foreign.refers gone row = true ↔ ∃ key, foreign.column row = some key ∧ key ∈ gone := by
  simp [refers, Option.any_eq_true]

/-- What deleting the rows with the keys `gone` does to the referring table. -/
def delete (foreign : ForeignKey Row Key) (gone : List Key) (rows : List Row) :
    Except Refusal (List Row) :=
  match foreign.onDelete with
  | .cascade => .ok (rows.filter fun row => !foreign.refers gone row)
  | .restrict =>
      if rows.any (foreign.refers gone) then .error (.constraint foreign.table) else .ok rows
  | .setNull clear =>
      .ok (rows.map fun row => if foreign.refers gone row then clear row else row)

def Holds (foreign : ForeignKey Row Key) (keys : List Key) (rows : List Row) : Prop :=
  ∀ row ∈ rows, ∀ key, foreign.column row = some key → key ∈ keys

omit [DecidableEq Key] in

omit [DecidableEq Key] in
theorem Holds.more_keys {more : List Key} (holds : foreign.Holds keys rows)
    (kept : ∀ key ∈ keys, key ∈ more) : foreign.Holds more rows :=
  fun row member key column => kept key (holds row member key column)

theorem cascades (action : foreign.onDelete = .cascade) :
    foreign.delete gone rows = .ok (rows.filter fun row => !foreign.refers gone row) := by
  simp [delete, action]

theorem clears {clear : Row → Row} (action : foreign.onDelete = .setNull clear) :
    foreign.delete gone rows =
      .ok (rows.map fun row => if foreign.refers gone row then clear row else row) := by
  simp [delete, action]

theorem restricts (action : foreign.onDelete = .restrict) :
    foreign.delete gone rows = .ok after ↔
      after = rows ∧ ∀ row ∈ rows, foreign.refers gone row = false := by
  simp only [delete, action]
  split
  · next referred =>
      obtain ⟨row, member, refers⟩ := List.any_eq_true.mp referred
      refine ⟨nofun, fun ⟨_, unreferring⟩ => ?_⟩
      rw [unreferring row member] at refers
      cases refers
  · next unreferred =>
      have unreferring : ∀ row ∈ rows, foreign.refers gone row = false := by
        simpa only [List.any_eq_true, not_exists, not_and, Bool.not_eq_true] using unreferred
      exact ⟨fun same => ⟨by cases same; rfl, unreferring⟩, fun ⟨same, _⟩ => by rw [same]⟩

theorem refuses (action : foreign.onDelete = .restrict) {row : Row} (member : row ∈ rows)
    (refers : foreign.refers gone row = true) :
    foreign.delete gone rows = .error (.constraint foreign.table) := by
  have referred : rows.any (foreign.refers gone) = true :=
    List.any_eq_true.mpr ⟨row, member, refers⟩
  simp [delete, action, referred]

theorem delete_error {refusal : Refusal} (failed : foreign.delete gone rows = .error refusal) :
    refusal = .constraint foreign.table := by
  cases action : foreign.onDelete with
  | cascade => cases (cascades action).symm.trans failed
  | restrict =>
      simp only [delete, action] at failed
      split at failed
      · exact (Except.error.inj failed).symm
      · cases failed
  | setNull clear => cases (clears action).symm.trans failed

theorem Holds.delete (holds : foreign.Holds keys rows)
    (deleted : foreign.delete gone rows = .ok after) :
    foreign.Holds (keys.filter fun key => key ∉ gone) after := by
  have kept : ∀ row ∈ rows, foreign.refers gone row = false → ∀ key,
      foreign.column row = some key → key ∈ keys.filter fun key => key ∉ gone := by
    intro row member unreferring key column
    refine List.mem_filter.mpr ⟨holds row member key column, ?_⟩
    by_cases there : key ∈ gone
    · rw [refers_eq_true.mpr ⟨key, column, there⟩] at unreferring
      cases unreferring
    · simpa using there
  cases action : foreign.onDelete with
  | cascade =>
      cases (cascades action).symm.trans deleted
      intro row member
      obtain ⟨member, unreferring⟩ := List.mem_filter.mp member
      exact kept row member (by simpa only [Bool.not_eq_true'] using unreferring)
  | restrict =>
      obtain ⟨rfl, unreferring⟩ := (restricts action).mp deleted
      exact fun row member => kept row member (unreferring row member)
  | setNull clear =>
      cases (clears action).symm.trans deleted
      intro row mapped key column
      obtain ⟨old, member, rfl⟩ := List.mem_map.mp mapped
      split at column
      · rw [foreign.cleared clear action old] at column
        cases column
      · next unreferring =>
          exact kept old member (Bool.not_eq_true _ |>.mp unreferring) key (by simpa using column)

end ForeignKey

end AiPlatform
