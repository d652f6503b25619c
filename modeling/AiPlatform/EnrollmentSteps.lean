import AiPlatform.NodeEnrollment

/-!
What a statement and a commit make of the rows of enrolments, said once, and the
discipline of the requests: which statements a request uses at which point, and
which writes it ends with.
-/

namespace AiPlatform.Enrollments

def Write.sets : Write → Option EnrollmentStatus
  | .claim _ _ => some .consumed
  | .expire _ => some .expired
  | .revoke loaded _ => if loaded.status = .revoked then none else some .revoked
  | .describe _ _ _ | .link _ _ | .issue _ | .purge _ | .accept _ _ _ => none

section Rows

variable (write : Write) (row : NodeEnrollment)

@[simp] theorem onRow_id : (write.onRow row).id = row.id := by cases write <;> rfl

@[simp] theorem onRow_tokenHash : (write.onRow row).tokenHash = row.tokenHash := by
  cases write <;> rfl

@[simp] theorem onRow_attempts : (write.onRow row).attempts = row.attempts := by
  cases write <;> rfl

theorem onRow_status : (write.onRow row).status = write.sets.getD row.status := by
  cases write with
  | revoke loaded actor =>
      by_cases revoked : loaded.status = .revoked
      · simp [Write.onRow, Write.sets, column, revoked]
      · simp [Write.onRow, Write.sets, column, revoked, Ne.symm revoked]
  | claim | expire | describe | link | issue | purge | accept => rfl

end Rows

structure Becomes (writes : List Write) (old new : NodeEnrollment) : Prop where
  id : new.id = old.id
  tokenHash : new.tokenHash = old.tokenHash
  attempts : new.attempts = old.attempts
  status : new.status = old.status ∨
    ∃ write ∈ writes, write.target = some old.id ∧ write.sets = some new.status

theorem Becomes.refl (writes : List Write) (row : NodeEnrollment) : Becomes writes row row :=
  ⟨rfl, rfl, rfl, .inl rfl⟩

theorem Becomes.weaken {first writes : List Write} {old new : NodeEnrollment}
    (becomes : Becomes first old new) (listed : ∀ write ∈ first, write ∈ writes) :
    Becomes writes old new where
  id := becomes.id
  tokenHash := becomes.tokenHash
  attempts := becomes.attempts
  status := by
    rcases becomes.status with same | ⟨write, member, target, sets⟩
    · exact .inl same
    · exact .inr ⟨write, listed write member, target, sets⟩

theorem Becomes.trans {writes : List Write} {old middle new : NodeEnrollment}
    (first : Becomes writes old middle) (second : Becomes writes middle new) :
    Becomes writes old new where
  id := second.id.trans first.id
  tokenHash := second.tokenHash.trans first.tokenHash
  attempts := second.attempts.trans first.attempts
  status := by
    rcases second.status with same | ⟨write, member, target, sets⟩
    · rw [same]
      exact first.status
    · rw [first.id] at target
      exact .inr ⟨write, member, target, sets⟩

theorem becomes_onRow {write : Write} {row : NodeEnrollment} (target : write.target = some row.id) :
    Becomes [write] row (write.onRow row) where
  id := onRow_id write row
  tokenHash := onRow_tokenHash write row
  attempts := onRow_attempts write row
  status := by
    rw [onRow_status]
    cases sets : write.sets with
    | none => exact .inl rfl
    | some status => exact .inr ⟨write, by simp, target, sets⟩

theorem mem_rewritten {write : Write} {rows : List NodeEnrollment} {row : NodeEnrollment}
    (member : row ∈ Shared.rewritten write rows) : ∃ old ∈ rows, Becomes [write] old row := by
  unfold Shared.rewritten at member
  split at member
  · exact ⟨row, List.mem_of_mem_filter member, .refl _ row⟩
  · split at member
    · rename_i id target
      rcases Rows.mem_amend.mp member with ⟨old, listed, keyed, rfl⟩ | ⟨listed, _⟩
      · exact ⟨old, listed, becomes_onRow (keyed ▸ target)⟩
      · exact ⟨row, listed, .refl _ row⟩
    · exact ⟨row, member, .refl _ row⟩

theorem map_rewritten {Value : Type} (field : NodeEnrollment → Value)
    (kept : ∀ (write : Write) row, field (write.onRow row) = field row) (write : Write)
    (rows : List NodeEnrollment) :
    ((Shared.rewritten write rows).map field).Sublist (rows.map field) := by
  unfold Shared.rewritten
  split
  · exact List.filter_sublist.map field
  · split
    · rename_i id target
      have same : (Rows.amend NodeEnrollment.id id write.onRow rows).map field = rows.map field := by
        rw [Rows.amend, List.map_map]
        apply List.map_congr_left
        intro row _
        by_cases keyed : row.id = id <;> simp [keyed, kept]
      rw [same]
    · exact .refl _

theorem rewritten_other {write : Write} {rows : List NodeEnrollment} {row : NodeEnrollment}
    (listed : row ∈ rows) (target : write.target ≠ some row.id) (taken : write.taken ≠ some row.id) :
    row ∈ Shared.rewritten write rows := by
  unfold Shared.rewritten
  split
  · rename_i id
    refine List.mem_filter.mpr ⟨listed, ?_⟩
    simp only [Write.taken, ne_eq, Option.some.injEq] at taken
    simpa using Ne.symm taken
  · split
    · rename_i id found
      refine Rows.mem_amend.mpr (.inr ⟨listed, fun keyed => target ?_⟩)
      rw [found, keyed]
    · exact listed

theorem mem_seen {shared : Shared} {session : Session} {row : NodeEnrollment}
    (member : row ∈ shared.seen session) :
    ∃ old ∈ shared.enrollments, Becomes session.writes old row := by
  unfold Shared.seen at member
  generalize session.writes = writes at member
  generalize shared.enrollments = rows at member
  induction writes generalizing rows with
  | nil => exact ⟨row, member, .refl _ row⟩
  | cons write rest ih =>
      obtain ⟨middle, listed, second⟩ := ih _ member
      obtain ⟨old, stored, first⟩ := mem_rewritten listed
      refine ⟨old, stored, (first.weaken ?_).trans (second.weaken ?_)⟩
      · simp
      · exact fun other listed => List.mem_cons_of_mem write listed

theorem Becomes.pending {writes : List Write} {old new : NodeEnrollment}
    (becomes : Becomes writes old new) (pending : new.status = .pending) :
    old.status = .pending := by
  rcases becomes.status with same | ⟨write, _, _, sets⟩
  · rw [← same, pending]
  · rw [pending] at sets
    cases write with
    | revoke loaded actor =>
        simp only [Write.sets] at sets
        split at sets <;> cases sets
    | claim | expire | describe | link | issue | purge | accept => cases sets

def Issues (shared : Shared) (writes : List Write) (new : NodeEnrollment) : Prop :=
  ∃ draft id, .issue draft ∈ writes ∧ shared.nextId ≤ id ∧ draft.tokenHash ∉ shared.issued ∧
    Becomes writes { draft with id := id } new

namespace Shared

variable {shared after : Shared} {i : Nat} {writes : List Write}

@[simp] theorem written_locks (write : Write) :
    (shared.written i write).locks = shared.locks := by
  cases write <;> rfl

@[simp] theorem written_failed (write : Write) :
    (shared.written i write).failed = shared.failed := by
  cases write <;> rfl

@[simp] theorem written_probes (write : Write) :
    (shared.written i write).probes = shared.probes := by
  cases write <;> rfl

theorem written_nextId (write : Write) : shared.nextId ≤ (shared.written i write).nextId := by
  cases write with
  | issue draft => exact Nat.le_succ _
  | claim | expire | purge | revoke | describe | accept | link => exact Nat.le_refl _

theorem written_issued (write : Write) :
    ∀ hash ∈ shared.issued, hash ∈ (shared.written i write).issued := by
  cases write with
  | issue draft => exact fun hash member => List.mem_append_left _ member
  | claim | expire | purge | revoke | describe | accept | link => exact fun _ member => member

theorem mem_written {write : Write} {row : NodeEnrollment}
    (permitted : shared.permits i write = true)
    (member : row ∈ (shared.written i write).enrollments) :
    (∃ old ∈ shared.enrollments, Becomes [write] old row) ∨ Issues shared [write] row := by
  cases write with
  | issue draft =>
      rcases List.mem_append.mp member with old | new
      · exact .inl ⟨row, old, .refl _ row⟩
      · rw [List.mem_singleton.mp new]
        refine .inr ⟨draft, shared.nextId, by simp, Nat.le_refl _, ?_, .refl _ _⟩
        simp only [permits, Bool.and_eq_true] at permitted
        simpa using permitted.1.1
  | accept => exact .inl ⟨row, member, .refl _ row⟩
  | claim | expire | purge | revoke | describe | link => exact .inl (mem_rewritten member)

theorem writeAll_rows (wrote : shared.writeAll i writes = some after) :
    ∀ row ∈ after.enrollments,
      (∃ old ∈ shared.enrollments, Becomes writes old row) ∨ Issues shared writes row := by
  induction writes generalizing shared with
  | nil =>
      cases wrote
      exact fun row member => .inl ⟨row, member, .refl _ row⟩
  | cons write rest ih =>
      intro row member
      simp only [writeAll] at wrote
      split at wrote
      · rename_i permitted
        have later : ∀ other ∈ rest, other ∈ write :: rest :=
          fun other => List.mem_cons_of_mem write
        have first : ∀ other ∈ [write], other ∈ write :: rest := by simp
        rcases ih wrote row member with ⟨middle, listed, second⟩ | ⟨draft, id, issues, low, new, second⟩
        · rcases mem_written permitted listed with ⟨old, stored, becomes⟩ |
            ⟨draft, id, issues, low, new, becomes⟩
          · exact .inl ⟨old, stored, (becomes.weaken first).trans (second.weaken later)⟩
          · exact .inr ⟨draft, id, first _ issues, low, new,
              (becomes.weaken first).trans (second.weaken later)⟩
        · exact .inr ⟨draft, id, later _ issues, (written_nextId write).trans low,
            fun before => new (written_issued write _ before), second.weaken later⟩
      · cases wrote

theorem writeAll_keeps (holds : Shared → Prop) (first : holds shared)
    (kept : ∀ store, ∀ write ∈ writes, holds store → store.permits i write = true →
      holds (store.written i write))
    (wrote : shared.writeAll i writes = some after) : holds after := by
  induction writes generalizing shared with
  | nil =>
      cases wrote
      exact first
  | cons write rest ih =>
      simp only [writeAll] at wrote
      split at wrote
      · rename_i permitted
        refine ih (kept shared write (by simp) first permitted) ?_ wrote
        exact fun store other member => kept store other (List.mem_cons_of_mem write member)
      · cases wrote

end Shared

end AiPlatform.Enrollments
