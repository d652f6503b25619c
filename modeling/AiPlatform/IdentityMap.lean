import AiPlatform.UnitOfWork
import Mathlib.Data.List.Perm.Basic

/-!
The identity map of a session: the instances of the rows it loaded or inserted.
A row that a later query finds again is the instance that is there already, and
a column that is set to the value it has is not written back. `Tracks` says once
what an operation may do to the map, with the keys below `low` drawn before the
operation and those below `high` drawn after it.
-/

namespace AiPlatform

variable {T : Table}

/-- The instances after a query that found `rows`. -/
def loading (session : List (Tracked T)) (rows : List T.Row) : List (Tracked T) :=
  session ++ (rows.filter fun row => session.all fun tracked => tracked.key ≠ T.key row).map
    Tracked.load

def instanceOf (session : List (Tracked T)) (row : T.Row) : T.Row :=
  match session.find? fun tracked => tracked.key = T.key row with
  | some tracked => tracked.row
  | none => row

def assigning [DecidableEq T.Row] (session : List (Tracked T)) (key : Nat)
    (assignment : T.Assignment) : List (Tracked T) :=
  session.map fun tracked =>
    if tracked.key = key ∧ T.apply assignment tracked.row ≠ tracked.row then
      tracked.assign assignment
    else tracked

def inserted (session : List (Tracked T)) : List T.Row :=
  (session.filter (·.inserted)).map (·.row)

def present (session : List (Tracked T)) (rows : List T.Row) : Bool :=
  session.all fun tracked => !tracked.dirty || rows.any fun row => T.key row = tracked.key

theorem mem_inserted {session : List (Tracked T)} {row : T.Row} :
    row ∈ inserted session ↔ ∃ tracked ∈ session, tracked.inserted = true ∧ tracked.row = row := by
  simp [inserted, and_assoc]

@[simp] theorem key_instanceOf (session : List (Tracked T)) (row : T.Row) :
    T.key (instanceOf session row) = T.key row := by
  unfold instanceOf
  split
  · rename_i tracked found
    rw [Tracked.key_row]
    simpa using List.find?_some found
  · rfl

theorem instanceOf_new {session : List (Tracked T)} {row : T.Row}
    (new : ∀ tracked ∈ session, tracked.key ≠ T.key row) : instanceOf session row = row := by
  unfold instanceOf
  split
  · rename_i tracked found
    exact absurd (by simpa using List.find?_some found) (new tracked (List.mem_of_find?_eq_some found))
  · rfl

theorem instanceOf_member {session : List (Tracked T)} (distinct : (session.map (·.key)).Nodup)
    {tracked : Tracked T} (member : tracked ∈ session) {row : T.Row}
    (keyed : tracked.key = T.key row) : instanceOf session row = tracked.row := by
  have found := find_distinct Tracked.key distinct member
  rw [keyed] at found
  simp only [instanceOf, found]

theorem instanceOf_concat {session : List (Tracked T)} {tracked : Tracked T} {row : T.Row}
    (other : tracked.key = T.key row → (∃ old ∈ session, old.key = T.key row) ∨
      tracked.row = row) :
    instanceOf (session ++ [tracked]) row = instanceOf session row := by
  unfold instanceOf
  rw [List.find?_append]
  cases found : session.find? fun tracked => tracked.key = T.key row with
  | some old => rfl
  | none =>
      have missing := List.find?_eq_none.mp found
      simp only [Option.none_or, List.find?_singleton]
      by_cases keyed : tracked.key = T.key row
      · rcases other keyed with ⟨old, member, same⟩ | same
        · exact absurd same (by simpa using missing old member)
        · simp [keyed, same]
      · simp [keyed]

theorem mem_loading {session : List (Tracked T)} {rows : List T.Row} {tracked : Tracked T} :
    tracked ∈ loading session rows ↔ tracked ∈ session ∨
      ∃ row ∈ rows, tracked = .load row ∧ ∀ other ∈ session, other.key ≠ T.key row := by
  simp only [loading, List.mem_append, List.mem_map, List.mem_filter, List.all_eq_true,
    decide_eq_true_eq]
  constructor
  · rintro (old | ⟨row, ⟨listed, new⟩, rfl⟩)
    · exact .inl old
    · exact .inr ⟨row, listed, rfl, new⟩
  · rintro (old | ⟨row, listed, rfl, new⟩)
    · exact .inl old
    · exact .inr ⟨row, ⟨listed, new⟩, rfl⟩

@[simp] theorem inserted_loading (session : List (Tracked T)) (rows : List T.Row) :
    inserted (loading session rows) = inserted session := by
  simp [inserted, loading, List.filter_append, List.filter_map, Function.comp_def]

theorem nodup_of_loading {session : List (Tracked T)} {rows : List T.Row}
    (distinct : ((loading session rows).map (·.key)).Nodup) : (session.map (·.key)).Nodup := by
  rw [loading, List.map_append] at distinct
  exact distinct.of_append_left

theorem instance_loading {session : List (Tracked T)} {rows : List T.Row} {row : T.Row}
    (member : row ∈ rows.map (instanceOf session)) :
    ∃ tracked ∈ loading session (rows.map (instanceOf session)), tracked.row = row := by
  obtain ⟨base, listed, rfl⟩ := List.mem_map.mp member
  cases found : session.find? fun tracked => tracked.key = T.key base with
  | some tracked =>
      refine ⟨tracked, mem_loading.mpr (.inl (List.mem_of_find?_eq_some found)), ?_⟩
      simp [instanceOf, found]
  | none =>
      have same : instanceOf session base = base := by simp [instanceOf, found]
      refine ⟨.load base, mem_loading.mpr (.inr ⟨_, member, by rw [same], ?_⟩), by simp [same]⟩
      intro other own keyed
      rw [key_instanceOf] at keyed
      simpa [keyed] using List.find?_eq_none.mp found other own

@[simp] theorem inserted_append (session : List (Tracked T)) (rows : List T.Row) :
    inserted (session ++ rows.map .insert) = inserted session ++ rows := by
  simp [inserted, List.filter_append, List.filter_map, Function.comp_def]

section Assigning

variable [DecidableEq T.Row]

theorem inserted_assigning {Value : Type} (column : T.Row → Value)
    (kept : ∀ assignment row, column (T.apply assignment row) = column row)
    (session : List (Tracked T)) (key : Nat) (assignment : T.Assignment) :
    (inserted (assigning session key assignment)).map column =
      (inserted session).map column := by
  induction session with
  | nil => rfl
  | cons tracked rest ih =>
      have same : column (if tracked.key = key ∧ T.apply assignment tracked.row ≠ tracked.row then
          tracked.assign assignment else tracked).row = column tracked.row := by
        split
        · rw [Tracked.assign_row, kept]
        · rfl
      have kind : (if tracked.key = key ∧ T.apply assignment tracked.row ≠ tracked.row then
          tracked.assign assignment else tracked).inserted = tracked.inserted := by
        split
        · rfl
        · rfl
      simp only [inserted, assigning, List.map_cons, List.filter_cons, kind]
      split
      · simp only [List.map_cons, same]
        exact congrArg _ ih
      · exact ih

theorem mem_assigning {session : List (Tracked T)} {key : Nat} {assignment : T.Assignment}
    {tracked : Tracked T} (member : tracked ∈ assigning session key assignment) :
    tracked ∈ session ∨
      ∃ old ∈ session, old.key = key ∧ tracked = old.assign assignment := by
  obtain ⟨old, listed, same⟩ := List.mem_map.mp member
  split at same
  · rename_i changed
    exact .inr ⟨old, listed, changed.1, same.symm⟩
  · exact .inl (same ▸ listed)

theorem mem_assigning_other {session : List (Tracked T)} {key : Nat} {assignment : T.Assignment}
    {tracked : Tracked T} (member : tracked ∈ session) (other : tracked.key ≠ key) :
    tracked ∈ assigning session key assignment := by
  refine List.mem_map.mpr ⟨tracked, member, ?_⟩
  rw [if_neg fun both => other both.1]

@[simp] theorem keys_assigning (session : List (Tracked T)) (key : Nat)
    (assignment : T.Assignment) :
    (assigning session key assignment).map (·.key) = session.map (·.key) := by
  rw [assigning, List.map_map]
  refine List.map_congr_left fun tracked _ => ?_
  simp only [Function.comp_apply]
  split
  · rfl
  · rfl

theorem assigned_row {session : List (Tracked T)} {key : Nat} {assignment : T.Assignment}
    {tracked : Tracked T} (member : tracked ∈ session) (keyed : tracked.key = key) :
    ∃ next ∈ assigning session key assignment, next.key = key ∧
      next.original = tracked.original ∧ next.inserted = tracked.inserted ∧
        next.row = T.apply assignment tracked.row := by
  refine ⟨_, List.mem_map_of_mem member, ?_⟩
  split
  · exact ⟨keyed, rfl, rfl, Tracked.assign_row tracked assignment⟩
  · rename_i unchanged
    simp only [keyed, true_and, ne_eq, not_not] at unchanged
    exact ⟨keyed, rfl, rfl, unchanged.symm⟩

theorem instanceOf_assigning {session : List (Tracked T)} (distinct : (session.map (·.key)).Nodup)
    (assignment : T.Assignment) {row : T.Row} (there : ∃ tracked ∈ session, tracked.key = T.key row) :
    instanceOf (assigning session (T.key row) assignment) row =
      T.apply assignment (instanceOf session row) := by
  obtain ⟨tracked, member, keyed⟩ := there
  obtain ⟨next, listed, same, _, _, value⟩ := assigned_row member keyed
  have unique : ((assigning session (T.key row) assignment).map (·.key)).Nodup := by
    rw [keys_assigning]
    exact distinct
  rw [instanceOf_member unique listed same, instanceOf_member distinct member keyed, value]

theorem instanceOf_assigning_other {session : List (Tracked T)} (key : Nat)
    (assignment : T.Assignment) {row : T.Row} (other : T.key row ≠ key) :
    instanceOf (assigning session key assignment) row = instanceOf session row := by
  unfold instanceOf assigning
  induction session with
  | nil => rfl
  | cons tracked rest ih =>
      rw [List.map_cons, List.find?_cons, List.find?_cons]
      by_cases own : tracked.key = key
      · have apart : tracked.key ≠ T.key row := fun same => other (same.symm.trans own)
        have still : (if tracked.key = key ∧ T.apply assignment tracked.row ≠ tracked.row then
            tracked.assign assignment else tracked).key = tracked.key := by
          split
          · rfl
          · rfl
        simp only [still, apart, decide_false]
        exact ih
      · simp only [own, false_and, if_false]
        by_cases hit : tracked.key = T.key row
        · simp only [hit, decide_true]
        · simp only [hit, decide_false]
          exact ih

theorem assigning_same {session : List (Tracked T)} {key : Nat} {assignment : T.Assignment}
    (same : ∀ tracked ∈ session, tracked.key = key → T.apply assignment tracked.row = tracked.row) :
    assigning session key assignment = session := by
  refine (List.map_congr_left fun tracked member => ?_).trans (List.map_id _)
  rw [if_neg fun both => both.2 (same tracked member both.1)]
  rfl

theorem inserted_unchanged {session : List (Tracked T)} {key : Nat} {assignment : T.Assignment}
    (same : ∀ tracked ∈ session, tracked.inserted = true → tracked.key = key →
      T.apply assignment tracked.row = tracked.row) :
    inserted (assigning session key assignment) = inserted session := by
  induction session with
  | nil => rfl
  | cons tracked rest ih =>
      have later := ih fun other member => same other (List.mem_cons_of_mem _ member)
      have first := same tracked List.mem_cons_self
      unfold inserted assigning at later ⊢
      rw [List.map_cons, List.filter_cons, List.filter_cons]
      cases new : tracked.inserted with
      | true =>
          have kept : ¬ (tracked.key = key ∧ T.apply assignment tracked.row ≠ tracked.row) :=
            fun both => both.2 (first new both.1)
          rw [if_neg kept, if_pos new, if_pos rfl, List.map_cons, List.map_cons, later]
      | false =>
          have kind : (if tracked.key = key ∧ T.apply assignment tracked.row ≠ tracked.row then
              tracked.assign assignment else tracked).inserted = false := by
            split
            · exact new
            · exact new
          rw [kind]
          exact later

end Assigning

inductive Tracks [DecidableEq T.Row] (stored : List T.Row) (low high : Nat)
    (before : List (Tracked T)) : List (Tracked T) → Prop
  | same : Tracks stored low high before before
  | inserts (rows : List T.Row) (distinct : (rows.map T.key).Nodup)
      (drawn : ∀ row ∈ rows, low ≤ T.key row ∧ T.key row < high) :
      Tracks stored low high before (before ++ rows.map .insert)
  | loads {middle : List (Tracked T)} (rows : List T.Row)
      (earlier : Tracks stored low high before middle) (distinct : (rows.map T.key).Nodup)
      (known : ∀ row ∈ rows, (∀ tracked ∈ middle, tracked.key ≠ T.key row) → row ∈ stored) :
      Tracks stored low high before (loading middle rows)
  | assigns {middle : List (Tracked T)} (key : Nat) (assignment : T.Assignment)
      (earlier : Tracks stored low high before middle) :
      Tracks stored low high before (assigning middle key assignment)

namespace Tracks

variable [DecidableEq T.Row] {stored : List T.Row} {low high : Nat}
  {before after : List (Tracked T)}

theorem origin (tracks : Tracks stored low high before after) :
    ∀ tracked ∈ after,
      (∃ old ∈ before, old.original = tracked.original ∧ old.inserted = tracked.inserted) ∨
        (tracked.inserted = false ∧ tracked.original ∈ stored) ∨
          (tracked.inserted = true ∧ low ≤ tracked.key ∧ tracked.key < high) := by
  induction tracks with
  | same => exact fun tracked member => .inl ⟨tracked, member, rfl, rfl⟩
  | inserts rows distinct drawn =>
      intro tracked member
      rcases List.mem_append.mp member with old | new
      · exact .inl ⟨tracked, old, rfl, rfl⟩
      · obtain ⟨row, listed, rfl⟩ := List.mem_map.mp new
        exact .inr (.inr ⟨rfl, drawn row listed⟩)
  | loads rows _ distinct known ih =>
      intro tracked member
      rcases mem_loading.mp member with old | ⟨row, listed, rfl, new⟩
      · exact ih tracked old
      · exact .inr (.inl ⟨rfl, known row listed new⟩)
  | assigns key assignment _ ih =>
      intro tracked member
      rcases mem_assigning member with old | ⟨old, listed, _, rfl⟩
      · exact ih tracked old
      · exact ih old listed

theorem distinct (tracks : Tracks stored low high before after)
    (unique : (before.map (·.key)).Nodup) (below : ∀ tracked ∈ before, tracked.key < low) :
    (after.map (·.key)).Nodup := by
  induction tracks with
  | same => exact unique
  | inserts rows distinct drawn =>
      rw [List.map_append, List.map_map]
      refine unique.append distinct fun key old new => ?_
      obtain ⟨tracked, member, rfl⟩ := List.mem_map.mp old
      obtain ⟨row, listed, same⟩ := List.mem_map.mp new
      have low := below tracked member
      have high := (drawn row listed).1
      simp only [Function.comp_apply, Tracked.insert_key] at same
      omega
  | loads rows _ distinct known ih =>
      rw [loading, List.map_append, List.map_map]
      refine ih.append (distinct.sublist (List.filter_sublist.map _)) fun key old new => ?_
      obtain ⟨tracked, member, rfl⟩ := List.mem_map.mp old
      obtain ⟨row, listed, same⟩ := List.mem_map.mp new
      have apart := (List.mem_filter.mp listed).2
      simp only [List.all_eq_true, decide_eq_true_eq] at apart
      exact apart tracked member same.symm
  | assigns key assignment _ ih =>
      rw [keys_assigning]
      exact ih

theorem finds (found : List T.Row) (distinct : (found.map T.key).Nodup)
    (known : ∀ row ∈ found, (∀ tracked ∈ before, tracked.key ≠ T.key row) → row ∈ stored) :
    Tracks stored low high before (loading before (found.map (instanceOf before))) := by
  refine .loads _ .same ?_ fun row member new => ?_
  · have keys : T.key ∘ instanceOf before = T.key := funext fun row => key_instanceOf before row
    rwa [List.map_map, keys]
  · obtain ⟨other, listed, rfl⟩ := List.mem_map.mp member
    rw [key_instanceOf] at new
    rw [instanceOf_new new]
    exact known other listed new

end Tracks

/-- A session that has only loaded `rows`. -/
def Clean (session : List (Tracked T)) (rows : List T.Row) : Prop :=
  ∀ tracked ∈ session, tracked.inserted = false ∧ tracked.assigned = [] ∧ tracked.original ∈ rows

namespace Clean

variable {session : List (Tracked T)} {rows : List T.Row}

theorem nil : Clean ([] : List (Tracked T)) rows := fun _ member => (nomatch member)

theorem instanceOf (clean : Clean session rows) (distinct : (rows.map T.key).Nodup) {row : T.Row}
    (member : row ∈ rows) : instanceOf session row = row := by
  unfold AiPlatform.instanceOf
  split
  · rename_i tracked found
    obtain ⟨_, unassigned, listed⟩ := clean tracked (List.mem_of_find?_eq_some found)
    have keyed : tracked.key = T.key row := by simpa using List.find?_some found
    rw [Tracked.row, unassigned, Tracked.replay_nil]
    exact List.inj_on_of_nodup_map distinct listed member keyed
  · rfl

theorem instances (clean : Clean session rows) (distinct : (rows.map T.key).Nodup)
    {found : List T.Row} (known : ∀ row ∈ found, row ∈ rows) :
    found.map (AiPlatform.instanceOf session) = found := by
  have same : ∀ row ∈ found, AiPlatform.instanceOf session row = id row :=
    fun row member => clean.instanceOf distinct (known row member)
  rw [List.map_congr_left same, List.map_id]

theorem inserted (clean : Clean session rows) : inserted session = [] := by
  have none : session.filter (·.inserted) = [] := by
    rw [List.filter_eq_nil_iff]
    intro tracked member added
    rw [(clean tracked member).1] at added
    cases added
  rw [AiPlatform.inserted, none]
  rfl

theorem store (clean : Clean session rows) (stored : List T.Row) :
    Tracked.store session stored = stored :=
  Tracked.store_clean stored fun tracked member =>
    ⟨(clean tracked member).1, (clean tracked member).2.1⟩

theorem loading (clean : Clean session rows) {found : List T.Row}
    (known : ∀ row ∈ found, row ∈ rows) : Clean (loading session found) rows := by
  intro tracked member
  rcases mem_loading.mp member with old | ⟨row, listed, rfl, _⟩
  · exact clean tracked old
  · exact ⟨rfl, rfl, known row listed⟩

end Clean

theorem stored_of_seen {session : List (Tracked T)} {rows : List T.Row} {row : T.Row}
    (seen : row ∈ Tracked.store session rows)
    (new : ∀ tracked ∈ session, tracked.key ≠ T.key row) : row ∈ rows := by
  rcases Tracked.mem_store.mp seen with ⟨old, listed, rfl⟩ | ⟨tracked, member, _, rfl⟩
  · rw [Tracked.key_update] at new
    rwa [Tracked.update_clean fun tracked member _ keyed => absurd keyed (new tracked member)]
  · exact absurd (Tracked.key_row tracked).symm (new tracked member)

theorem stored_of_found {session : List (Tracked T)} {rows : List T.Row} {row : T.Row}
    (seen : row ∈ rows ++ inserted session)
    (new : ∀ tracked ∈ session, tracked.key ≠ T.key row) : row ∈ rows := by
  rcases List.mem_append.mp seen with old | own
  · exact old
  · obtain ⟨tracked, member, _, rfl⟩ := mem_inserted.mp own
    exact absurd (Tracked.key_row tracked).symm (new tracked member)

theorem keys_inserted (session : List (Tracked T)) :
    (inserted session).map T.key = (session.filter (·.inserted)).map (·.key) := by
  rw [inserted, List.map_map]
  exact List.map_congr_left fun tracked _ => Tracked.key_row tracked

theorem found_distinct {session : List (Tracked T)} {rows : List T.Row}
    (stored : (rows.map T.key).Nodup) (unique : (session.map (·.key)).Nodup)
    (fresh : ∀ row ∈ inserted session, ∀ other ∈ rows, T.key other ≠ T.key row) :
    ((rows ++ inserted session).map T.key).Nodup := by
  rw [List.map_append]
  refine stored.append ?_ fun key old new => ?_
  · rw [keys_inserted]
    exact unique.sublist (List.filter_sublist.map _)
  · obtain ⟨other, member, rfl⟩ := List.mem_map.mp old
    obtain ⟨row, listed, same⟩ := List.mem_map.mp new
    exact fresh row listed other member same.symm

theorem stored_distinct {session : List (Tracked T)} {rows : List T.Row}
    (stored : (rows.map T.key).Nodup) (unique : (session.map (·.key)).Nodup)
    (fresh : ∀ row ∈ inserted session, ∀ other ∈ rows, T.key other ≠ T.key row)
    (keep : T.Row → Bool) :
    (((Tracked.store session rows).filter keep).map T.key).Nodup := by
  refine (Tracked.store_nodup stored unique fun tracked member new row listed => ?_).sublist
    (List.filter_sublist.map _)
  have own := fresh tracked.row (mem_inserted.mpr ⟨tracked, member, new, rfl⟩) row listed
  rwa [Tracked.key_row] at own

end AiPlatform
