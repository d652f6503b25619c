import AiPlatform.Program
import AiPlatform.Rows
import Mathlib.Data.List.Basic

/-!
A unit of work over keyed rows. A session tracks the rows it inserted and the
rows it loaded, each with the assignments made since. A loaded row is written
back column by column: the assignments are replayed on the row as it is stored
at the time of the write, so a column that was not assigned keeps whatever
another transaction committed in the meantime. Row locks and unique keys are
held until the transaction ends.
-/

namespace AiPlatform

theorem find_distinct {Item : Type} (key : Item → Nat) {items : List Item}
    (distinct : (items.map key).Nodup) {item : Item} (member : item ∈ items) :
    items.find? (fun other => key other = key item) = some item := by
  cases found : items.find? fun other => key other = key item with
  | none =>
      have miss := List.find?_eq_none.mp found item member
      simp at miss
  | some other =>
      have same : key other = key item := by simpa using List.find?_some found
      rw [List.inj_on_of_nodup_map distinct (List.mem_of_find?_eq_some found) member same]

structure Table where
  Row : Type
  Assignment : Type
  key : Row → Nat
  apply : Assignment → Row → Row
  key_apply : ∀ assignment row, key (apply assignment row) = key row

structure Tracked (T : Table) where
  original : T.Row
  assigned : List T.Assignment
  inserted : Bool

namespace Tracked

variable {T : Table}

def replay (assigned : List T.Assignment) (row : T.Row) : T.Row :=
  assigned.foldl (fun row assignment => T.apply assignment row) row

def row (tracked : Tracked T) : T.Row := replay tracked.assigned tracked.original

def key (tracked : Tracked T) : Nat := T.key tracked.original

def load (row : T.Row) : Tracked T := ⟨row, [], false⟩

def insert (row : T.Row) : Tracked T := ⟨row, [], true⟩

def assign (tracked : Tracked T) (assignment : T.Assignment) : Tracked T :=
  { tracked with assigned := tracked.assigned ++ [assignment] }

def dirty (tracked : Tracked T) : Bool := !tracked.inserted && !tracked.assigned.isEmpty

def update (session : List (Tracked T)) (row : T.Row) : T.Row :=
  match session.find? fun tracked => !tracked.inserted && tracked.key == T.key row with
  | some tracked => replay tracked.assigned row
  | none => row

def store (session : List (Tracked T)) (rows : List T.Row) : List T.Row :=
  rows.map (update session) ++ (session.filter (·.inserted)).map (·.row)

@[simp] theorem load_original (row : T.Row) : (load row : Tracked T).original = row := rfl

@[simp] theorem load_assigned (row : T.Row) : (load row : Tracked T).assigned = [] := rfl

@[simp] theorem load_inserted (row : T.Row) : (load row : Tracked T).inserted = false := rfl

@[simp] theorem load_row (row : T.Row) : (load row : Tracked T).row = row := rfl

@[simp] theorem insert_original (row : T.Row) : (insert row : Tracked T).original = row := rfl

@[simp] theorem insert_assigned (row : T.Row) : (insert row : Tracked T).assigned = [] := rfl

@[simp] theorem insert_inserted (row : T.Row) : (insert row : Tracked T).inserted = true := rfl

@[simp] theorem insert_row (row : T.Row) : (insert row : Tracked T).row = row := rfl

@[simp] theorem assign_original (tracked : Tracked T) (assignment : T.Assignment) :
    (tracked.assign assignment).original = tracked.original := rfl

@[simp] theorem assign_assigned (tracked : Tracked T) (assignment : T.Assignment) :
    (tracked.assign assignment).assigned = tracked.assigned ++ [assignment] := rfl

@[simp] theorem assign_inserted (tracked : Tracked T) (assignment : T.Assignment) :
    (tracked.assign assignment).inserted = tracked.inserted := rfl

@[simp] theorem assign_key (tracked : Tracked T) (assignment : T.Assignment) :
    (tracked.assign assignment).key = tracked.key := rfl

@[simp] theorem load_key (row : T.Row) : (load row : Tracked T).key = T.key row := rfl

@[simp] theorem insert_key (row : T.Row) : (insert row : Tracked T).key = T.key row := rfl

theorem replay_append (first second : List T.Assignment) (row : T.Row) :
    replay (first ++ second) row = replay second (replay first row) := by
  simp [replay, List.foldl_append]

@[simp] theorem replay_nil (row : T.Row) : replay [] row = row := rfl

@[simp] theorem assign_row (tracked : Tracked T) (assignment : T.Assignment) :
    (tracked.assign assignment).row = T.apply assignment tracked.row := by
  simp [Tracked.row, replay]

theorem replay_keeps (holds : T.Row → Prop) (assigned : List T.Assignment) (row : T.Row)
    (first : holds row)
    (kept : ∀ assignment ∈ assigned, ∀ row, holds row → holds (T.apply assignment row)) :
    holds (replay assigned row) := by
  induction assigned generalizing row with
  | nil => exact first
  | cons assignment rest ih =>
      exact ih (T.apply assignment row) (kept assignment (by simp) row first)
        (fun other member => kept other (List.mem_cons_of_mem _ member))

@[simp] theorem key_replay (assigned : List T.Assignment) (row : T.Row) :
    T.key (replay assigned row) = T.key row := by
  refine replay_keeps (fun other => T.key other = T.key row) assigned row rfl ?_
  intro assignment _ other same
  rw [T.key_apply, same]

@[simp] theorem key_row (tracked : Tracked T) : T.key tracked.row = tracked.key :=
  key_replay _ _

theorem update_cases (session : List (Tracked T)) (row : T.Row) :
    (update session row = row ∧
      ∀ tracked ∈ session, tracked.inserted = false → tracked.key ≠ T.key row) ∨
      ∃ tracked ∈ session, tracked.inserted = false ∧ tracked.key = T.key row ∧
        update session row = replay tracked.assigned row := by
  unfold update
  split
  · rename_i tracked found
    have hit := List.find?_some found
    simp only [Bool.and_eq_true, Bool.not_eq_true', beq_iff_eq] at hit
    exact .inr ⟨tracked, List.mem_of_find?_eq_some found, hit.1, hit.2, rfl⟩
  · rename_i missing
    refine .inl ⟨rfl, fun tracked member loaded keyed => ?_⟩
    have miss := List.find?_eq_none.mp missing tracked member
    simp [loaded, keyed] at miss

@[simp] theorem key_update (session : List (Tracked T)) (row : T.Row) :
    T.key (update session row) = T.key row := by
  rcases update_cases session row with ⟨same, _⟩ | ⟨tracked, _, _, _, same⟩
  · rw [same]
  · rw [same, key_replay]

theorem update_keeps (holds : T.Row → Prop) {session : List (Tracked T)} {row : T.Row}
    (first : holds row)
    (kept : ∀ tracked ∈ session, tracked.inserted = false → tracked.key = T.key row →
      ∀ assignment ∈ tracked.assigned, ∀ row, holds row → holds (T.apply assignment row)) :
    holds (update session row) := by
  rcases update_cases session row with ⟨same, _⟩ | ⟨tracked, member, loaded, keyed, same⟩
  · rwa [same]
  · rw [same]
    exact replay_keeps holds _ _ first (kept tracked member loaded keyed)

theorem update_clean {session : List (Tracked T)} {row : T.Row}
    (clean : ∀ tracked ∈ session, tracked.inserted = false → tracked.key = T.key row →
      tracked.assigned = []) : update session row = row := by
  rcases update_cases session row with ⟨same, _⟩ | ⟨tracked, member, loaded, keyed, same⟩
  · exact same
  · rw [same, clean tracked member loaded keyed, replay_nil]

theorem mem_store {session : List (Tracked T)} {rows : List T.Row} {row : T.Row} :
    row ∈ store session rows ↔
      (∃ old ∈ rows, update session old = row) ∨
        ∃ tracked ∈ session, tracked.inserted = true ∧ tracked.row = row := by
  simp [store, and_assoc]

theorem store_clean {session : List (Tracked T)} (rows : List T.Row)
    (clean : ∀ tracked ∈ session, tracked.inserted = false ∧ tracked.assigned = []) :
    store session rows = rows := by
  have none : session.filter (·.inserted) = [] := by
    refine List.filter_eq_nil_iff.mpr fun tracked member inserted => ?_
    rw [(clean tracked member).1] at inserted
    cases inserted
  have same : update session = id :=
    funext fun row => update_clean fun tracked member _ _ => (clean tracked member).2
  simp [store, none, same]

theorem update_stored {session : List (Tracked T)} {rows : List T.Row} {row : T.Row}
    (member : row ∈ rows) : update session row ∈ store session rows :=
  mem_store.mpr (.inl ⟨row, member, rfl⟩)

theorem inserted_stored {session : List (Tracked T)} {tracked : Tracked T} (rows : List T.Row)
    (member : tracked ∈ session) (inserted : tracked.inserted = true) :
    tracked.row ∈ store session rows :=
  mem_store.mpr (.inr ⟨tracked, member, inserted, rfl⟩)

theorem keys_store (session : List (Tracked T)) (rows : List T.Row) :
    (store session rows).map T.key =
      rows.map T.key ++ (session.filter (·.inserted)).map (·.key) := by
  simp [store, Function.comp_def]

theorem store_nodup {session : List (Tracked T)} {rows : List T.Row}
    (stored : (rows.map T.key).Nodup) (tracked : (session.map (·.key)).Nodup)
    (fresh : ∀ tracked ∈ session, tracked.inserted = true →
      ∀ row ∈ rows, T.key row ≠ tracked.key) : ((store session rows).map T.key).Nodup := by
  rw [keys_store]
  refine List.Nodup.append stored (tracked.sublist (List.filter_sublist.map _)) ?_
  intro key old new
  obtain ⟨row, member, rfl⟩ := List.mem_map.mp old
  obtain ⟨other, listed, same⟩ := List.mem_map.mp new
  obtain ⟨inSession, inserted⟩ := List.mem_filter.mp listed
  exact fresh other inSession inserted row member same.symm

theorem assign_keys (session : List (Tracked T)) (key : Nat) (assignment : T.Assignment) :
    (session.map fun tracked =>
      if tracked.key = key then tracked.assign assignment else tracked).map (·.key) =
      session.map (·.key) := by
  rw [List.map_map]
  refine List.map_congr_left fun tracked _ => ?_
  by_cases keyed : tracked.key = key <;> simp [keyed]

theorem update_eq {session : List (Tracked T)} (distinct : (session.map (·.key)).Nodup)
    {tracked : Tracked T} (member : tracked ∈ session) (loaded : tracked.inserted = false)
    {row : T.Row} (keyed : tracked.key = T.key row) :
    update session row = replay tracked.assigned row := by
  rcases update_cases session row with ⟨_, none⟩ | ⟨other, listed, _, same, written⟩
  · exact absurd keyed (none tracked member loaded)
  · rw [written, List.inj_on_of_nodup_map distinct listed member (same.trans keyed.symm)]

end Tracked

section Locks

variable {Key : Type}

abbrev Locks (Key : Type) := Key → Option Nat

namespace Locks

def free (locks : Locks Key) (i : Nat) (key : Key) : Bool :=
  locks key = none || locks key = some i

def acquire [DecidableEq Key] (locks : Locks Key) (i : Nat) (keys : List Key) : Locks Key :=
  fun key => if key ∈ keys then some i else locks key

def release (locks : Locks Key) (i : Nat) : Locks Key :=
  fun key => if locks key = some i then none else locks key

def Held (locks : Locks Key) (i : Nat) (keys : List Key) : Prop :=
  ∀ key ∈ keys, locks key = some i

theorem held_acquire [DecidableEq Key] {locks : Locks Key} {i : Nat} {held : List Key} (keys : List Key)
    (own : Held locks i held) : Held (locks.acquire i keys) i (held ++ keys) := by
  intro key member
  by_cases taken : key ∈ keys
  · simp [acquire, taken]
  · rcases List.mem_append.mp member with before | now
    · simpa [acquire, taken] using own key before
    · exact absurd now taken

theorem held_acquire_other [DecidableEq Key] {locks : Locks Key} {i j : Nat} {held keys : List Key}
    (different : j ≠ i) (own : Held locks j held)
    (free : ∀ key ∈ keys, locks.free i key = true) : Held (locks.acquire i keys) j held := by
  intro key member
  have mine := own key member
  by_cases taken : key ∈ keys
  · have open' := free key taken
    simp [Locks.free, mine, different] at open'
  · simpa [acquire, taken] using mine

theorem held_release_other {locks : Locks Key} {i j : Nat} {held : List Key}
    (different : j ≠ i) (own : Held locks j held) : Held (locks.release i) j held := by
  intro key member
  have mine := own key member
  simp [release, mine, different]

theorem held_exclusive {locks : Locks Key} {i j : Nat} {left right : List Key} {key : Key}
    (first : Held locks i left) (second : Held locks j right) (inLeft : key ∈ left)
    (inRight : key ∈ right) : i = j :=
  Option.some.inj ((first key inLeft).symm.trans (second key inRight))

end Locks

end Locks

end AiPlatform
