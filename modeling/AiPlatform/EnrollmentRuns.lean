import AiPlatform.EnrollmentDiscipline

/-!
What every schedule of requests on enrolments keeps: ids and token hashes stand
for one invitation each, and a row that a statement has claimed or expired stays
pending until the commit, because its lock keeps the other writers away.
-/

namespace AiPlatform.Enrollments

def Write.settles : Write → Option Nat
  | .claim id _ | .expire id => some id
  | .purge _ | .revoke _ _ | .describe _ _ _ | .link _ _ | .issue _ | .accept _ _ _ => none

theorem settles_taken {write : Write} {id : Nat} (settles : write.settles = some id) :
    write.taken = some id := by
  cases write with
  | claim | expire => exact settles
  | purge | revoke | describe | link | issue | accept => cases settles

namespace Shared

/-- An id and a token hash stand for one invitation, ever. -/
structure Sound (shared : Shared) : Prop where
  distinct : (shared.enrollments.map NodeEnrollment.id).Nodup
  below : ∀ row ∈ shared.enrollments, row.id < shared.nextId
  hashes : (shared.enrollments.map NodeEnrollment.tokenHash).Nodup
  issued : ∀ row ∈ shared.enrollments, row.tokenHash ∈ shared.issued

variable {shared after : Shared} {i j : Nat} {session : Session}

theorem sound_rows (sound : shared.Sound) (rows : List NodeEnrollment)
    (ids : (rows.map NodeEnrollment.id).Sublist (shared.enrollments.map NodeEnrollment.id))
    (hashes : (rows.map NodeEnrollment.tokenHash).Sublist
      (shared.enrollments.map NodeEnrollment.tokenHash)) :
    { shared with enrollments := rows }.Sound where
  distinct := sound.distinct.sublist ids
  below := by
    intro row member
    obtain ⟨old, listed, same⟩ := List.mem_map.mp (ids.subset (List.mem_map_of_mem member))
    exact same ▸ sound.below old listed
  hashes := sound.hashes.sublist hashes
  issued := by
    intro row member
    obtain ⟨old, listed, same⟩ := List.mem_map.mp (hashes.subset (List.mem_map_of_mem member))
    exact same ▸ sound.issued old listed

theorem written_sound {write : Write} (sound : shared.Sound)
    (permitted : shared.permits i write = true) : (shared.written i write).Sound := by
  cases write with
  | issue draft =>
      simp only [permits, Bool.and_eq_true, decide_eq_true_eq] at permitted
      have fresh := permitted.1.1
      constructor
      · refine distinct_concat NodeEnrollment.id sound.distinct fun other listed same => ?_
        exact absurd (sound.below other listed) (by rw [same]; exact Nat.lt_irrefl _)
      · intro row member
        rcases List.mem_append.mp member with old | new
        · exact Nat.lt_succ_of_lt (sound.below row old)
        · rw [List.mem_singleton.mp new]
          exact Nat.lt_succ_self _
      · refine distinct_concat NodeEnrollment.tokenHash sound.hashes fun other listed same => ?_
        exact fresh (same ▸ sound.issued other listed)
      · intro row member
        rcases List.mem_append.mp member with old | new
        · exact List.mem_append_left _ (sound.issued row old)
        · rw [List.mem_singleton.mp new]
          exact List.mem_append_right _ (List.mem_singleton_self _)
  | accept enrollmentId existing node =>
      exact ⟨sound.distinct, sound.below, sound.hashes, sound.issued⟩
  | claim | expire | purge | revoke | describe | link =>
      exact sound_rows sound _ (map_rewritten _ onRow_id _ _) (map_rewritten _ onRow_tokenHash _ _)

theorem commit_writeAll (committed : shared.commit i session = some after) :
    ∃ wrote, shared.writeAll i session.writes = some wrote ∧
      after = { wrote with locks := wrote.locks.release i } := by
  obtain ⟨wrote, found, same⟩ := Option.map_eq_some_iff.mp committed
  exact ⟨wrote, found, same.symm⟩

theorem commit_sound (sound : shared.Sound) (committed : shared.commit i session = some after) :
    after.Sound := by
  obtain ⟨wrote, found, rfl⟩ := commit_writeAll committed
  have kept := writeAll_keeps Sound sound (fun _ _ _ => written_sound) found
  exact ⟨kept.distinct, kept.below, kept.hashes, kept.issued⟩

theorem sound_empty : Shared.empty.Sound :=
  ⟨List.nodup_nil, fun _ member => (nomatch member), List.nodup_nil,
    fun _ member => (nomatch member)⟩

theorem row_unique (sound : shared.Sound) {row other : NodeEnrollment}
    (member : row ∈ shared.enrollments) (listed : other ∈ shared.enrollments)
    (same : other.id = row.id) : other = row :=
  Rows.key_unique sound.distinct member listed same

structure Spares (j : Nat) (before after : Shared) : Prop where
  locks : ∀ id, before.locks id = some j → after.locks id = some j
  rows : ∀ row ∈ before.enrollments, before.locks row.id = some j → row ∈ after.enrollments
  issued : ∀ hash ∈ before.issued, hash ∈ after.issued
  tokens : ∀ row ∈ after.enrollments, row.tokenHash ∉ before.issued ∨
    ∃ old ∈ before.enrollments, old.id = row.id ∧ old.tokenHash = row.tokenHash

theorem Spares.same {before after : Shared} (locks : after.locks = before.locks)
    (rows : after.enrollments = before.enrollments) (issued : after.issued = before.issued) :
    Spares j before after where
  locks := by
    rw [locks]
    exact fun id held => held
  rows := by
    rw [rows]
    exact fun row member _ => member
  issued := by
    rw [issued]
    exact fun hash member => member
  tokens := by
    rw [rows]
    exact fun row member => .inr ⟨row, member, rfl, rfl⟩

theorem not_free {locks : Locks Nat} {id : Nat} (different : j ≠ i) (held : locks id = some j) :
    ¬ locks.free i id = true := by
  simp [Locks.free, held, different]

theorem spares_lockedBy {ids : List Nat} (different : j ≠ i)
    (free : ∀ id ∈ ids, shared.locks.free i id = true) : Spares j shared (shared.lockedBy i ids) where
  locks := by
    intro id held
    have apart : id ∉ ids := fun member => not_free different held (free id member)
    simpa [lockedBy, Locks.acquire, apart] using held
  rows := fun row member _ => member
  issued := fun hash member => member
  tokens := fun row member => .inr ⟨row, member, rfl, rfl⟩

theorem effect_spares {settings : Settings} {op : Op} {reply : Reply op} (different : j ≠ i)
    (effect : Effect settings i session shared op reply after) : Spares j shared after := by
  cases effect with
  | read | gone => exact .same rfl rfl rfl
  | resolved tokenHash now =>
      unfold attempting
      split
      · split
        · exact .same rfl rfl rfl
        · exact .same rfl rfl rfl
      · exact .same rfl rfl rfl
  | probed | newNode => exact .same rfl rfl rfl
  | recorded loaded error url free =>
      constructor
      · exact fun id held => held
      · intro row member held
        refine Rows.mem_amend.mpr (.inr ⟨member, fun keyed => ?_⟩)
        exact not_free different (keyed ▸ held) free
      · exact fun hash listed => listed
      · intro row member
        rcases Rows.mem_amend.mp member with ⟨old, listed, _, rfl⟩ | ⟨listed, _⟩
        · exact .inr ⟨old, listed, rfl, rfl⟩
        · exact .inr ⟨row, listed, rfl, rfl⟩
  | claimed tokenHash sourceIp ids found free => exact spares_lockedBy different free
  | expired ids found free => exact spares_lockedBy different free
  | purged ids free => exact spares_lockedBy different free

theorem spares_release (different : j ≠ i) : Spares j shared (shared.release i) where
  locks := by
    intro id held
    simp [release, Locks.release, held, different]
  rows := fun row member _ => member
  issued := fun hash member => member
  tokens := fun row member => .inr ⟨row, member, rfl, rfl⟩

theorem written_other {write : Write} {row : NodeEnrollment} (different : j ≠ i)
    (held : shared.locks row.id = some j)
    (own : ∀ id, write.taken = some id → shared.locks id = some i)
    (permitted : shared.permits i write = true) (member : row ∈ shared.enrollments) :
    row ∈ (shared.written i write).enrollments := by
  have untaken : write.taken ≠ some row.id := by
    intro taken
    have mine := own _ taken
    rw [held] at mine
    exact different (Option.some.inj mine)
  have locked {loaded : NodeEnrollment} (free : shared.locks.free i loaded.id = true) :
      some loaded.id ≠ some row.id :=
    fun same => not_free different held (Option.some.inj same ▸ free)
  cases write with
  | issue draft => exact List.mem_append_left _ member
  | accept => exact member
  | claim id sourceIp =>
      exact @rewritten_other (.claim id sourceIp) _ _ member untaken untaken
  | expire id => exact @rewritten_other (.expire id) _ _ member untaken untaken
  | purge id => exact @rewritten_other (.purge id) _ _ member (fun same => nomatch same) untaken
  | revoke loaded actor =>
      simp only [permits, Bool.and_eq_true] at permitted
      exact @rewritten_other (.revoke loaded actor) _ _ member (locked permitted.1) untaken
  | describe loaded url resolvedIp =>
      simp only [permits, Bool.and_eq_true] at permitted
      exact @rewritten_other (.describe loaded url resolvedIp) _ _ member (locked permitted.1) untaken
  | link loaded nodeId =>
      simp only [permits, Bool.and_eq_true] at permitted
      exact @rewritten_other (.link loaded nodeId) _ _ member (locked permitted.1) untaken

theorem commit_spares (different : j ≠ i)
    (own : ∀ write ∈ session.writes, ∀ id, write.taken = some id → shared.locks id = some i)
    (committed : shared.commit i session = some after) : Spares j shared after := by
  obtain ⟨wrote, found, rfl⟩ := commit_writeAll committed
  have locks : wrote.locks = shared.locks :=
    writeAll_keeps (fun store => store.locks = shared.locks) rfl
      (fun store write _ same _ => (written_locks write).trans same) found
  constructor
  · intro id held
    simp [locks, Locks.release, held, different]
  · intro row member held
    have kept := writeAll_keeps
      (fun store => store.locks = shared.locks ∧ row ∈ store.enrollments) ⟨rfl, member⟩
      (fun store write listed kept permitted =>
        ⟨(written_locks write).trans kept.1, written_other different (kept.1 ▸ held)
          (kept.1 ▸ own write listed) permitted kept.2⟩) found
    exact kept.2
  · intro hash listed
    have kept := writeAll_keeps (fun store => hash ∈ store.issued) listed
      (fun store write _ there _ => written_issued write hash there) found
    exact kept
  · intro row member
    rcases writeAll_rows found row member with ⟨old, listed, becomes⟩ |
      ⟨draft, id, _, _, fresh, becomes⟩
    · exact .inr ⟨old, listed, becomes.id.symm, becomes.tokenHash.symm⟩
    · exact .inl (becomes.tokenHash ▸ fresh)

inductive Changed (shared : Shared) : Shared → Prop
  | same : Changed shared shared
  | added (nodes : List Node) : Changed shared { shared with nodes := nodes }
  | removed (id : Nat) (nodes : List Node)
      (unlocked : ∀ row ∈ shared.enrollments, row.nodeId = some id → shared.locks row.id = none) :
      Changed shared { shared with
        nodes := nodes
        enrollments := shared.enrollments.filter fun row => row.nodeId ≠ some id }

theorem changed (shared : Shared) (change : Change) : Changed shared (shared.change change) := by
  cases change with
  | addNode node =>
      simp only [Shared.change]
      split
      · exact .added _
      · exact .same
  | removeNode id =>
      simp only [Shared.change]
      split
      · rename_i unlocked
        refine .removed id _ fun row member same => ?_
        have either := List.all_eq_true.mp unlocked row member
        simpa [same] using either
      · exact .same

theorem changed_spares (changed : Changed shared after) : Spares j shared after := by
  cases changed with
  | same | added => exact .same rfl rfl rfl
  | removed id nodes unlocked =>
      constructor
      · exact fun id held => held
      · intro row member held
        refine List.mem_filter.mpr ⟨member, ?_⟩
        have apart : row.nodeId ≠ some id := by
          intro same
          rw [unlocked row member same] at held
          cases held
        simpa using apart
      · exact fun hash listed => listed
      · exact fun row member => .inr ⟨row, List.mem_of_mem_filter member, rfl, rfl⟩

theorem changed_sound (sound : shared.Sound) (changed : Changed shared after) : after.Sound := by
  cases changed with
  | same => exact sound
  | added => exact ⟨sound.distinct, sound.below, sound.hashes, sound.issued⟩
  | removed id nodes unlocked =>
      have kept := sound_rows sound (shared.enrollments.filter fun row => row.nodeId ≠ some id)
        (List.filter_sublist.map _) (List.filter_sublist.map _)
      exact ⟨kept.distinct, kept.below, kept.hashes, kept.issued⟩

theorem effect_sound {settings : Settings} {op : Op} {reply : Reply op} (sound : shared.Sound)
    (effect : Effect settings i session shared op reply after) : after.Sound := by
  cases effect with
  | read | gone => exact sound
  | resolved tokenHash now =>
      unfold attempting
      split
      · split
        · exact ⟨sound.distinct, sound.below, sound.hashes, sound.issued⟩
        · exact sound
      · exact sound
  | probed => exact ⟨sound.distinct, sound.below, sound.hashes, sound.issued⟩
  | newNode =>
      exact ⟨sound.distinct, fun row member => Nat.lt_succ_of_lt (sound.below row member),
        sound.hashes, sound.issued⟩
  | recorded loaded error url free =>
      have ids : (Rows.amend NodeEnrollment.id loaded.id (settings.recorded loaded error url)
          shared.enrollments).map NodeEnrollment.id = shared.enrollments.map NodeEnrollment.id :=
        Rows.keys_amend fun _ => rfl
      have hashes : (Rows.amend NodeEnrollment.id loaded.id (settings.recorded loaded error url)
          shared.enrollments).map NodeEnrollment.tokenHash =
            shared.enrollments.map NodeEnrollment.tokenHash := by
        rw [Rows.amend, List.map_map]
        apply List.map_congr_left
        intro row _
        by_cases keyed : row.id = loaded.id
        · simp [keyed, Settings.recorded]
        · simp [keyed]
      have kept := sound_rows sound _ (by rw [ids]) (by rw [hashes])
      exact ⟨kept.distinct, kept.below, kept.hashes, kept.issued⟩
  | claimed | expired | purged =>
      exact ⟨sound.distinct, sound.below, sound.hashes, sound.issued⟩

end Shared

structure Booked (i : Nat) (session : Session) (shared : Shared) : Prop where
  locked : ∀ write ∈ session.writes, ∀ id, write.taken = some id → shared.locks id = some i
  pending : ∀ write ∈ session.writes, ∀ id, write.settles = some id →
    ∃ row ∈ shared.enrollments, row.id = id ∧ row.status = .pending
  claimed : ∀ id sourceIp, .claim id sourceIp ∈ session.writes →
    ∃ row, session.attempt = some row ∧ row.id = id
  token : ∀ row, session.attempt = some row → row.tokenHash ∈ shared.issued ∧
    ∀ other ∈ shared.enrollments, other.tokenHash = row.tokenHash → other.id = row.id

namespace Booked

variable {settings : Settings} {i j : Nat} {session : Session} {shared next : Shared}

theorem spared (booked : Booked j session shared) (spares : Shared.Spares j shared next) :
    Booked j session next where
  locked := fun write member id taken => spares.locks id (booked.locked write member id taken)
  pending := by
    intro write member id settles
    obtain ⟨row, listed, same, pending⟩ := booked.pending write member id settles
    have held := booked.locked write member id (settles_taken settles)
    exact ⟨row, spares.rows row listed (same ▸ held), same, pending⟩
  claimed := booked.claimed
  token := by
    intro row attempt
    obtain ⟨issued, sole⟩ := booked.token row attempt
    refine ⟨spares.issued _ issued, fun other listed same => ?_⟩
    rcases spares.tokens other listed with fresh | ⟨old, stored, id, hash⟩
    · exact absurd (same ▸ issued) fresh
    · rw [← id]
      exact sole old stored (hash.trans same)

theorem opened (i : Nat) (request : Request) (shared : Shared) :
    Booked i (Session.opened request) shared where
  locked := fun _ member => (nomatch member)
  pending := fun _ member => (nomatch member)
  claimed := fun _ _ member => (nomatch member)
  token := fun _ attempt => (nomatch attempt)

theorem writing {ids : List Nat} (make : Nat → Write) (booked : Booked i session shared)
    (taken : ∀ id, (make id).taken = some id)
    (pending : ∀ id ∈ ids, (make id).settles = none ∨
      ∃ row ∈ shared.enrollments, row.id = id ∧ row.status = .pending)
    (claims : ∀ id ∈ ids, ∀ sourceIp, make id = .claim id sourceIp →
      ∃ row, session.attempt = some row ∧ row.id = id) :
    Booked i (session.writing (ids.map make)) (shared.lockedBy i ids) where
  locked := by
    intro write member id keyed
    rcases List.mem_append.mp member with old | new
    · have held := booked.locked write old id keyed
      by_cases again : id ∈ ids <;> simp [Shared.lockedBy, Locks.acquire, again, held]
    · obtain ⟨own, listed, rfl⟩ := List.mem_map.mp new
      rw [taken] at keyed
      cases keyed
      simp [Shared.lockedBy, Locks.acquire, listed]
  pending := by
    intro write member id keyed
    rcases List.mem_append.mp member with old | new
    · exact booked.pending write old id keyed
    · obtain ⟨own, listed, rfl⟩ := List.mem_map.mp new
      have same := settles_taken keyed
      rw [taken] at same
      cases same
      rcases pending id listed with none | found
      · rw [none] at keyed
        cases keyed
      · exact found
  claimed := by
    intro id sourceIp member
    rcases List.mem_append.mp member with old | new
    · exact booked.claimed id sourceIp old
    · obtain ⟨own, listed, same⟩ := List.mem_map.mp new
      have keyed := taken own
      rw [same] at keyed
      cases keyed
      exact claims id listed sourceIp same
  token := booked.token

theorem resolved (booked : Booked i session shared) (sound : shared.Sound)
    (unresolved : session.attempt = none) (tokenHash : String) (now : Int) :
    Booked i (session.resolved settings
      ((shared.seen session).find? fun row => row.tokenHash = tokenHash, now)) shared := by
  cases found : (shared.seen session).find? fun row => row.tokenHash = tokenHash with
  | none => exact booked
  | some row =>
      simp only [Session.resolved]
      split
      · obtain ⟨old, stored, becomes⟩ := mem_seen (List.mem_of_find?_eq_some found)
        constructor
        · exact booked.locked
        · exact booked.pending
        · intro id sourceIp member
          obtain ⟨other, attempt, _⟩ := booked.claimed id sourceIp member
          rw [unresolved] at attempt
          cases attempt
        · rintro _ ⟨⟩
          rw [becomes.tokenHash]
          refine ⟨sound.issued old stored, fun other listed same => ?_⟩
          rw [List.inj_on_of_nodup_map sound.hashes listed stored same, becomes.id]
      · exact booked

theorem stored_pending {row : NodeEnrollment} (seen : row ∈ shared.seen session)
    (pending : row.status = .pending) :
    ∃ old ∈ shared.enrollments, old.id = row.id ∧ old.tokenHash = row.tokenHash ∧
      old.status = .pending := by
  obtain ⟨old, stored, becomes⟩ := mem_seen seen
  exact ⟨old, stored, becomes.id.symm, becomes.tokenHash.symm, becomes.pending pending⟩

theorem performs {op : Op} {reply : Reply op} (booked : Booked i session shared)
    (sound : shared.Sound) (permitted : session.Permits op)
    (effect : Effect settings i session shared op reply next) :
    Booked i (session.after settings op reply) next := by
  cases effect with
  | read op reply reads =>
      cases op with
      | write write =>
          have taken : write.taken = none := permitted
          constructor
          · intro other member id keyed
            rcases List.mem_append.mp member with old | new
            · exact booked.locked other old id keyed
            · rw [List.mem_singleton.mp new, taken] at keyed
              cases keyed
          · intro other member id keyed
            rcases List.mem_append.mp member with old | new
            · exact booked.pending other old id keyed
            · have same := settles_taken keyed
              rw [List.mem_singleton.mp new, taken] at same
              cases same
          · intro id sourceIp member
            rcases List.mem_append.mp member with old | new
            · exact booked.claimed id sourceIp old
            · rw [← List.mem_singleton.mp new] at taken
              cases taken
          · exact booked.token
      | byId | pendingForName | listFiltered | nodeById | nodeNamed | resolveUrl | readAgain | mint
      | syncNode => exact booked
      | byTokenHash | probe | record | claim | expireStale | purgeSettled | newNode | raise =>
          cases reads
  | resolved tokenHash now =>
      have same : Shared.Spares i shared (shared.attempting settings i session
          ((shared.seen session).find? fun row => row.tokenHash = tokenHash, now)) := by
        unfold Shared.attempting
        split
        · split
          · exact .same rfl rfl rfl
          · exact .same rfl rfl rfl
        · exact .same rfl rfl rfl
      exact (booked.resolved sound permitted.1 tokenHash now).spared same
  | probed => exact ⟨booked.locked, booked.pending, booked.claimed, booked.token⟩
  | gone => exact booked
  | newNode => exact ⟨booked.locked, booked.pending, booked.claimed, booked.token⟩
  | recorded loaded error url free =>
      obtain ⟨row, attempting, _⟩ := permitted
      have clean : ∀ write, write ∉ session.writes := by
        rw [attempting.clean]
        exact fun write => List.not_mem_nil
      constructor
      · exact fun write member => absurd member (clean write)
      · exact fun write member => absurd member (clean write)
      · exact fun id sourceIp member => absurd member (clean _)
      · intro found attempt
        obtain ⟨issued, sole⟩ := booked.token found attempt
        refine ⟨issued, fun other listed same => ?_⟩
        rcases Rows.mem_amend.mp listed with ⟨old, stored, _, rfl⟩ | ⟨stored, _⟩
        · exact sole old stored same
        · exact sole other stored same
  | claimed tokenHash sourceIp ids found free =>
      obtain ⟨row, attempting, hash⟩ := permitted
      refine booked.writing (fun id => .claim id sourceIp) (fun _ => rfl) ?_ ?_
      · intro id member
        obtain ⟨other, seen, rfl, _, pending⟩ := found id member
        obtain ⟨old, stored, same, _, still⟩ := stored_pending seen pending
        exact .inr ⟨old, stored, same, still⟩
      · rintro id member _ _
        obtain ⟨other, seen, rfl, token, pending⟩ := found id member
        obtain ⟨old, stored, same, sameHash, _⟩ := stored_pending seen pending
        have sole := (booked.token row attempting.attempt).2 old stored
        exact ⟨row, attempting.attempt, by rw [← same, sole (by rw [sameHash, token, hash])]⟩
  | expired ids found free =>
      refine booked.writing .expire (fun _ => rfl) ?_ fun _ _ _ same => nomatch same
      intro id member
      obtain ⟨other, seen, rfl, pending⟩ := found id member
      obtain ⟨old, stored, same, _, still⟩ := stored_pending seen pending
      exact .inr ⟨old, stored, same, still⟩
  | purged ids free =>
      exact booked.writing .purge (fun _ => rfl) (fun _ _ => .inl rfl)
        fun _ _ _ same => nomatch same

end Booked

section Runs

variable (settings : Settings)

def anyStep : EnrollmentSystem settings → Label (enrollmentMachine settings) → Prop :=
  fun _ _ => True

def emptySystem : EnrollmentSystem settings := ⟨Shared.empty, fun _ => none⟩

def bookedInvariant (ok : EnrollmentSystem settings → Label (enrollmentMachine settings) → Prop) :
    Invariant (enrollmentDiscipline settings) ok fun _ => True where
  shared := Shared.Sound
  session := Booked
  begins _ i request _ _ _ := Booked.opened i request _
  performs _ _ _ _ _ _ _ _ _ _ permitted sound booked reacts :=
    ⟨Shared.effect_sound sound (effect reacts), booked.performs sound permitted (effect reacts),
      fun _ _ different _ other => other.spared (Shared.effect_spares different (effect reacts))⟩
  commits _ _ _ _ _ _ _ _ sound booked committed :=
    ⟨Shared.commit_sound sound committed,
      fun _ _ different _ other =>
        other.spared (Shared.commit_spares different booked.locked committed)⟩
  aborts _ _ _ _ _ _ sound _ :=
    ⟨⟨sound.distinct, sound.below, sound.hashes, sound.issued⟩,
      fun _ _ different _ other => other.spared (Shared.spares_release different)⟩
  changes _ change _ _ sound :=
    ⟨Shared.changed_sound sound (Shared.changed _ change),
      fun _ _ _ other => other.spared (Shared.changed_spares (Shared.changed _ change))⟩

variable {settings}

theorem booked_reached {ok : EnrollmentSystem settings → Label (enrollmentMachine settings) → Prop}
    {system : EnrollmentSystem settings} (reached : System.Reaches ok (emptySystem settings) system) :
    (bookedInvariant settings ok).Holds system :=
  @Invariant.reached _ _ _ _ _ (bookedInvariant settings ok) (emptySystem settings)
    (fun _ => rfl) Shared.sound_empty (fun _ _ => trivial) system reached

end Runs

end AiPlatform.Enrollments
