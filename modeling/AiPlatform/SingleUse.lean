import AiPlatform.EnrollmentRuns

/-!
The status of an enrolment along every schedule. A token makes one node at most,
whatever the schedule. That a consumed invitation stays consumed, and a settled
one settled, depends on what a revocation finds: `revoke` and `_fail` set the
status from a row they read earlier, and nothing compares it with the row they
write.
-/

namespace AiPlatform.Enrollments

section Moves

variable {settings : Settings} {i : Nat} {session : Session} {shared after : Shared}

inductive Session.Moves (session : Session) (old new : NodeEnrollment) : Prop
  | stays (same : new.status = old.status)
  | expires (pending : old.status = .pending) (now : new.status = .expired)
  | consumes (sourceIp : Option String) (claims : .claim old.id sourceIp ∈ session.writes)
      (pending : old.status = .pending) (now : new.status = .consumed)
  | revokes (loaded : NodeEnrollment) (actor : Nat)
      (revokes : .revoke loaded actor ∈ session.writes) (same : loaded.id = old.id)
      (now : new.status = .revoked)

theorem Session.Moves.pending {old new : NodeEnrollment} (moves : session.Moves old new)
    (pending : new.status = .pending) : old.status = .pending := by
  cases moves with
  | stays same => rw [← same, pending]
  | expires before now => exact before
  | consumes sourceIp claims before now => exact before
  | revokes loaded actor revokes same now =>
      rw [now] at pending
      cases pending

theorem Session.Moves.consumed {old new : NodeEnrollment} (moves : session.Moves old new)
    (consumed : new.status = .consumed) :
    old.status = .consumed ∨ ∃ sourceIp, .claim old.id sourceIp ∈ session.writes := by
  cases moves with
  | stays same => exact .inl (same ▸ consumed)
  | consumes sourceIp claims before now => exact .inr ⟨sourceIp, claims⟩
  | expires before now | revokes loaded actor revokes same now =>
      rw [now] at consumed
      cases consumed

theorem becomes_moves (sound : shared.Sound) (booked : Booked i session shared)
    {old new : NodeEnrollment} (stored : old ∈ shared.enrollments)
    (becomes : Becomes session.writes old new) : session.Moves old new := by
  have settled (write : Write) (member : write ∈ session.writes)
      (settles : write.settles = some old.id) : old.status = .pending := by
    obtain ⟨row, listed, same, pending⟩ := booked.pending write member old.id settles
    rwa [Shared.row_unique sound stored listed same] at pending
  rcases becomes.status with same | ⟨write, member, target, sets⟩
  · exact .stays same
  · cases write with
    | claim id sourceIp =>
        cases target
        exact .consumes sourceIp member (settled _ member rfl) (Option.some.inj sets).symm
    | expire id => exact .expires (settled _ member target) (Option.some.inj sets).symm
    | revoke loaded actor =>
        simp only [Write.sets] at sets
        split at sets
        · cases sets
        · exact .revokes loaded actor member (Option.some.inj target) (Option.some.inj sets).symm
    | describe | link | issue | purge | accept => cases sets

theorem issues_pending (sound : shared.Sound) (booked : Booked i session shared)
    (complete : session.Complete) {new : NodeEnrollment}
    (issues : Issues shared session.writes new) :
    shared.nextId ≤ new.id ∧ new.status = .pending ∧ new.attempts = 0 := by
  obtain ⟨draft, id, member, low, _, becomes⟩ := issues
  have maintains : ∀ write ∈ session.writes, write.maintains = true := by
    cases complete.2 with
    | enrols row request attempt writes =>
        obtain ⟨_, _, _, _, _, _, _, same⟩ := writes
        simp [same] at member
    | revokes request writes =>
        obtain ⟨loaded, actor, same⟩ := writes _ member
        cases same
    | maintains request writes => exact writes
  have fresh := maintains _ member
  simp only [Write.maintains, Bool.and_eq_true, decide_eq_true_eq] at fresh
  refine ⟨becomes.id ▸ low, ?_, becomes.attempts.trans fresh.2⟩
  rcases becomes.status with same | ⟨write, listed, target, sets⟩
  · exact same.trans fresh.1
  · cases write with
    | expire other =>
        obtain ⟨row, stored, same, _⟩ := booked.pending _ listed other rfl
        have below := sound.below row stored
        rw [same, Option.some.inj target] at below
        exact absurd low (Nat.not_le_of_lt below)
    | claim other sourceIp => cases maintains _ listed
    | revoke loaded actor => cases maintains _ listed
    | describe | link | issue | purge | accept => cases sets

theorem commit_rows (sound : shared.Sound) (booked : Booked i session shared)
    (complete : session.Complete) (committed : shared.commit i session = some after) :
    ∀ row ∈ after.enrollments,
      (∃ old ∈ shared.enrollments, old.id = row.id ∧ row.attempts = old.attempts ∧
        session.Moves old row) ∨
      (shared.nextId ≤ row.id ∧ row.status = .pending ∧ row.attempts = 0) := by
  obtain ⟨wrote, found, rfl⟩ := Shared.commit_writeAll committed
  intro row member
  rcases Shared.writeAll_rows found row member with ⟨old, stored, becomes⟩ | issues
  · exact .inl ⟨old, stored, becomes.id.symm, becomes.attempts,
      becomes_moves sound booked stored becomes⟩
  · exact .inr (issues_pending sound booked complete issues)

theorem written_accepted {write : Write} (other : ∀ id existing node, write ≠ .accept id existing node) :
    (shared.written i write).accepted = shared.accepted ∧
      (shared.written i write).underway = shared.underway := by
  cases write with
  | accept id existing node => exact absurd rfl (other id existing node)
  | claim | expire | purge | revoke | describe | link | issue => exact ⟨rfl, rfl⟩

/-- What a commit adds to the acceptances: one for an enrolment that has claimed
its invitation, and otherwise none. -/
inductive Accepts (i : Nat) (session : Session) (shared after : Shared) : Prop
  | node (row : NodeEnrollment) (sourceIp : Option String) (nodeId : Nat)
      (attempt : session.attempt = some row)
      (claims : .claim row.id sourceIp ∈ session.writes)
      (accepted : after.accepted = shared.accepted ++ [⟨row.id, nodeId, i⟩])
      (underway : after.underway = shared.underway.filter fun attempt => attempt.1 ≠ i)
      (consumed : ∀ new ∈ after.enrollments, new.id = row.id → new.status = .consumed)
  | none (unclaimed : ∀ id sourceIp, .claim id sourceIp ∉ session.writes)
      (enrolls : session.request.enrolls = false)
      (accepted : after.accepted = shared.accepted) (underway : after.underway = shared.underway)

theorem becomes_unset {write : Write} {old new : NodeEnrollment} (becomes : Becomes [write] old new)
    (unset : write.sets = none) : new.status = old.status := by
  rcases becomes.status with same | ⟨other, member, _, sets⟩
  · exact same
  · rw [List.mem_singleton.mp member, unset] at sets
    cases sets

theorem claimed_consumed {id : Nat} {sourceIp : Option String} (describe link : Write)
    {rows : List NodeEnrollment} {new : NodeEnrollment} (described : describe.sets = none)
    (linked : link.sets = none)
    (member : new ∈ Shared.rewritten link
      (Shared.rewritten describe (Shared.rewritten (.claim id sourceIp) rows)))
    (same : new.id = id) : new.status = .consumed := by
  obtain ⟨second, listed, last⟩ := mem_rewritten member
  obtain ⟨first, stored, middle⟩ := mem_rewritten listed
  have keyed : first.id = id := middle.id.symm.trans (last.id.symm.trans same)
  rw [becomes_unset last linked, becomes_unset middle described]
  rcases Rows.mem_amend.mp stored with ⟨old, _, _, rfl⟩ | ⟨_, apart⟩
  · rfl
  · exact absurd keyed apart

theorem commit_accepts (booked : Booked i session shared) (complete : session.Complete)
    (committed : shared.commit i session = some after) : Accepts i session shared after := by
  obtain ⟨wrote, found, rfl⟩ := Shared.commit_writeAll committed
  have nothing (other : ∀ write ∈ session.writes, ∀ id existing node,
      write ≠ .accept id existing node) :
      wrote.accepted = shared.accepted ∧ wrote.underway = shared.underway :=
    Shared.writeAll_keeps
      (fun store => store.accepted = shared.accepted ∧ store.underway = shared.underway) ⟨rfl, rfl⟩
      (fun store write member same _ => by
        obtain ⟨accepted, underway⟩ := @written_accepted i store write (other write member)
        exact ⟨accepted.trans same.1, underway.trans same.2⟩) found
  cases complete.2 with
  | enrols row request attempt writes =>
      obtain ⟨id, sourceIp, url, resolvedIp, existing, node, nodeId, listed⟩ := writes
      obtain ⟨other, again, same⟩ := booked.claimed id sourceIp (by rw [listed]; simp)
      rw [attempt] at again
      cases again
      cases same
      rw [listed] at found
      simp only [Shared.writeAll] at found
      split at found
      · split at found
        · split at found
          · split at found
            · cases found
              refine .node row sourceIp node.id attempt (by rw [listed]; simp) rfl rfl ?_
              intro new member same
              exact claimed_consumed (.describe row url resolvedIp) (.link row nodeId) rfl rfl member same
            · cases found
          · cases found
        · cases found
      · cases found
  | revokes request writes =>
      have kept := nothing fun write member id existing node same => by
        obtain ⟨loaded, actor, revoke⟩ := writes write member
        rw [revoke] at same
        cases same
      refine .none (fun id sourceIp member => ?_) request kept.1 kept.2
      obtain ⟨loaded, actor, same⟩ := writes _ member
      cases same
  | maintains request writes =>
      have kept := nothing fun write member id existing node same => by
        have holds := writes write member
        rw [same] at holds
        cases holds
      exact .none (fun id sourceIp member => by cases writes _ member) request kept.1 kept.2

end Moves

section Conditions

variable {settings : Settings}

/-- The commit of `_fail` sets the status of the row. -/
def Settings.burns (settings : Settings) (loaded : NodeEnrollment) : Bool :=
  decide (settings.maxAttemptsPerToken ≤ loaded.attempts + 1) && loaded.status ≠ .revoked

def Shared.holds (shared : Shared) (safe : EnrollmentStatus → Bool) (id : Nat) : Bool :=
  shared.enrollments.all fun row => row.id ≠ id || safe row.status

/-- `_fail` burns a row, and a request commits a revocation, only where the stored
row has a status that is safe to overwrite. -/
def revokesOver (safe : EnrollmentStatus → Bool) (system : EnrollmentSystem settings) :
    Label (enrollmentMachine settings) → Bool
  | .perform i _ =>
      match system.op? i with
      | some (.record loaded _ _) => !settings.burns loaded || system.shared.holds safe loaded.id
      | _ => true
  | .commit i =>
      match system.session? i with
      | some session => (Session.writes session).all fun
          | .revoke loaded _ => system.shared.holds safe loaded.id
          | _ => true
      | none => true
  | .begin _ _ | .stop _ | .abort _ | .change _ => true

/-- The runs in which each revocation finds a status that is safe to overwrite. -/
def RevokesOver (safe : EnrollmentStatus → Bool) (system : EnrollmentSystem settings)
    (label : Label (enrollmentMachine settings)) : Prop :=
  revokesOver safe system label = true

variable {safe : EnrollmentStatus → Bool} {system : EnrollmentSystem settings} {i : Nat}
  {session : Session}

theorem holds_row {shared : Shared} {id : Nat} (holds : shared.holds safe id = true)
    {row : NodeEnrollment} (member : row ∈ shared.enrollments) (same : row.id = id) :
    safe row.status = true := by
  have either := List.all_eq_true.mp holds row member
  simpa [same] using either

theorem burn_safe {answer : Answer} {loaded : NodeEnrollment} {error : String}
    {url : Option String} (meets : RevokesOver safe system (.perform i answer))
    (performing : system.Performing i (.record loaded error url) session)
    (burns : settings.burns loaded = true) : system.shared.holds safe loaded.id = true := by
  simpa [RevokesOver, revokesOver, performing.op?, burns] using meets

theorem revoke_safe (meets : RevokesOver safe system (.commit i)) (live : system.Live i session)
    {loaded : NodeEnrollment} {actor : Nat} (revokes : .revoke loaded actor ∈ session.writes) :
    system.shared.holds safe loaded.id = true := by
  simp only [RevokesOver, revokesOver, live.session?] at meets
  exact List.all_eq_true.mp meets _ revokes

theorem recorded_status (loaded stored : NodeEnrollment) (error : String) (url : Option String) :
    (settings.recorded loaded error url stored).status =
      if settings.burns loaded = true then .revoked else stored.status := by
  simp only [Settings.recorded, Settings.failed, Settings.burns, Bool.and_eq_true,
    decide_eq_true_eq]
  by_cases many : settings.maxAttemptsPerToken ≤ loaded.attempts + 1
  · by_cases revoked : loaded.status = .revoked
    · simp [many, revoked, column]
    · simp [many, revoked, column, Ne.symm revoked]
  · simp [many, column]

theorem effect_rows {op : Op} {reply : Reply op} {shared after : Shared}
    (effect : Effect settings i session shared op reply after) :
    ∀ row ∈ after.enrollments, ∃ old ∈ shared.enrollments, old.id = row.id ∧
      (row.status = old.status ∨ (row.status = .revoked ∧ ∃ loaded error url,
        op = .record loaded error url ∧ loaded.id = old.id ∧ settings.burns loaded = true)) := by
  have same (row : NodeEnrollment) (member : row ∈ shared.enrollments) :
      ∃ old ∈ shared.enrollments, old.id = row.id ∧ (row.status = old.status ∨
        (row.status = .revoked ∧ ∃ loaded error url, op = .record loaded error url ∧
          loaded.id = old.id ∧ settings.burns loaded = true)) :=
    ⟨row, member, rfl, .inl rfl⟩
  cases effect with
  | read | gone | probed | newNode | claimed | expired | purged => exact same
  | resolved tokenHash now =>
      unfold Shared.attempting
      split
      · split
        · exact same
        · exact same
      · exact same
  | recorded loaded error url free =>
      intro row member
      rcases Rows.mem_amend.mp member with ⟨old, listed, keyed, rfl⟩ | ⟨listed, _⟩
      · refine ⟨old, listed, rfl, ?_⟩
        rw [recorded_status]
        by_cases burns : settings.burns loaded = true
        · rw [if_pos burns]
          exact .inr ⟨rfl, loaded, error, url, rfl, keyed.symm, burns⟩
        · rw [if_neg burns]
          exact .inl rfl
      · exact same row listed

theorem effect_accepted {op : Op} {reply : Reply op} {shared after : Shared}
    (effect : Effect settings i session shared op reply after) :
    after.accepted = shared.accepted ∧ shared.nextId ≤ after.nextId := by
  cases effect with
  | read | gone | probed | recorded | claimed | expired | purged => exact ⟨rfl, Nat.le_refl _⟩
  | newNode => exact ⟨rfl, Nat.le_succ _⟩
  | resolved tokenHash now =>
      unfold Shared.attempting
      split
      · split
        · exact ⟨rfl, Nat.le_refl _⟩
        · exact ⟨rfl, Nat.le_refl _⟩
      · exact ⟨rfl, Nat.le_refl _⟩

end Conditions

section Runs

variable {settings : Settings}

/-- The acceptances and the rows agree, as far as no revocation can disturb it. -/
structure Shared.Accounted (shared : Shared) : Prop where
  below : ∀ entry ∈ shared.accepted, entry.enrollmentId < shared.nextId
  once : (shared.accepted.map Acceptance.enrollmentId).Nodup
  pending : ∀ row ∈ shared.enrollments, row.status = .pending →
    ∀ entry ∈ shared.accepted, entry.enrollmentId ≠ row.id
  consumed : ∀ row ∈ shared.enrollments, row.status = .consumed →
    ∃ entry ∈ shared.accepted, entry.enrollmentId = row.id

namespace Shared.Accounted

variable {shared after : Shared} {i : Nat} {session : Session}

theorem effect {op : Op} {reply : Reply op} (accounted : shared.Accounted)
    (effect : Effect settings i session shared op reply after) : after.Accounted := by
  obtain ⟨accepted, low⟩ := effect_accepted effect
  have rows := effect_rows effect
  constructor
  · rw [accepted]
    exact fun entry member => Nat.lt_of_lt_of_le (accounted.below entry member) low
  · rw [accepted]
    exact accounted.once
  · rw [accepted]
    intro row member pending
    obtain ⟨old, stored, same, status | ⟨revoked, _⟩⟩ := rows row member
    · rw [← same]
      exact accounted.pending old stored (status ▸ pending)
    · rw [revoked] at pending
      cases pending
  · rw [accepted]
    intro row member consumed
    obtain ⟨old, stored, same, status | ⟨revoked, _⟩⟩ := rows row member
    · rw [← same]
      exact accounted.consumed old stored (status ▸ consumed)
    · rw [revoked] at consumed
      cases consumed

theorem commit_nextId (committed : shared.commit i session = some after) :
    shared.nextId ≤ after.nextId := by
  obtain ⟨wrote, found, rfl⟩ := commit_writeAll committed
  have low := writeAll_keeps (fun store => shared.nextId ≤ store.nextId) (Nat.le_refl _)
    (fun store write _ low _ => low.trans (written_nextId write)) found
  exact low

theorem commit (accounted : shared.Accounted) (sound : shared.Sound)
    (booked : Booked i session shared) (complete : session.Complete)
    (committed : shared.commit i session = some after) : after.Accounted := by
  have low := commit_nextId committed
  have rows := commit_rows sound booked complete committed
  have earlier (row : NodeEnrollment) (member : row ∈ after.enrollments)
      (pending : row.status = .pending) (entry : Acceptance) (listed : entry ∈ shared.accepted) :
      entry.enrollmentId ≠ row.id := by
    intro keyed
    rcases rows row member with ⟨old, stored, same, _, moves⟩ | ⟨high, _⟩
    · exact accounted.pending old stored (moves.pending pending) entry listed
        (keyed.trans same.symm)
    · exact absurd (accounted.below entry listed) (by omega)
  have settled (row : NodeEnrollment) (member : row ∈ after.enrollments)
      (consumed : row.status = .consumed) :
      (∃ entry ∈ shared.accepted, entry.enrollmentId = row.id) ∨
        ∃ sourceIp, .claim row.id sourceIp ∈ session.writes := by
    rcases rows row member with ⟨old, stored, same, _, moves⟩ | ⟨_, pending, _⟩
    · rw [← same]
      rcases moves.consumed consumed with before | claims
      · exact .inl (accounted.consumed old stored before)
      · exact .inr claims
    · rw [pending] at consumed
      cases consumed
  cases commit_accepts booked complete committed with
  | none unclaimed enrolls accepted underway =>
      constructor
      · rw [accepted]
        exact fun entry member => Nat.lt_of_lt_of_le (accounted.below entry member) low
      · rw [accepted]
        exact accounted.once
      · rw [accepted]
        exact earlier
      · rw [accepted]
        intro row member consumed
        rcases settled row member consumed with found | ⟨sourceIp, claims⟩
        · exact found
        · exact absurd claims (unclaimed _ _)
  | node attempt sourceIp nodeId found claims accepted underway settles =>
      obtain ⟨own, stored, same, pending⟩ := booked.pending _ claims attempt.id rfl
      have fresh := accounted.pending own stored pending
      rw [same] at fresh
      constructor
      · rw [accepted]
        intro entry member
        rcases List.mem_append.mp member with old | new
        · exact Nat.lt_of_lt_of_le (accounted.below entry old) low
        · rw [List.mem_singleton.mp new, ← same]
          exact Nat.lt_of_lt_of_le (sound.below own stored) low
      · rw [accepted]
        exact distinct_concat Acceptance.enrollmentId accounted.once fresh
      · rw [accepted]
        intro row member still entry listed
        rcases List.mem_append.mp listed with old | new
        · exact earlier row member still entry old
        · rw [List.mem_singleton.mp new]
          intro keyed
          rw [settles row member keyed.symm] at still
          cases still
      · rw [accepted]
        intro row member consumed
        rcases settled row member consumed with ⟨entry, listed, keyed⟩ | ⟨other, again⟩
        · exact ⟨entry, List.mem_append_left _ listed, keyed⟩
        · obtain ⟨invitation, attempted, keyed⟩ := booked.claimed _ _ again
          rw [found] at attempted
          cases attempted
          exact ⟨_, List.mem_append_right _ (List.mem_singleton_self _), keyed⟩

theorem changed (accounted : shared.Accounted) (changed : Changed shared after) :
    after.Accounted := by
  cases changed with
  | same => exact accounted
  | added => exact ⟨accounted.below, accounted.once, accounted.pending, accounted.consumed⟩
  | removed id nodes unlocked =>
      exact ⟨accounted.below, accounted.once,
        fun row member => accounted.pending row (List.mem_of_mem_filter member),
        fun row member => accounted.consumed row (List.mem_of_mem_filter member)⟩

end Shared.Accounted

variable {ok : EnrollmentSystem settings → Label (enrollmentMachine settings) → Prop}

def accountedInvariant (settings : Settings)
    (ok : EnrollmentSystem settings → Label (enrollmentMachine settings) → Prop) :
    Invariant (enrollmentDiscipline settings) ok (bookedInvariant settings ok).Holds where
  shared := Shared.Accounted
  session _ _ _ := True
  begins _ _ _ _ _ _ := trivial
  performs _ _ _ _ _ _ _ _ _ _ _ accounted _ reacts :=
    ⟨accounted.effect (effect reacts), trivial, fun _ _ _ _ _ => trivial⟩
  commits _ _ _ _ known _ ending complete accounted _ committed :=
    ⟨accounted.commit known.1 (known.2 _ _ ending.live) complete committed,
      fun _ _ _ _ _ => trivial⟩
  aborts _ _ _ _ _ _ accounted _ :=
    ⟨⟨accounted.below, accounted.once, accounted.pending, accounted.consumed⟩,
      fun _ _ _ _ _ => trivial⟩
  changes _ change _ _ accounted :=
    ⟨accounted.changed (Shared.changed _ change), fun _ _ _ _ => trivial⟩

theorem accounted_empty : Shared.empty.Accounted where
  below := fun _ member => (nomatch member)
  once := List.nodup_nil
  pending := fun _ member => (nomatch member)
  consumed := fun _ member => (nomatch member)

theorem accounted_reached {system : EnrollmentSystem settings}
    (reached : System.Reaches ok (emptySystem settings) system) : system.shared.Accounted :=
  (@Invariant.reached _ _ _ _ _ (accountedInvariant settings ok) (emptySystem settings)
    (fun _ => rfl) accounted_empty (fun _ reached => booked_reached reached) system reached).1

def Shared.StaysConsumed (shared : Shared) : Prop :=
  ∀ row ∈ shared.enrollments, ∀ entry ∈ shared.accepted, entry.enrollmentId = row.id →
    row.status = .consumed

theorem Shared.StaysConsumed.changed {shared after : Shared} (stays : shared.StaysConsumed)
    (changed : Changed shared after) : after.StaysConsumed := by
  cases changed with
  | same | added => exact stays
  | removed id nodes unlocked =>
      exact fun row member => stays row (List.mem_of_mem_filter member)

theorem changed_accepted {shared after : Shared} (changed : Shared.Changed shared after) :
    after.accepted = shared.accepted ∧ after.nextId = shared.nextId := by
  cases changed with
  | same | added | removed => exact ⟨rfl, rfl⟩

theorem changed_subset {shared after : Shared} (changed : Shared.Changed shared after) :
    ∀ row ∈ after.enrollments, row ∈ shared.enrollments := by
  cases changed with
  | same | added => exact fun row member => member
  | removed id nodes unlocked => exact fun row member => List.mem_of_mem_filter member

def consumedInvariant (settings : Settings) {safe : EnrollmentStatus → Bool}
    (unsafeConsumed : safe .consumed = false) :
    Invariant (enrollmentDiscipline settings) (RevokesOver safe) fun system =>
      (bookedInvariant settings (RevokesOver safe)).Holds system ∧ system.shared.Accounted where
  shared := Shared.StaysConsumed
  session _ _ _ := True
  begins _ _ _ _ _ _ := trivial
  performs system i answer op session reply after known meets performing _ stays _ reacts := by
    refine ⟨fun row member entry listed keyed => ?_, trivial, fun _ _ _ _ _ => trivial⟩
    rw [(effect_accepted (effect reacts)).1] at listed
    obtain ⟨old, stored, same, status | ⟨_, loaded, error, url, rfl, own, burns⟩⟩ :=
      effect_rows (effect reacts) row member
    · rw [status]
      exact stays old stored entry listed (keyed.trans same.symm)
    · have consumed := stays old stored entry listed (keyed.trans same.symm)
      have holds := holds_row (burn_safe meets performing burns) stored own.symm
      rw [consumed, unsafeConsumed] at holds
      cases holds
  commits system i session after known meets ending complete stays _ committed := by
    refine ⟨fun row member entry listed keyed => ?_, fun _ _ _ _ _ => trivial⟩
    obtain ⟨⟨sound, sessions⟩, accounted⟩ := known
    have booked := sessions i session ending.live
    have before (listed : entry ∈ system.shared.accepted) : row.status = .consumed := by
      rcases commit_rows sound booked complete committed row member with
        ⟨old, stored, same, _, moves⟩ | ⟨high, _⟩
      · have consumed := stays old stored entry listed (keyed.trans same.symm)
        cases moves with
        | stays status => rw [status, consumed]
        | expires pending now | consumes sourceIp claims pending now =>
            rw [consumed] at pending
            cases pending
        | revokes loaded actor revokes own now =>
            have holds := holds_row (revoke_safe meets ending.live revokes) stored own.symm
            rw [consumed, unsafeConsumed] at holds
            cases holds
      · exact absurd (accounted.below entry listed) (by omega)
    cases commit_accepts booked complete committed with
    | none unclaimed enrolls accepted underway => exact before (accepted ▸ listed)
    | node attempt sourceIp nodeId found claims accepted underway settles =>
        rw [accepted] at listed
        rcases List.mem_append.mp listed with old | new
        · exact before old
        · rw [List.mem_singleton.mp new] at keyed
          exact settles row member keyed.symm
  aborts _ _ _ _ _ _ stays _ := ⟨stays, fun _ _ _ _ _ => trivial⟩
  changes system change _ _ stays :=
    ⟨stays.changed (Shared.changed system.shared change), fun _ _ _ _ => trivial⟩

theorem consumed_reached {safe : EnrollmentStatus → Bool} (unsafeConsumed : safe .consumed = false)
    {system : EnrollmentSystem settings}
    (reached : System.Reaches (RevokesOver safe) (emptySystem settings) system) :
    system.shared.StaysConsumed :=
  (@Invariant.reached _ _ _ _ _ (consumedInvariant settings unsafeConsumed) (emptySystem settings)
    (fun _ => rfl) (fun _ member => nomatch member)
    (fun _ reached => ⟨booked_reached reached, accounted_reached reached⟩) system reached).1

theorem writeAll_process {shared after : Shared} {i : Nat} {writes : List Write}
    (wrote : shared.writeAll i writes = some after) :
    ∀ entry ∈ after.accepted, entry ∈ shared.accepted ∨ entry.process = i := by
  refine Shared.writeAll_keeps
    (fun store => ∀ entry ∈ store.accepted, entry ∈ shared.accepted ∨ entry.process = i)
    (fun entry member => .inl member) ?_ wrote
  intro store write _ before _ entry member
  cases write with
  | accept id existing node =>
      rcases List.mem_append.mp member with old | new
      · exact before entry old
      · rw [List.mem_singleton.mp new]
        exact .inr rfl
  | claim | expire | purge | revoke | describe | link | issue => exact before entry member

theorem accepted_committed (system : EnrollmentSystem settings)
    (reached : System.Reaches ok (emptySystem settings) system) :
    ∀ entry ∈ system.shared.accepted, ∃ process,
      system.processes entry.process = some process ∧ process.status = .committed := by
  refine System.reaches_induction (fun system : EnrollmentSystem settings =>
    ∀ entry ∈ system.shared.accepted, ∃ process,
      system.processes entry.process = some process ∧ process.status = .committed)
    (by rintro _ ⟨⟩) ?_ system reached
  intro system label next _ committed _ transition
  have elsewhere {j : Nat} {process : Process (enrollmentMachine settings)}
      (found : system.processes j = some process) (live : process.status ≠ .committed)
      (entry : Acceptance) (member : entry ∈ system.shared.accepted) : entry.process ≠ j := by
    obtain ⟨other, there, done⟩ := committed entry member
    rintro rfl
    rw [found] at there
    cases there
    exact live done
  cases transition with
  | begin i request fresh =>
      intro entry member
      obtain ⟨other, there, done⟩ := committed entry member
      have apart : entry.process ≠ i := by
        rintro rfl
        rw [fresh] at there
        cases there
      exact ⟨other, (System.put_other _ _ _ _ _ apart).trans there, done⟩
  | perform i answer op rest session reply shared found reacts =>
      intro entry member
      rw [System.put_shared, (effect_accepted (effect reacts)).1] at member
      obtain ⟨other, there, done⟩ := committed entry member
      have apart := elsewhere found (by simp) entry member
      exact ⟨other, (System.put_other _ _ _ _ _ apart).trans there, done⟩
  | stop i op rest session found awaits => cases awaits
  | commit i session shared ending commits =>
      intro entry member
      obtain ⟨wrote, stored, rfl⟩ := Shared.commit_writeAll commits
      by_cases own : entry.process = i
      · rw [own]
        exact ⟨_, System.put_same _ _ _ _, rfl⟩
      · rcases writeAll_process stored entry member with old | now
        · obtain ⟨other, there, done⟩ := committed entry old
          exact ⟨other, (System.put_other _ _ _ _ _ own).trans there, done⟩
        · exact absurd now own
  | abort i session live =>
      intro entry member
      obtain ⟨other, there, done⟩ := committed entry member
      obtain ⟨process, found, _, running | stopped⟩ := live
      · have apart := elsewhere found (by simp [running]) entry member
        exact ⟨other, (System.put_other _ _ _ _ _ apart).trans there, done⟩
      · have apart := elsewhere found (by simp [stopped]) entry member
        exact ⟨other, (System.put_other _ _ _ _ _ apart).trans there, done⟩
  | change edit =>
      intro entry member
      have same := (changed_accepted (Shared.changed system.shared edit)).1
      exact committed entry (same ▸ member)

def notConsumed (status : EnrollmentStatus) : Bool := status ≠ .consumed

/-- A token makes one node at most, by a request that commits, and its status is
CONSUMED if and only if the node was committed, in every schedule in which no
revocation overwrites a consumed row. -/
theorem token_is_single_use (settings : Settings) (system : EnrollmentSystem settings)
    (reached : System.Reaches (RevokesOver notConsumed) (emptySystem settings) system) :
    (∀ entry ∈ system.shared.accepted, ∀ other ∈ system.shared.accepted,
      other.enrollmentId = entry.enrollmentId → other = entry) ∧
    (∀ row ∈ system.shared.enrollments, row.status = .consumed ↔
      ∃ entry ∈ system.shared.accepted, entry.enrollmentId = row.id) ∧
    (∀ entry ∈ system.shared.accepted, ∃ process,
      system.processes entry.process = some process ∧ process.status = .committed) := by
  have accounted := accounted_reached reached
  refine ⟨?_, ?_, accepted_committed system reached⟩
  · intro entry member other listed same
    exact List.inj_on_of_nodup_map accounted.once listed member same
  · intro row member
    constructor
    · exact accounted.consumed row member
    · rintro ⟨entry, listed, keyed⟩
      exact consumed_reached rfl reached row member entry listed keyed

def unsettled (status : EnrollmentStatus) : Bool := status = .pending || status = .revoked

theorem transition_rows {system next : EnrollmentSystem settings}
    {label : Label (enrollmentMachine settings)}
    (holds : (bookedInvariant settings (RevokesOver unsettled)).Holds system)
    (kept : (enrollmentDiscipline settings).Kept system) (meets : RevokesOver unsettled system label)
    (transition : System.Transition system label next) :
    system.shared.nextId ≤ next.shared.nextId ∧ ∀ row ∈ next.shared.enrollments,
      (∃ old ∈ system.shared.enrollments, old.id = row.id ∧
        (old.status = .pending ∨ row.status = old.status)) ∨ system.shared.nextId ≤ row.id := by
  have stays (row : NodeEnrollment) (member : row ∈ system.shared.enrollments) :
      (∃ old ∈ system.shared.enrollments, old.id = row.id ∧
        (old.status = .pending ∨ row.status = old.status)) ∨ system.shared.nextId ≤ row.id :=
    .inl ⟨row, member, rfl, .inr rfl⟩
  have overwrites {old : NodeEnrollment} {id : Nat} (stored : old ∈ system.shared.enrollments)
      (same : old.id = id) (safe : system.shared.holds unsettled id = true) :
      old.status = .pending ∨ old.status = .revoked := by
    simpa [unsettled] using holds_row safe stored same
  cases transition with
  | begin i request fresh => exact ⟨Nat.le_refl _, stays⟩
  | stop i op rest session found awaits => cases awaits
  | abort i session live => exact ⟨Nat.le_refl _, stays⟩
  | perform i answer op rest session reply shared found reacts =>
      refine ⟨(effect_accepted (effect reacts)).2, fun row member => ?_⟩
      obtain ⟨old, stored, same, status | ⟨revoked, loaded, error, url, rfl, own, burns⟩⟩ :=
        effect_rows (effect reacts) row member
      · exact .inl ⟨old, stored, same, .inr status⟩
      · have safe := burn_safe meets ⟨rest, found⟩ burns
        refine .inl ⟨old, stored, same, (overwrites stored own.symm safe).imp_right ?_⟩
        exact fun before => revoked.trans before.symm
  | commit i session shared ending commits =>
      have booked := holds.2 i session ending.live
      refine ⟨Shared.Accounted.commit_nextId commits, fun row member => ?_⟩
      rcases commit_rows holds.1 booked (kept.settled ending) commits row member with
        ⟨old, stored, same, _, moves⟩ | ⟨high, _⟩
      · refine .inl ⟨old, stored, same, ?_⟩
        cases moves with
        | stays status => exact .inr status
        | expires pending now | consumes sourceIp claims pending now => exact .inl pending
        | revokes loaded actor revokes own now =>
            have safe := revoke_safe meets ending.live revokes
            exact (overwrites stored own.symm safe).imp_right fun before => now.trans before.symm
      · exact .inr high
  | change edit =>
      refine ⟨Nat.le_of_eq (changed_accepted (Shared.changed system.shared edit)).2.symm, ?_⟩
      intro row member
      have changed := Shared.changed system.shared edit
      exact stays row (changed_subset changed row member)

/-- The status of an invitation moves from PENDING to one other and never again,
and one that made a node is CONSUMED, in every schedule in which revocations find
pending or revoked rows only. -/
theorem status_settles_once (settings : Settings) (earlier later : EnrollmentSystem settings)
    (reached : System.Reaches (RevokesOver unsettled) (emptySystem settings) earlier)
    (goes : System.Reaches (RevokesOver unsettled) earlier later) :
    (∀ row ∈ earlier.shared.enrollments, ∀ now ∈ later.shared.enrollments, now.id = row.id →
      row.status = .pending ∨ now.status = row.status) ∧
    (∀ row ∈ later.shared.enrollments, ∀ entry ∈ later.shared.accepted,
      entry.enrollmentId = row.id → row.status = .consumed) := by
  refine ⟨?_, consumed_reached rfl (reached.trans goes)⟩
  have run : earlier.shared.nextId ≤ later.shared.nextId ∧
      ∀ row ∈ earlier.shared.enrollments, ∀ now ∈ later.shared.enrollments, now.id = row.id →
        row.status = .pending ∨ now.status = row.status := by
    induction goes with
    | start =>
        refine ⟨Nat.le_refl _, fun row member now listed same => ?_⟩
        rw [Shared.row_unique (booked_reached reached).1 member listed same]
        exact .inr rfl
    | step label goes meets stepped ih =>
        obtain ⟨low, settles⟩ := ih
        have before := reached.trans goes
        obtain ⟨next, rows⟩ := transition_rows (booked_reached before)
          (Discipline.kept_reached _ (fun _ => rfl) _ before) meets (System.step_transition stepped)
        refine ⟨low.trans next, fun row member now listed same => ?_⟩
        rcases rows now listed with ⟨old, stored, alike, status⟩ | high
        · rcases settles row member old stored (alike.trans same) with pending | settled
          · exact .inl pending
          · rcases status with pending | status
            · exact .inl (settled ▸ pending)
            · exact .inr (status.trans settled)
        · have below := (booked_reached reached).1.below row member
          exact absurd (same ▸ high) (by omega)
  exact run.2

end Runs

/-! ## Schedules

A site that lets a token fail once, and hosts that enrol with one. -/

def site : Settings where
  hash token := token
  encrypt token := token
  tokenTtlSeconds := 3600
  maxAttemptsPerToken := 1
  defaultAgentPort := 9100
  requireSourceIpMatch := false
  allowNodeNameMismatch := false
  enrollDisabled := false

abbrev SiteLabel := Label (enrollmentMachine site)

def quiet (i n : Nat) : List SiteLabel := List.replicate n (.perform i .nothing)

def issues (i : Nat) (name token : String) : List SiteLabel :=
  [.begin i (.create ⟨name, none, [], true, none, false⟩ 9), .perform i (.time 0)] ++ quiet i 2 ++
    [.perform i (.minted ⟨token, "0a1b2c3d", 0⟩)] ++ quiet i 1 ++ [.commit i]

def presents (i : Nat) (token : String) : List SiteLabel :=
  [.begin i (.enroll ⟨token, "0123456789abcdef0123456789abcdef", some "http://gpu:9100", none, none⟩),
    .perform i (.time 1), .perform i (.resolved (.ok ⟨"http://gpu:9100", "gpu", ["10.0.0.5"]⟩))]

def answers (i : Nat) : SiteLabel := .perform i (.health (.ok ⟨none, 1, none, none⟩))

def accepts (i : Nat) : List SiteLabel :=
  quiet i 1 ++ [.perform i (.time 1)] ++ quiet i 5 ++ [.commit i]

/-- The probe fails, and `_fail` counts the attempt. -/
def fails (i : Nat) : List SiteLabel :=
  [.perform i (.health (.error (.refused "timed out")))] ++ quiet i 2

theorem site_reached {system : EnrollmentSystem site} (labels : List SiteLabel)
    (check : EnrollmentSystem site → Bool)
    (checked : (system.replay (fun _ _ => true) labels).any check = true) :
    ∃ final, System.Reaches (anyStep site) system final ∧ check final = true :=
  System.reaches_checked labels check .start (fun _ _ _ => trivial) checked

theorem site_meets {safe : EnrollmentStatus → Bool} {system : EnrollmentSystem site}
    (labels : List SiteLabel) (check : EnrollmentSystem site → Bool)
    (checked : (system.replay (revokesOver safe) labels).any check = true) :
    ∃ final, System.Reaches (RevokesOver safe) system final ∧ check final = true :=
  System.reaches_checked labels check .start (fun _ _ meets => meets) checked

def invited : List SiteLabel := issues 0 "gpu-1" "first" ++ issues 1 "gpu-2" "second"

def revokes (i id : Nat) : List SiteLabel :=
  [.begin i (.revoke id 9)] ++ quiet i 2 ++ [.commit i]

/-- One host enrols, and the other invitation is revoked. -/
theorem enrolled_is_single_use : ∃ system : EnrollmentSystem site,
    system.shared.accepted ≠ [] ∧ (∃ row ∈ system.shared.enrollments, row.status = .revoked) ∧
      ∀ row ∈ system.shared.enrollments, row.status = .consumed ↔
        ∃ entry ∈ system.shared.accepted, entry.enrollmentId = row.id := by
  obtain ⟨system, reached, checked⟩ := @site_meets notConsumed (emptySystem site)
    (invited ++ presents 2 "first" ++ [answers 2] ++ accepts 2 ++ revokes 3 1)
    (fun system => !system.shared.accepted.isEmpty &&
      system.shared.enrollments.any fun row => row.status = .revoked)
    (by decide +kernel)
  simp only [Bool.and_eq_true, Bool.not_eq_true', List.any_eq_true, decide_eq_true_eq,
    List.isEmpty_eq_false_iff] at checked
  exact ⟨system, checked.1, checked.2, (token_is_single_use site system reached).2.1⟩

/-- Two hosts present one token. The first enrols, then the probe of the second
fails, and the token is burnt: it made a node and is revoked. -/
theorem burnt_after_enrolment : ∃ system : EnrollmentSystem site,
    System.Reaches (anyStep site) (emptySystem site) system ∧
      ∃ row ∈ system.shared.enrollments, row.status = .revoked ∧
        ∃ entry ∈ system.shared.accepted, entry.enrollmentId = row.id := by
  obtain ⟨system, reached, checked⟩ := @site_reached (emptySystem site)
    (issues 0 "gpu-1" "first" ++ presents 1 "first" ++ presents 2 "first" ++ [answers 1] ++
      accepts 1 ++ fails 2)
    (fun system => system.shared.enrollments.any fun row => row.status = .revoked &&
      system.shared.accepted.any fun entry => entry.enrollmentId = row.id)
    (by decide +kernel)
  simp only [Bool.and_eq_true, List.any_eq_true, decide_eq_true_eq] at checked
  exact ⟨system, reached, checked⟩

/-- One host enrols, and then the other invitation is revoked. -/
theorem enrolled_settles_once : ∃ earlier later : EnrollmentSystem site,
    (∃ row ∈ earlier.shared.enrollments, row.status = .consumed) ∧
      (∀ row ∈ earlier.shared.enrollments, ∀ now ∈ later.shared.enrollments, now.id = row.id →
        row.status = .pending ∨ now.status = row.status) ∧
      ∀ row ∈ later.shared.enrollments, ∀ entry ∈ later.shared.accepted,
        entry.enrollmentId = row.id → row.status = .consumed := by
  obtain ⟨earlier, reached, checked⟩ := @site_meets unsettled (emptySystem site)
    (invited ++ presents 2 "first" ++ [answers 2] ++ accepts 2)
    (fun system => (system.shared.enrollments.any fun row => row.status = .consumed) &&
      (system.replay (revokesOver unsettled) (revokes 3 1)).isSome)
    (by decide +kernel)
  simp only [Bool.and_eq_true, List.any_eq_true, decide_eq_true_eq] at checked
  obtain ⟨later, goes⟩ := Option.isSome_iff_exists.mp checked.2
  exact ⟨earlier, later, checked.1, status_settles_once site earlier later reached
    (System.reaches_replay _ .start (fun _ _ meets => meets) goes)⟩

/-- A revocation reads the invitation while it is pending. The host enrols, and the
revocation then commits over the consumed row. -/
theorem revoked_after_enrolment : ∃ earlier later : EnrollmentSystem site,
    System.Reaches (anyStep site) (emptySystem site) earlier ∧
      System.Reaches (anyStep site) earlier later ∧
        ∃ row ∈ earlier.shared.enrollments, ∃ now ∈ later.shared.enrollments, now.id = row.id ∧
          row.status = .consumed ∧ now.status = .revoked := by
  obtain ⟨earlier, reached, checked⟩ := @site_reached (emptySystem site)
    (issues 0 "gpu-1" "first" ++ presents 1 "first" ++ [answers 1, .begin 2 (.revoke 0 9)] ++
      quiet 2 2 ++ accepts 1)
    (fun system => system.shared.enrollments.any fun row => row.status = .consumed &&
      (system.step (.commit 2)).any fun next => next.shared.enrollments.any fun now =>
        now.id = row.id && now.status = .revoked)
    (by decide +kernel)
  simp only [Bool.and_eq_true, List.any_eq_true, Option.any_eq_true, decide_eq_true_eq] at checked
  obtain ⟨row, stored, consumed, later, committed, now, listed, same, revoked⟩ := checked
  exact ⟨earlier, later, reached, .step _ .start trivial committed, row, stored, now, listed, same,
    consumed, revoked⟩

end AiPlatform.Enrollments
