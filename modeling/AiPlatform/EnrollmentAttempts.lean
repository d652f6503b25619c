import AiPlatform.SingleUse
import Mathlib.Data.List.Perm.Subperm

/-!
The attempts on one invitation along every schedule. `resolve_token` compares
the stored counter with the limit before the probe, and `_fail` adds one to the
counter that it read on a session of its own. The limit bounds the probes, and
the counter counts the failures, where the attempts under way are few enough,
no other failure comes between the read and the write of `_fail`, and no attempt
fails without it.
-/

namespace AiPlatform.Enrollments

def onInvitation (id : Nat) (attempt : Nat × Nat) : Bool := attempt.2 = id

namespace Shared

def failures (shared : Shared) (id : Nat) : Nat := shared.failed.countP (onInvitation id)

def pendings (shared : Shared) (id : Nat) : Nat := shared.underway.countP (onInvitation id)

def fruitless (shared : Shared) (id : Nat) : Nat :=
  (shared.probes.filter fun attempt => onInvitation id attempt &&
    shared.accepted.all fun entry => entry.process ≠ attempt.1).length

end Shared

section Logged

variable {settings : Settings}

theorem resolved_attempt {session : Session} {reply : Option NodeEnrollment × Int}
    (found : session.attempt ≠ none) : (session.resolved settings reply).attempt ≠ none := by
  obtain ⟨row, now⟩ := reply
  cases row with
  | none => exact found
  | some row =>
      simp only [Session.resolved]
      split
      · exact Option.some_ne_none _
      · exact found

theorem after_attempt {session : Session} {op : Op} (reply : Reply op)
    (found : session.attempt ≠ none) : (session.after settings op reply).attempt ≠ none := by
  cases op with
  | byTokenHash tokenHash => exact resolved_attempt found
  | record loaded error url => cases reply <;> exact found
  | _ => exact found

theorem effect_attempts {i : Nat} {session : Session} {shared after : Shared} {op : Op}
    {reply : Reply op} (effect : Effect settings i session shared op reply after) :
    (∀ attempt ∈ after.underway, attempt ∈ shared.underway ∨
      attempt.1 = i ∧ (session.after settings op reply).attempt ≠ none) ∧
    (∀ attempt ∈ after.probes, attempt ∈ shared.probes ∨
      attempt.1 = i ∧ (session.after settings op reply).attempt ≠ none) := by
  cases effect with
  | read | gone | newNode | claimed | expired | purged =>
      exact ⟨fun _ member => .inl member, fun _ member => .inl member⟩
  | recorded loaded error url free =>
      exact ⟨fun _ member => .inl (List.mem_of_mem_erase member), fun _ member => .inl member⟩
  | probed agentUrl agentToken verifyTls result =>
      refine ⟨fun _ member => .inl member, fun attempt member => ?_⟩
      rcases List.mem_append.mp member with old | new
      · exact .inl old
      · obtain ⟨row, found, rfl⟩ := List.mem_map.mp new
        refine .inr ⟨rfl, ?_⟩
        simp only [Session.after, ne_eq]
        rw [Option.mem_toList.mp found]
        exact Option.some_ne_none _
  | resolved tokenHash now =>
      generalize (shared.seen session).find? (fun row => row.tokenHash = tokenHash) = found
      cases found with
      | none => exact ⟨fun _ member => .inl member, fun _ member => .inl member⟩
      | some row =>
          simp only [Shared.attempting]
          split
          · rename_i live
            refine ⟨fun attempt member => ?_, fun _ member => .inl member⟩
            rcases List.mem_append.mp member with old | new
            · exact .inl old
            · rw [List.mem_singleton.mp new]
              refine .inr ⟨rfl, ?_⟩
              simp [Session.after, Session.resolved, live.2]
          · exact ⟨fun _ member => .inl member, fun _ member => .inl member⟩

def Logged (system : EnrollmentSystem settings) : Prop :=
  ∀ attempt, attempt ∈ system.shared.underway ∨ attempt ∈ system.shared.probes →
    ∃ process, system.processes attempt.1 = some process ∧
      Session.attempt process.session ≠ none

theorem commit_logs {i : Nat} {session : Session} {shared after : Shared}
    (committed : shared.commit i session = some after) :
    (∀ attempt ∈ after.underway, attempt ∈ shared.underway) ∧ after.probes = shared.probes ∧
      after.failed = shared.failed := by
  obtain ⟨wrote, found, rfl⟩ := Shared.commit_writeAll committed
  have kept := Shared.writeAll_keeps
    (fun store => (∀ attempt ∈ store.underway, attempt ∈ shared.underway) ∧
      store.probes = shared.probes ∧ store.failed = shared.failed)
    ⟨fun _ member => member, rfl, rfl⟩ (fun store write _ before _ => ?_) found
  · exact kept
  · obtain ⟨underway, probes, failed⟩ := before
    refine ⟨fun attempt member => underway attempt ?_, (Shared.written_probes write).trans probes,
      (Shared.written_failed write).trans failed⟩
    cases write with
    | accept id existing node => exact List.mem_of_mem_filter member
    | claim | expire | purge | revoke | describe | link | issue => exact member

theorem changed_logs {shared after : Shared} (changed : Shared.Changed shared after) :
    after.underway = shared.underway ∧ after.probes = shared.probes ∧
      after.failed = shared.failed := by
  cases changed with
  | same | added | removed => exact ⟨rfl, rfl, rfl⟩

theorem logged_reached {ok : EnrollmentSystem settings → Label (enrollmentMachine settings) → Prop}
    (system : EnrollmentSystem settings)
    (reached : System.Reaches ok (emptySystem settings) system) : Logged system := by
  refine System.reaches_induction (@Logged settings) ?_ ?_ system reached
  · rintro attempt (member | member) <;> cases member
  intro system label next _ logged _ transition
  cases transition with
  | begin i request fresh =>
      intro attempt member
      obtain ⟨process, found, attempted⟩ := logged attempt member
      have apart : attempt.1 ≠ i := by
        intro same
        rw [same, fresh] at found
        cases found
      exact ⟨process, (System.put_other _ _ _ _ _ apart).trans found, attempted⟩
  | perform i answer op rest session reply shared found reacts =>
      obtain ⟨underway, probes⟩ := effect_attempts (effect reacts)
      intro attempt member
      have either : attempt ∈ system.shared.underway ∨ attempt ∈ system.shared.probes ∨
          attempt.1 = i ∧ (session.after settings op reply).attempt ≠ none := by
        rcases member with member | member
        · rcases underway attempt member with old | new
          · exact .inl old
          · exact .inr (.inr new)
        · exact .inr (probes attempt member)
      by_cases own : attempt.1 = i
      · rw [own]
        refine ⟨_, System.put_same _ _ _ _, ?_⟩
        rcases either with old | old | new
        · obtain ⟨process, there, attempted⟩ := logged attempt (.inl old)
          rw [own, found] at there
          cases there
          exact after_attempt reply attempted
        · obtain ⟨process, there, attempted⟩ := logged attempt (.inr old)
          rw [own, found] at there
          cases there
          exact after_attempt reply attempted
        · exact new.2
      · have before : attempt ∈ system.shared.underway ∨ attempt ∈ system.shared.probes := by
          rcases either with old | old | new
          · exact .inl old
          · exact .inr old
          · exact absurd new.1 own
        obtain ⟨process, there, attempted⟩ := logged attempt before
        exact ⟨process, (System.put_other _ _ _ _ _ own).trans there, attempted⟩
  | stop i op rest session found awaits => cases awaits
  | commit i session shared ending commits =>
      obtain ⟨underway, probes, _⟩ := commit_logs commits
      intro attempt member
      obtain ⟨process, there, attempted⟩ := logged attempt
        (member.imp (underway attempt) fun listed => probes ▸ listed)
      by_cases own : attempt.1 = i
      · rw [own] at there ⊢
        refine ⟨_, System.put_same _ _ _ _, ?_⟩
        rcases ending with found | found <;> rw [found] at there <;> cases there <;> exact attempted
      · exact ⟨process, (System.put_other _ _ _ _ _ own).trans there, attempted⟩
  | abort i session live =>
      intro attempt member
      obtain ⟨process, there, attempted⟩ := logged attempt
        (member.imp_left List.mem_of_mem_filter)
      by_cases own : attempt.1 = i
      · rw [own] at there ⊢
        obtain ⟨other, found, same, _⟩ := live
        refine ⟨_, System.put_same _ _ _ _, ?_⟩
        rw [found] at there
        cases there
        exact same ▸ attempted
      · exact ⟨process, (System.put_other _ _ _ _ _ own).trans there, attempted⟩
  | change edit =>
      obtain ⟨underway, probes, _⟩ := changed_logs (Shared.changed system.shared edit)
      intro attempt member
      exact logged attempt (member.imp (fun listed => underway ▸ listed) fun listed => probes ▸ listed)

end Logged

section Counted

variable {settings : Settings}

/-- A look-up finds a live invitation only while the attempts counted and those
under way are fewer than the limit; `_fail` writes the counter over the one it
read; and a request that found an invitation live is rolled back only after
`_fail` has counted it, or once the invitation is gone. -/
def countsAttempts (system : EnrollmentSystem settings) : Label (enrollmentMachine settings) → Bool
  | .perform i answer =>
      match system.op? i, system.session? i, answer with
      | some (.byTokenHash tokenHash), some session, .time now =>
          ((system.shared.seen session).find? fun row => row.tokenHash = tokenHash).all fun row =>
            !(Request.enrolls (Session.request session) && settings.denies row now = none) ||
              decide (row.attempts + system.shared.pendings row.id < settings.maxAttemptsPerToken)
      | some (.record loaded _ _), _, _ =>
          system.shared.enrollments.all fun row =>
            row.id ≠ loaded.id || row.attempts = loaded.attempts
      | _, _, _ => true
  | .abort i =>
      system.shared.underway.all fun attempt => attempt.1 ≠ i ||
        system.shared.enrollments.all fun row => row.id ≠ attempt.2
  | .begin _ _ | .stop _ | .commit _ | .change _ => true

def CountsAttempts (system : EnrollmentSystem settings)
    (label : Label (enrollmentMachine settings)) : Prop :=
  countsAttempts system label = true

variable {system : EnrollmentSystem settings} {i : Nat} {session : Session}

theorem lookup_fits {tokenHash : String} {now : Int} {row : NodeEnrollment}
    (meets : CountsAttempts system (.perform i (.time now)))
    (performing : system.Performing i (.byTokenHash tokenHash) session)
    (found : ((system.shared.seen session).find? fun row => row.tokenHash = tokenHash) = some row)
    (live : session.request.enrolls = true ∧ settings.denies row now = none) :
    row.attempts + system.shared.pendings row.id < settings.maxAttemptsPerToken := by
  simp only [CountsAttempts, countsAttempts, performing.op?, performing.live.session?, found,
    Option.all_some, live.1, live.2, decide_true, Bool.and_self, Bool.not_true, Bool.false_or,
    decide_eq_true_eq] at meets
  exact meets

theorem record_fits {answer : Answer} {loaded : NodeEnrollment} {error : String}
    {url : Option String} (meets : CountsAttempts system (.perform i answer))
    (performing : system.Performing i (.record loaded error url) session) :
    ∀ row ∈ system.shared.enrollments, row.id = loaded.id → row.attempts = loaded.attempts := by
  simp only [CountsAttempts, countsAttempts, performing.op?] at meets
  intro row member same
  have either := List.all_eq_true.mp meets row member
  simpa [same] using either

theorem abort_counted (meets : CountsAttempts system (.abort i)) :
    ∀ attempt ∈ system.shared.underway, attempt.1 = i →
      ∀ row ∈ system.shared.enrollments, row.id ≠ attempt.2 := by
  intro attempt member own row listed
  have either := List.all_eq_true.mp meets attempt member
  simp only [own, ne_eq, not_true_eq_false, decide_false, Bool.false_or, List.all_eq_true,
    decide_eq_true_eq] at either
  exact either row listed

structure Shared.Tallied (settings : Settings) (shared : Shared) : Prop where
  counted : ∀ row ∈ shared.enrollments, row.attempts = shared.failures row.id
  below : ∀ attempt, attempt ∈ shared.failed ∨ attempt ∈ shared.underway →
    attempt.2 < shared.nextId
  bounded : ∀ id, shared.failures id + shared.pendings id ≤ settings.maxAttemptsPerToken
  distinct : shared.probes.Nodup
  probed : ∀ attempt ∈ shared.probes, attempt ∈ shared.failed ∨ attempt ∈ shared.underway ∨
    ∃ entry ∈ shared.accepted, entry.process = attempt.1

structure Attempted (i : Nat) (session : Session) (shared : Shared) : Prop where
  underway : ∀ row, session.attempt = some row → session.request.enrolls = true →
    session.recorded = false → (i, row.id) ∈ shared.underway
  unprobed : ∀ row, session.attempt = some row → session.probed = false →
    (i, row.id) ∉ shared.probes

namespace Attempted

variable {shared after : Shared}

theorem alike {session : Session} (attempted : Attempted i session shared) (later : Session)
    (attempt : later.attempt = session.attempt) (request : later.request = session.request)
    (probed : later.probed = session.probed) (recorded : later.recorded = session.recorded) :
    Attempted i later shared where
  underway := by
    rw [attempt, request, recorded]
    exact attempted.underway
  unprobed := by
    rw [attempt, probed]
    exact attempted.unprobed

theorem other {j : Nat} {session : Session} (attempted : Attempted j session shared)
    (underway : ∀ id, (j, id) ∈ shared.underway → (j, id) ∈ after.underway)
    (probes : ∀ id, (j, id) ∈ after.probes → (j, id) ∈ shared.probes) :
    Attempted j session after where
  underway := fun row attempt enrolls recorded =>
    underway row.id (attempted.underway row attempt enrolls recorded)
  unprobed := fun row attempt unprobed member =>
    attempted.unprobed row attempt unprobed (probes row.id member)

end Attempted

namespace Shared.Tallied

variable {shared after : Shared}

theorem same (tallied : shared.Tallied settings)
    (rows : ∀ row ∈ after.enrollments, (∃ old ∈ shared.enrollments, old.id = row.id ∧
      row.attempts = old.attempts) ∨ shared.nextId ≤ row.id ∧ row.attempts = 0)
    (failed : after.failed = shared.failed) (underway : after.underway = shared.underway)
    (probes : after.probes = shared.probes) (accepted : after.accepted = shared.accepted)
    (low : shared.nextId ≤ after.nextId) : after.Tallied settings where
  counted := by
    intro row member
    rw [failures, failed]
    rcases rows row member with ⟨old, stored, same, attempts⟩ | ⟨high, zero⟩
    · rw [attempts, ← same]
      exact tallied.counted old stored
    · rw [zero, eq_comm, List.countP_eq_zero]
      intro attempt listed
      have below := tallied.below attempt (.inl listed)
      simp only [onInvitation, decide_eq_true_eq]
      omega
  below := by
    rw [failed, underway]
    exact fun attempt member => Nat.lt_of_lt_of_le (tallied.below attempt member) low
  bounded := by
    simp only [failures, pendings, failed, underway]
    exact tallied.bounded
  distinct := probes ▸ tallied.distinct
  probed := by
    rw [probes, failed, underway, accepted]
    exact tallied.probed

theorem attempting (tallied : shared.Tallied settings) (i : Nat) {row : NodeEnrollment}
    (stored : row.id < shared.nextId)
    (fits : shared.failures row.id + shared.pendings row.id < settings.maxAttemptsPerToken) :
    { shared with underway := shared.underway ++ [(i, row.id)] }.Tallied settings where
  counted := tallied.counted
  below := by
    rintro attempt (old | listed)
    · exact tallied.below attempt (.inl old)
    · rcases List.mem_append.mp listed with old | new
      · exact tallied.below attempt (.inr old)
      · rw [List.mem_singleton.mp new]
        exact stored
  bounded := by
    intro id
    have before := tallied.bounded id
    simp only [failures, pendings, List.countP_append, List.countP_singleton,
      onInvitation] at before fits ⊢
    by_cases same : row.id = id
    · subst same
      simp only [decide_true, if_true]
      omega
    · simp only [same, decide_false, Bool.false_eq_true, if_false]
      omega
  distinct := tallied.distinct
  probed := by
    intro attempt member
    rcases tallied.probed attempt member with failed | underway | accepted
    · exact .inl failed
    · exact .inr (.inl (List.mem_append_left _ underway))
    · exact .inr (.inr accepted)

theorem probing (tallied : shared.Tallied settings) {attempt : Nat × Nat}
    (underway : attempt ∈ shared.underway) (fresh : attempt ∉ shared.probes) :
    { shared with probes := shared.probes ++ [attempt] }.Tallied settings where
  counted := tallied.counted
  below := tallied.below
  bounded := tallied.bounded
  distinct := by
    refine tallied.distinct.append (List.nodup_singleton attempt) fun other old new => ?_
    rw [List.mem_singleton.mp new] at old
    exact fresh old
  probed := by
    intro other member
    rcases List.mem_append.mp member with old | new
    · exact tallied.probed other old
    · rw [List.mem_singleton.mp new]
      exact .inr (.inl underway)

/-- `_fail` counts an attempt that was under way. -/
theorem recording (tallied : shared.Tallied settings) {i : Nat} {loaded : NodeEnrollment}
    {error : String} {url : Option String} (underway : (i, loaded.id) ∈ shared.underway)
    (current : ∀ row ∈ shared.enrollments, row.id = loaded.id → row.attempts = loaded.attempts) :
    { shared with
      enrollments := Rows.amend NodeEnrollment.id loaded.id (settings.recorded loaded error url)
        shared.enrollments
      underway := shared.underway.erase (i, loaded.id)
      failed := shared.failed ++ [(i, loaded.id)] }.Tallied settings where
  counted := by
    intro row member
    simp only [failures, List.countP_append, List.countP_singleton, onInvitation]
    rcases Rows.mem_amend.mp member with ⟨old, listed, keyed, rfl⟩ | ⟨listed, apart⟩
    · have counted := tallied.counted old listed
      have read := current old listed keyed
      simp only [failures] at counted
      have attempts : (settings.recorded loaded error url old).attempts = loaded.attempts + 1 := by
        simp only [Settings.recorded, Settings.failed]
        split <;> rfl
      have same : (settings.recorded loaded error url old).id = loaded.id := keyed
      rw [attempts, same, ← read, counted, keyed]
      simp
    · rw [tallied.counted row listed, failures]
      simp [Ne.symm apart]
  below := by
    rintro attempt (listed | listed)
    · rcases List.mem_append.mp listed with old | new
      · exact tallied.below attempt (.inl old)
      · rw [List.mem_singleton.mp new]
        exact tallied.below _ (.inr underway)
    · exact tallied.below attempt (.inr (List.mem_of_mem_erase listed))
  bounded := by
    intro id
    have before := tallied.bounded id
    have split := (List.perm_cons_erase underway).countP_eq (onInvitation id)
    simp only [failures, pendings, List.countP_append, List.countP_singleton] at before ⊢
    rw [List.countP_cons] at split
    omega
  distinct := tallied.distinct
  probed := by
    intro attempt member
    rcases tallied.probed attempt member with failed | listed | accepted
    · exact .inl (List.mem_append_left _ failed)
    · by_cases own : attempt = (i, loaded.id)
      · rw [own]
        exact .inl (List.mem_append_right _ (List.mem_singleton_self _))
      · exact .inr (.inl ((List.mem_erase_of_ne own).mpr listed))
    · exact .inr (.inr accepted)

theorem releasing (tallied : shared.Tallied settings) {i : Nat}
    (gone : ∀ attempt ∈ shared.underway, attempt.1 = i →
      ∀ row ∈ shared.enrollments, row.id ≠ attempt.2) : (shared.release i).Tallied settings where
  counted := by
    intro row member
    have none : (shared.underway.filter fun attempt => attempt.1 = i).countP
        (onInvitation row.id) = 0 := by
      refine List.countP_eq_zero.mpr fun attempt listed => ?_
      obtain ⟨underway, own⟩ := List.mem_filter.mp listed
      have apart := gone attempt underway (of_decide_eq_true own) row member
      simp [onInvitation, Ne.symm apart]
    simp only [failures, release, List.countP_append, none, Nat.add_zero]
    exact tallied.counted row member
  below := by
    rintro attempt (listed | listed)
    · rcases List.mem_append.mp listed with old | new
      · exact tallied.below attempt (.inl old)
      · exact tallied.below attempt (.inr (List.mem_of_mem_filter new))
    · exact tallied.below attempt (.inr (List.mem_of_mem_filter listed))
  bounded := by
    intro id
    have before := tallied.bounded id
    have parts : shared.underway.countP (onInvitation id) =
        (shared.underway.filter fun attempt => attempt.1 = i).countP (onInvitation id) +
          (shared.underway.filter fun attempt => attempt.1 ≠ i).countP (onInvitation id) := by
      have split := List.countP_eq_countP_filter_add shared.underway (onInvitation id)
        fun attempt => decide (attempt.1 = i)
      simpa using split
    simp only [failures, pendings, release, List.countP_append] at before ⊢
    omega
  distinct := tallied.distinct
  probed := by
    intro attempt member
    rcases tallied.probed attempt member with failed | listed | accepted
    · exact .inl (List.mem_append_left _ failed)
    · by_cases own : attempt.1 = i
      · refine .inl (List.mem_append_right _ (List.mem_filter.mpr ⟨listed, ?_⟩))
        exact decide_eq_true own
      · refine .inr (.inl (List.mem_filter.mpr ⟨listed, ?_⟩))
        exact decide_eq_true own
    · exact .inr (.inr accepted)

theorem accepting (tallied : shared.Tallied settings) {i : Nat}
    (rows : ∀ row ∈ after.enrollments, (∃ old ∈ shared.enrollments, old.id = row.id ∧
      row.attempts = old.attempts) ∨ shared.nextId ≤ row.id ∧ row.attempts = 0)
    (failed : after.failed = shared.failed)
    (underway : after.underway = shared.underway.filter fun attempt => attempt.1 ≠ i)
    (probes : after.probes = shared.probes)
    (accepted : ∀ entry ∈ shared.accepted, entry ∈ after.accepted)
    (own : ∃ entry ∈ after.accepted, entry.process = i) (low : shared.nextId ≤ after.nextId) :
    after.Tallied settings where
  counted := by
    have kept : { after with underway := shared.underway, accepted := shared.accepted }.Tallied
        settings := tallied.same rows failed rfl probes rfl low
    exact kept.counted
  below := by
    rw [failed, underway]
    rintro attempt (old | listed)
    · exact Nat.lt_of_lt_of_le (tallied.below attempt (.inl old)) low
    · exact Nat.lt_of_lt_of_le (tallied.below attempt (.inr (List.mem_of_mem_filter listed))) low
  bounded := by
    intro id
    have fewer := (List.filter_sublist (l := shared.underway)
      (p := fun attempt => decide (attempt.1 ≠ i))).countP_le (p := onInvitation id)
    have before := tallied.bounded id
    simp only [failures, pendings, failed, underway] at before ⊢
    omega
  distinct := probes ▸ tallied.distinct
  probed := by
    rw [probes, failed, underway]
    intro attempt member
    rcases tallied.probed attempt member with old | listed | ⟨entry, listed, same⟩
    · exact .inl old
    · by_cases mine : attempt.1 = i
      · obtain ⟨entry, found, same⟩ := own
        exact .inr (.inr ⟨entry, found, same.trans mine.symm⟩)
      · exact .inr (.inl (List.mem_filter.mpr ⟨listed, decide_eq_true mine⟩))
    · exact .inr (.inr ⟨entry, accepted entry listed, same⟩)

end Shared.Tallied

def TallyKnown (ok : EnrollmentSystem settings → Label (enrollmentMachine settings) → Prop)
    (system : EnrollmentSystem settings) : Prop :=
  (bookedInvariant settings ok).Holds system ∧ Logged system

theorem commit_counters {shared after : Shared} (sound : shared.Sound)
    (booked : Booked i session shared) (complete : session.Complete)
    (committed : shared.commit i session = some after) :
    ∀ row ∈ after.enrollments, (∃ old ∈ shared.enrollments, old.id = row.id ∧
      row.attempts = old.attempts) ∨ shared.nextId ≤ row.id ∧ row.attempts = 0 := by
  intro row member
  rcases commit_rows sound booked complete committed row member with
    ⟨old, stored, same, attempts, _⟩ | ⟨high, _, zero⟩
  · exact .inl ⟨old, stored, same, attempts⟩
  · exact .inr ⟨high, zero⟩

theorem tally_commits (known : TallyKnown CountsAttempts system) (ending : system.Ending i session)
    (complete : session.Complete) (tallied : system.shared.Tallied settings) {after : Shared}
    (committed : system.shared.commit i session = some after) :
    after.Tallied settings ∧ (∀ j id, j ≠ i → (j, id) ∈ system.shared.underway →
      (j, id) ∈ after.underway) ∧ after.probes = system.shared.probes := by
  obtain ⟨⟨sound, sessions⟩, _⟩ := known
  have booked := sessions i session ending.live
  have rows := commit_counters sound booked complete committed
  have low := Shared.Accounted.commit_nextId committed
  obtain ⟨_, probes, failed⟩ := commit_logs committed
  cases commit_accepts booked complete committed with
  | none unclaimed enrolls accepted underway =>
      refine ⟨tallied.same rows failed underway probes accepted low, fun j id _ member => ?_, probes⟩
      rwa [underway]
  | node attempt sourceIp nodeId found claims accepted underway settles =>
      refine ⟨tallied.accepting rows failed underway probes ?_ ?_ low, ?_, probes⟩
      · rw [accepted]
        exact fun entry member => List.mem_append_left _ member
      · rw [accepted]
        exact ⟨_, List.mem_append_right _ (List.mem_singleton_self _), rfl⟩
      · intro j id different member
        rw [underway]
        exact List.mem_filter.mpr ⟨member, decide_eq_true different⟩

structure Tallies (settings : Settings) (i : Nat) (session : Session) (shared after : Shared) :
    Prop where
  tallied : after.Tallied settings
  attempted : Attempted i session after
  underway : ∀ j id, j ≠ i → (j, id) ∈ shared.underway → (j, id) ∈ after.underway
  probes : ∀ j id, j ≠ i → (j, id) ∈ after.probes → (j, id) ∈ shared.probes

theorem tallies_same {shared after : Shared} (tallied : shared.Tallied settings)
    (attempted : Attempted i session shared) (rows : after.enrollments = shared.enrollments)
    (failed : after.failed = shared.failed) (underway : after.underway = shared.underway)
    (probes : after.probes = shared.probes) (accepted : after.accepted = shared.accepted)
    (low : shared.nextId ≤ after.nextId) : Tallies settings i session shared after where
  tallied := by
    refine tallied.same (fun row member => .inl ⟨row, rows ▸ member, rfl, rfl⟩) failed underway probes
      accepted low
  attempted := attempted.other (fun id member => underway ▸ member) fun id member => probes ▸ member
  underway := fun j id _ member => underway ▸ member
  probes := fun j id _ member => probes ▸ member

theorem tally_resolved {shared : Shared} {row : NodeEnrollment} (now : Int)
    (stored : row.id < shared.nextId)
    (fits : session.request.enrolls = true ∧ settings.denies row now = none →
      shared.failures row.id + shared.pendings row.id < settings.maxAttemptsPerToken)
    (unprobed : (i, row.id) ∉ shared.probes) (tallied : shared.Tallied settings)
    (attempted : Attempted i session shared) :
    Tallies settings i (session.resolved settings (some row, now)) shared
      (shared.attempting settings i session (some row, now)) := by
  simp only [Session.resolved, Shared.attempting]
  by_cases denied : settings.denies row now = none
  · by_cases enrolls : session.request.enrolls = true
    · rw [if_pos denied, if_pos ⟨enrolls, denied⟩]
      constructor
      · exact tallied.attempting i stored (fits ⟨enrolls, denied⟩)
      · constructor
        · rintro _ ⟨⟩ _ _
          exact List.mem_append_right _ (List.mem_singleton_self _)
        · rintro _ ⟨⟩ _
          exact unprobed
      · exact fun j id _ member => List.mem_append_left _ member
      · exact fun j id _ member => member
    · rw [if_pos denied, if_neg fun both => enrolls both.1]
      constructor
      · exact tallied
      · constructor
        · rintro _ _ again
          exact absurd again enrolls
        · rintro _ ⟨⟩ _
          exact unprobed
      · exact fun j id _ member => member
      · exact fun j id _ member => member
  · rw [if_neg denied, if_neg fun both => denied both.2]
    exact tallies_same tallied attempted rfl rfl rfl rfl rfl (Nat.le_refl _)

theorem tally_lookup (known : TallyKnown CountsAttempts system) {answer : Answer}
    {tokenHash : String} {reply : Reply (.byTokenHash tokenHash)} {after : Shared}
    (meets : CountsAttempts system (.perform i answer))
    (performing : system.Performing i (.byTokenHash tokenHash) session)
    (unresolved : session.attempt = none) (tallied : system.shared.Tallied settings)
    (attempted : Attempted i session system.shared)
    (reacts : system.shared.react settings i session (.byTokenHash tokenHash) answer =
      some (reply, after)) :
    Tallies settings i (session.after settings (.byTokenHash tokenHash) reply) system.shared
      after := by
  obtain ⟨⟨sound, sessions⟩, logged⟩ := known
  cases answer with
  | time now =>
      cases reacts
      cases found : (system.shared.seen session).find? fun row => row.tokenHash = tokenHash with
      | none => exact tallies_same tallied attempted rfl rfl rfl rfl rfl (Nat.le_refl _)
      | some row =>
          obtain ⟨old, stored, becomes⟩ := mem_seen (List.mem_of_find?_eq_some found)
          have below : row.id < system.shared.nextId := becomes.id ▸ sound.below old stored
          refine tally_resolved now below (fun live => ?_) (fun member => ?_) tallied attempted
          · have fits := lookup_fits meets performing found live
            rwa [becomes.attempts, tallied.counted old stored, ← becomes.id] at fits
          · obtain ⟨process, there, attempted⟩ := logged _ (.inr member)
            obtain ⟨rest, here⟩ := performing
            rw [here] at there
            cases there
            exact attempted unresolved
  | nothing | resolved | health | purged | minted => cases reacts

theorem tally_performs (known : TallyKnown CountsAttempts system) {answer : Answer} {op : Op}
    {reply : Reply op} {after : Shared} (meets : CountsAttempts system (.perform i answer))
    (performing : system.Performing i op session) (permitted : session.Permits op)
    (tallied : system.shared.Tallied settings) (attempted : Attempted i session system.shared)
    (reacts : system.shared.react settings i session op answer = some (reply, after)) :
    Tallies settings i (session.after settings op reply) system.shared after := by
  cases op with
  | byTokenHash tokenHash =>
      exact tally_lookup known meets performing permitted.1 tallied attempted reacts
  | byId | pendingForName | listFiltered | nodeById | nodeNamed | resolveUrl | readAgain | mint
  | syncNode =>
      cases effect reacts
      exact tallies_same tallied attempted rfl rfl rfl rfl rfl (Nat.le_refl _)
  | newNode =>
      cases effect reacts with
      | read _ _ reads => cases reads
      | newNode => exact tallies_same tallied attempted rfl rfl rfl rfl rfl (Nat.le_succ _)
  | claim | expireStale | purgeSettled =>
      have written := attempted.alike (session.after settings _ reply) rfl rfl rfl rfl
      cases effect reacts with
      | read _ _ reads => cases reads
      | _ => exact tallies_same tallied written rfl rfl rfl rfl rfl (Nat.le_refl _)
  | write write =>
      have written := attempted.alike (session.writing [write]) rfl rfl rfl rfl
      cases effect reacts
      exact tallies_same tallied written rfl rfl rfl rfl rfl (Nat.le_refl _)
  | raise failure => cases reply
  | probe agentUrl agentToken verifyTls =>
      obtain ⟨unprobed, row, attempting⟩ := permitted
      have underway := attempted.underway row attempting.attempt attempting.enrolls
        attempting.recorded
      have fresh := attempted.unprobed row attempting.attempt unprobed
      cases effect reacts with
      | read _ _ reads => cases reads
      | probed agentUrl agentToken verifyTls result =>
          simp only [attempting.attempt, Option.toList_some, List.map_cons, List.map_nil]
          constructor
          · exact tallied.probing underway fresh
          · constructor
            · exact attempted.underway
            · rintro _ _ again
              cases again
          · exact fun j id _ member => member
          · intro j id different member
            rcases List.mem_append.mp member with old | new
            · exact old
            · cases List.mem_singleton.mp new
              exact absurd rfl different
  | record loaded error url =>
      obtain ⟨row, attempting, same⟩ := permitted
      have underway := attempted.underway row attempting.attempt attempting.enrolls
        attempting.recorded
      rw [same] at underway
      cases effect reacts with
      | read _ _ reads => cases reads
      | gone => exact tallies_same tallied attempted rfl rfl rfl rfl rfl (Nat.le_refl _)
      | recorded loaded error url free =>
          constructor
          · exact tallied.recording underway (record_fits meets performing)
          · constructor
            · rintro _ _ _ again
              cases again
            · exact attempted.unprobed
          · intro j id different member
            refine (List.mem_erase_of_ne fun own => ?_).mpr member
            cases own
            exact different rfl
          · exact fun j id _ member => member

def tallyInvariant (settings : Settings) :
    Invariant (enrollmentDiscipline settings) CountsAttempts (TallyKnown CountsAttempts) where
  shared := Shared.Tallied settings
  session := Attempted
  begins _ _ _ _ _ _ := ⟨fun _ attempt => (nomatch attempt), fun _ attempt => (nomatch attempt)⟩
  performs system i answer op session reply after known meets performing permitted tallied own
      reacts := by
    have next := tally_performs known meets performing permitted tallied own reacts
    exact ⟨next.tallied, next.attempted, fun j other different _ before =>
      before.other (fun id => next.underway j id different) fun id => next.probes j id different⟩
  commits system i session after known meets ending complete tallied own committed := by
    obtain ⟨next, underway, probes⟩ := tally_commits known ending complete tallied committed
    exact ⟨next, fun j other different _ before =>
      before.other (fun id => underway j id different) fun id member => probes ▸ member⟩
  aborts system i session known meets live tallied own := by
    refine ⟨tallied.releasing (abort_counted meets), fun j other different _ before => ?_⟩
    refine before.other (fun id member => ?_) fun id member => member
    exact List.mem_filter.mpr ⟨member, decide_eq_true different⟩
  changes system change known meets tallied := by
    have changed := Shared.changed system.shared change
    obtain ⟨underway, probes, failed⟩ := changed_logs changed
    obtain ⟨accepted, low⟩ := changed_accepted changed
    refine ⟨tallied.same (fun row member => .inl ⟨row, changed_subset changed row member, rfl, rfl⟩)
      failed underway probes accepted (Nat.le_of_eq low.symm), fun j other _ before => ?_⟩
    exact before.other (fun id member => underway ▸ member) fun id member => probes ▸ member

theorem tallied_empty (settings : Settings) : Shared.empty.Tallied settings where
  counted := fun _ member => (nomatch member)
  below := by rintro attempt (member | member) <;> cases member
  bounded := fun _ => Nat.zero_le _
  distinct := List.nodup_nil
  probed := fun _ member => (nomatch member)

theorem Shared.Tallied.fruitless_le {shared : Shared} (tallied : shared.Tallied settings)
    (id : Nat) : shared.fruitless id ≤ shared.failures id + shared.pendings id := by
  have counts : shared.failures id + shared.pendings id =
      ((shared.failed ++ shared.underway).filter (onInvitation id)).length := by
    rw [Shared.failures, Shared.pendings, ← List.countP_append, List.countP_eq_length_filter]
  rw [counts, Shared.fruitless]
  refine (List.Nodup.subperm (tallied.distinct.filter _) fun attempt member => ?_).length_le
  obtain ⟨probed, wanted⟩ := List.mem_filter.mp member
  obtain ⟨on, without⟩ := Bool.and_eq_true_iff.mp wanted
  refine List.mem_filter.mpr ⟨?_, on⟩
  rcases tallied.probed attempt probed with failed | underway | ⟨entry, listed, same⟩
  · exact List.mem_append_left _ failed
  · exact List.mem_append_right _ underway
  · exact absurd same (of_decide_eq_true (List.all_eq_true.mp without entry listed))

end Counted

/-- The probes that a token causes without a node are no more than its attempts may
be, and the stored counter is the number of attempts that failed, in every
schedule that meets the condition. -/
theorem attempts_bound_probes (settings : Settings) (system : EnrollmentSystem settings)
    (reached : System.Reaches CountsAttempts (emptySystem settings) system) :
    (∀ id, system.shared.fruitless id ≤ settings.maxAttemptsPerToken) ∧
      ∀ row ∈ system.shared.enrollments, row.attempts = system.shared.failures row.id := by
  have tallied : system.shared.Tallied settings :=
    (@Invariant.reached _ _ _ _ _ (tallyInvariant settings) (emptySystem settings)
      (fun _ => rfl) (tallied_empty settings)
      (fun system reached => ⟨booked_reached reached, logged_reached system reached⟩) system
        reached).1
  exact ⟨fun id => (tallied.fruitless_le id).trans (tallied.bounded id), tallied.counted⟩

/-- A host fails once, and the token is burnt. -/
theorem failed_attempt_is_counted : ∃ system : EnrollmentSystem site,
    (∃ row ∈ system.shared.enrollments, row.attempts = 1 ∧ row.status = .revoked) ∧
      (∀ id, system.shared.fruitless id ≤ 1) ∧
        ∀ row ∈ system.shared.enrollments, row.attempts = system.shared.failures row.id := by
  obtain ⟨system, reached, checked⟩ := System.reaches_checked
    (issues 0 "gpu-1" "first" ++ presents 1 "first" ++ fails 1 ++ [.abort 1])
    (fun system : EnrollmentSystem site => system.shared.enrollments.any fun row =>
      row.attempts = 1 && row.status = .revoked)
    (@System.Reaches.start _ _ CountsAttempts (emptySystem site))
    (fun system label (meets : countsAttempts system label = true) => meets) (by decide +kernel)
  simp only [Bool.and_eq_true, List.any_eq_true, decide_eq_true_eq] at checked
  exact ⟨system, checked, attempts_bound_probes site system reached⟩

/-- Two hosts present one token before either has failed. Both are probed, although
one attempt is allowed, and each adds one to the same counter. -/
theorem probed_beyond_limit : ∃ system : EnrollmentSystem site,
    System.Reaches (anyStep site) (emptySystem site) system ∧
      ∃ row ∈ system.shared.enrollments, site.maxAttemptsPerToken < system.shared.fruitless row.id ∧
        row.attempts < system.shared.failures row.id := by
  obtain ⟨system, reached, checked⟩ := @site_reached (emptySystem site)
    (issues 0 "gpu-1" "first" ++ presents 1 "first" ++ presents 2 "first" ++
      [.perform 1 (.health (.error (.refused "timed out"))),
        .perform 2 (.health (.error (.refused "timed out")))] ++
          quiet 1 1 ++ quiet 2 1 ++ quiet 1 1 ++ quiet 2 1)
    (fun system => system.shared.enrollments.any fun row =>
      site.maxAttemptsPerToken < system.shared.fruitless row.id &&
        decide (row.attempts < system.shared.failures row.id))
    (by decide +kernel)
  simp only [Bool.and_eq_true, List.any_eq_true, decide_eq_true_eq] at checked
  exact ⟨system, reached, checked⟩

end AiPlatform.Enrollments
