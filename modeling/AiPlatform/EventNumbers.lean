import AiPlatform.AgentOwnership

/-!
The events of a run. The counter is threaded by hand through the loop, the
retrieval and the checkpoint, so the invariant relates three numbers: the
events that are committed, the number a session started from, and the number a
committed suspension resumes at.
-/

namespace AiPlatform.Agents

def sequences (events : List AgentRunEvent) : List Nat := events.map (·.sequence)

/-- The events are numbered from `first` on without a gap. -/
def Numbered (first : Nat) (events : List AgentRunEvent) : Prop :=
  sequences events = List.range' first events.length

theorem numbered_nil (first : Nat) : Numbered first [] := rfl

theorem Numbered.append {first : Nat} {events more : List AgentRunEvent}
    (left : Numbered first events) (right : Numbered (first + events.length) more) :
    Numbered first (events ++ more) := by
  unfold Numbered sequences at *
  rw [List.map_append, left, right, List.length_append, List.range'_append_1]

theorem Numbered.singleton {first : Nat} {event : AgentRunEvent} (same : event.sequence = first) :
    Numbered first [event] := by
  simp [Numbered, sequences, same]

theorem Numbered.mem {first number : Nat} {events : List AgentRunEvent}
    (numbered : Numbered first events) (low : first ≤ number)
    (high : number < first + events.length) :
    ∃ event ∈ events, event.sequence = number := by
  have member : number ∈ sequences events := by
    rw [numbered, List.mem_range'_1]
    exact ⟨low, high⟩
  exact List.mem_map.mp member

theorem Numbered.last {first : Nat} {events : List AgentRunEvent} {event : AgentRunEvent}
    (numbered : Numbered first events) (last : events.getLast? = some event) :
    event.sequence + 1 = first + events.length := by
  obtain ⟨front, rfl⟩ := List.getLast?_eq_some_iff.mp last
  unfold Numbered sequences at numbered
  rw [List.map_append, List.length_append, List.length_singleton, List.range'_1_concat,
    List.map_singleton] at numbered
  have same := (List.append_inj' numbered rfl).2
  rw [List.length_append, List.length_singleton, List.singleton_inj.mp same]
  omega

theorem Numbered.head {first : Nat} {events : List AgentRunEvent} (numbered : Numbered first events)
    (some : events ≠ []) : ∃ event ∈ events, event.sequence = first := by
  refine numbered.mem (Nat.le_refl _) ?_
  have positive := List.length_pos_iff.mpr some
  omega

namespace Shared

def counted (shared : Shared) (runId : Nat) : Nat := (shared.eventsOf runId).length

end Shared

def ResumesAt (number : Nat → Prop) (run : AgentRun) : Prop :=
  run.state = .waitingForApproval → ∃ suspension, run.checkpoint.suspension = some suspension ∧
    number suspension.sequence

abbrev Resumes (bound : Nat) (run : AgentRun) : Prop :=
  ResumesAt (fun number => 1 ≤ number ∧ number ≤ bound) run

theorem Resumes.mono {bound more : Nat} {run : AgentRun} (resumes : Resumes bound run)
    (le : bound ≤ more) : Resumes more run := by
  intro waiting
  obtain ⟨suspension, saved, low, high⟩ := resumes waiting
  exact ⟨suspension, saved, low, high.trans le⟩

structure Traced (events : List AgentRunEvent) (run : AgentRun) : Prop where
  numbered : Numbered 1 events
  first : events.head?.map (·.type) = some .runStarted
  resumes : Resumes (events.length + 1) run

structure Counting (session : Session) (shared : Shared) : Prop where
  numbered : Numbered session.base session.events
  fresh : ∀ tracked, session.run = some tracked → tracked.inserted = true →
    tracked.original.state = .running ∧ session.base = 1 ∧
      (session.events = [] ∨ session.events.head?.map (·.type) = some .runStarted)
  taken : ∀ tracked, session.run = some tracked → tracked.inserted = false →
    Resumes (shared.counted tracked.key + 1) tracked.original
  current : ∀ tracked, session.run = some tracked → tracked.inserted = false →
    session.events ≠ [] → session.base = shared.counted tracked.key + 1
  states : ∀ tracked, session.run = some tracked →
    .state .waitingForApproval ∉ tracked.assigned
  begun : ∀ tracked checkpoint, session.run = some tracked →
    .suspended checkpoint ∈ tracked.assigned → session.events ≠ []

theorem nextSequence_eq {session : Session} (numbered : Numbered session.base session.events) :
    session.nextSequence = session.base + session.events.length := by
  unfold Session.nextSequence
  split
  · rename_i event last
    exact numbered.last last
  · rename_i none
    rw [List.getLast?_eq_none_iff.mp none]
    rfl

theorem counting_opened (request : AgentRequest) (shared : Shared) :
    Counting (.opened request) shared where
  numbered := rfl
  fresh := fun _ same => by cases same
  taken := fun _ same => by cases same
  current := fun _ same => by cases same
  states := fun _ same => by cases same
  begun := fun _ _ same => by cases same

section Own

variable {i : Nat} {session : Session} {shared next : Shared}

theorem Counting.frame {later : Session} (counting : Counting session shared)
    (run : later.run = session.run) (events : later.events = session.events) :
    Counting later shared := by
  have base : later.base = session.base := by
    unfold Session.base
    rw [run]
  refine ⟨?_, ?_, ?_, ?_, ?_, ?_⟩
  · rw [base, events]
    exact counting.numbered
  · rw [run, base, events]
    exact counting.fresh
  · rw [run]
    exact counting.taken
  · rw [run, base, events]
    exact counting.current
  · rw [run]
    exact counting.states
  · rw [run, events]
    exact counting.begun

theorem Counting.stored (counting : Counting session shared) (events : next.events = shared.events) :
    Counting session next := by
  have counted : ∀ runId, next.counted runId = shared.counted runId := by
    intro runId
    unfold Shared.counted Shared.eventsOf
    rw [events]
  refine ⟨counting.numbered, counting.fresh, ?_, ?_, counting.states, counting.begun⟩
  · intro tracked same loaded
    rw [counted]
    exact counting.taken tracked same loaded
  · intro tracked same loaded begun
    rw [counted]
    exact counting.current tracked same loaded begun

theorem Counting.loadedRun (bare : session.events = []) {run : AgentRun}
    (traced : Traced (shared.eventsOf run.id) run) :
    Counting { session with run := some (.load run) } shared where
  numbered := by
    simp only [bare]
    exact numbered_nil _
  fresh := by
    intro tracked same inserted
    cases same
    cases inserted
  taken := by
    intro tracked same _
    cases same
    exact traced.resumes
  current := by
    intro tracked _ _ begun
    exact absurd bare begun
  states := by
    intro tracked same member
    cases same
    cases member
  begun := by
    intro tracked checkpoint same member
    cases same
    cases member

theorem Counting.insertedRun {draft : AgentRun} (may : session.MayInsertRun draft) (id : Nat) :
    Counting (session.after (.addRun draft) ({ draft with id := id } : AgentRun)) shared where
  numbered := by
    have bare := may.first.2.2.1
    simp only [Session.after, Session.flushed, bare]
    exact numbered_nil _
  fresh := by
    intro tracked same _
    cases same
    refine ⟨may.state, ?_, .inl may.first.2.2.1⟩
    simp [Session.base, Session.after, may.checkpoint]
  taken := by
    intro tracked same loaded
    cases same
    cases loaded
  current := by
    intro tracked same loaded
    cases same
    cases loaded
  states := by
    intro tracked same member
    cases same
    cases member
  begun := by
    intro tracked checkpoint same member
    cases same
    cases member

theorem mayAssignRun_state {assignment : RunAssignment} (may : session.MayAssignRun assignment) :
    assignment ≠ .state .waitingForApproval := by
  rintro rfl
  cases may with
  | step tracked _ run streams begun waiting taken plain => cases plain
  | finish tracked _ run streams begun waiting taken final =>
      rcases final with ⟨output, same⟩ | ⟨error, same⟩ <;> cases same

theorem mayAssignRun_begun {checkpoint : Checkpoint}
    (may : session.MayAssignRun (.suspended checkpoint)) : session.events ≠ [] := by
  cases may with
  | step tracked _ run streams begun => exact begun
  | suspend tracked _ suspension run streams begun => exact begun
  | finish tracked _ run streams begun => exact begun

theorem base_assignRun (session : Session) (assignment : RunAssignment) :
    (session.after (.assignRun assignment) ()).base = session.base := by
  unfold Session.base Session.after
  cases session.run <;> rfl

theorem Counting.assignedRun (counting : Counting session shared) {assignment : RunAssignment}
    (may : session.MayAssignRun assignment) :
    Counting (session.after (.assignRun assignment) ()) shared := by
  have back : ∀ tracked, (session.after (.assignRun assignment) ()).run = some tracked →
      ∃ before, session.run = some before ∧ tracked = before.assign assignment := by
    intro tracked same
    obtain ⟨before, found, rfl⟩ := Option.map_eq_some_iff.mp same
    exact ⟨before, found, rfl⟩
  have base := base_assignRun session assignment
  refine ⟨?_, ?_, ?_, ?_, ?_, ?_⟩
  · rw [base]
    exact counting.numbered
  · intro tracked same inserted
    obtain ⟨before, found, rfl⟩ := back tracked same
    rw [base]
    exact counting.fresh before found inserted
  · intro tracked same loaded
    obtain ⟨before, found, rfl⟩ := back tracked same
    exact counting.taken before found loaded
  · intro tracked same loaded begun
    obtain ⟨before, found, rfl⟩ := back tracked same
    rw [base]
    exact counting.current before found loaded begun
  · intro tracked same member
    obtain ⟨before, found, rfl⟩ := back tracked same
    rcases List.mem_append.mp member with old | new
    · exact counting.states before found old
    · exact mayAssignRun_state may (List.mem_singleton.mp new).symm
  · intro tracked checkpoint same member
    obtain ⟨before, found, rfl⟩ := back tracked same
    rcases List.mem_append.mp member with old | new
    · exact counting.begun before checkpoint found old
    · rw [← List.mem_singleton.mp new] at may
      have some : session.events ≠ [] := mayAssignRun_begun may
      exact some

theorem Counting.goes_on (counting : Counting session shared) {event : AgentRunEvent}
    {answer : Answer} {reply : Unit} (may : session.MayWriteEvent event)
    (traced : ∀ run ∈ shared.runs, Traced (shared.eventsOf run.id) run)
    (owns : Owns i session shared)
    (reacts : shared.react i session (.writeEvent event) answer = some (reply, next)) :
    ∀ tracked, session.run = some tracked → tracked.inserted = false →
      session.base = shared.counted tracked.key + 1 := by
  intro tracked found loaded
  by_cases bare : session.events = []
  · obtain ⟨other, same, owner, waiting, _⟩ := may.tracked
    rw [found] at same
    cases same
    obtain ⟨suspension, saved, low, high⟩ := counting.taken tracked found loaded (waiting loaded)
    have base : session.base = suspension.sequence := by
      simp [Session.base, found, saved]
    have number : event.sequence = session.base := by
      rw [may.next, nextSequence_eq counting.numbered, bare]
      rfl
    by_contra ahead
    -- The number of the suspension is one of a committed event.
    obtain ⟨run, stored, keyed, _⟩ := owns.oldRun tracked found loaded
    have numbered := (traced run stored).numbered
    rw [keyed] at numbered
    have below : session.base < 1 + (shared.eventsOf tracked.key).length := by
      unfold Shared.counted at high ahead
      omega
    obtain ⟨old, listed, same⟩ := numbered.mem (base ▸ low) below
    obtain ⟨member, owned⟩ := List.mem_filter.mp listed
    refine react_writeEvent reacts old (List.mem_append_left _ member) ⟨?_, same.trans number.symm⟩
    rw [← owner]
    simpa using owned
  · exact counting.current tracked found loaded bare

theorem Counting.wroteEvent (counting : Counting session shared) {event : AgentRunEvent}
    (may : session.MayWriteEvent event)
    (goes : ∀ tracked, session.run = some tracked → tracked.inserted = false →
      session.base = shared.counted tracked.key + 1) :
    Counting (wrote event session) shared := by
  have number : event.sequence = session.base + session.events.length :=
    may.next.trans (nextSequence_eq counting.numbered)
  refine ⟨counting.numbered.append (.singleton number), ?_, counting.taken,
    fun tracked found loaded _ => goes tracked found loaded, counting.states,
    fun _ _ _ _ => wrote_begun event session⟩
  intro tracked found inserted
  rw [wrote_run] at found
  obtain ⟨state, base, first⟩ := counting.fresh tracked found inserted
  refine ⟨state, base, .inr ?_⟩
  change (session.events ++ [event]).head?.map (·.type) = _
  rcases first with bare | started
  · obtain ⟨other, same, _, _, starts⟩ := may.tracked
    rw [found] at same
    cases same
    simp [bare, starts inserted bare]
  · obtain ⟨head, found, type⟩ := Option.map_eq_some_iff.mp started
    simp [List.head?_append, found, type]

theorem Counting.performed (counting : Counting session shared) {op : Op} {answer : Answer}
    {reply : Reply op} (traced : ∀ run ∈ shared.runs, Traced (shared.eventsOf run.id) run)
    (owns : Owns i session shared) (allowed : session.allowed op)
    (reacts : shared.react i session op answer = some (reply, next)) :
    Counting (session.after op reply) next := by
  refine Counting.stored ?_ (reaction reacts).events
  cases op with
  | getCurrentVersion agentId =>
      cases reply with
      | none => exact counting
      | some version => exact counting.frame rfl rfl
  | getRun runId =>
      cases reply with
      | none => exact counting
      | some run =>
          cases found : session.run with
          | some tracked => simpa [Session.after, found] using counting
          | none =>
              have bare := (allowed found).2
              have member := (react_getRun found reacts).1
              simpa [Session.after, found] using Counting.loadedRun bare (traced run member)
  | addRun draft =>
      obtain ⟨rfl, _⟩ := react_addRun reacts
      exact Counting.insertedRun allowed _
  | assignRun assignment => exact counting.assignedRun allowed
  | writeEvent event =>
      exact counting.wroteEvent allowed (counting.goes_on allowed traced owns reacts)
  | getToolByName name =>
      cases reply with
      | none => exact counting
      | some tool => exact counting.frame rfl rfl
  | raise error => cases reply
  | _ => exact counting.frame rfl rfl

end Own

section Commits

variable {i : Nat} {session : Session} {shared next : Shared}

theorem eventsOf_committed (owns : Owns i session shared) (done : Committed i session shared next)
    (runId : Nat) :
    next.eventsOf runId = shared.eventsOf runId ++
      if session.run.any (·.key = runId) then session.events else [] := by
  unfold Shared.eventsOf
  rw [done.events, List.filter_append]
  congr 1
  by_cases mine : session.run.any (·.key = runId) = true
  · rw [if_pos mine, List.filter_eq_self]
    intro event member
    obtain ⟨_, tracked, found, owner⟩ := owns.events event member
    rw [found] at mine
    simpa [owner] using mine
  · rw [if_neg mine, List.filter_eq_nil_iff]
    intro event member same
    obtain ⟨_, tracked, found, owner⟩ := owns.events event member
    rw [found] at mine
    exact mine (by simpa [owner] using same)

theorem counted_committed (owns : Owns i session shared) (done : Committed i session shared next)
    (runId : Nat) :
    next.counted runId = shared.counted runId +
      if session.run.any (·.key = runId) then session.events.length else 0 := by
  unfold Shared.counted
  rw [eventsOf_committed owns done, List.length_append]
  split <;> rfl

theorem resumesAt_replay (counting : Counting session shared) (settled : session.Settled)
    {tracked : Tracked runTable} (found : session.run = some tracked) {number : Nat → Prop}
    {row : AgentRun} (resumes : ResumesAt number row)
    (next : session.events ≠ [] → number session.nextSequence) {assigned : List RunAssignment}
    (among : ∀ assignment ∈ assigned, assignment ∈ tracked.assigned) :
    ResumesAt number (Tracked.replay (T := runTable) assigned row) := by
  refine Tracked.replay_keeps (T := runTable) (ResumesAt number) _ _ resumes ?_
  intro assignment member row resumes waiting
  have listed := among assignment member
  cases assignment with
  | state value =>
      have same : value = .waitingForApproval := waiting
      rw [same] at listed
      exact absurd listed (counting.states tracked found)
  | iterations count => exact resumes waiting
  | tokens prompt completion => exact resumes waiting
  | suspended checkpoint =>
      obtain ⟨suspension, saved, last⟩ := settled.sequenced tracked checkpoint found listed
      exact ⟨suspension, saved, last ▸ next (counting.begun tracked checkpoint found listed)⟩
  | completed output => cases waiting
  | failed error => cases waiting

theorem base_counted (consistent : Consistent shared) (owns : Owns i session shared)
    (counting : Counting session shared) {tracked : Tracked runTable}
    (found : session.run = some tracked) (begun : session.events ≠ []) :
    session.base = shared.counted tracked.key + 1 := by
  cases inserted : tracked.inserted with
  | false => exact counting.current tracked found inserted begun
  | true =>
      have fresh := (owns.newRun tracked found inserted).2.2.2
      have nothing : shared.eventsOf tracked.key = [] := by
        refine List.filter_eq_nil_iff.mpr fun event member same => ?_
        obtain ⟨run, stored, keyed⟩ := consistent.events event member
        exact fresh run stored (keyed.trans (by simpa using same))
      rw [(counting.fresh tracked found inserted).2.1, Shared.counted, nothing]
      rfl

theorem next_counted (consistent : Consistent shared) (owns : Owns i session shared)
    (counting : Counting session shared) (done : Committed i session shared next)
    {tracked : Tracked runTable} (found : session.run = some tracked) (begun : session.events ≠ []) :
    session.nextSequence = next.counted tracked.key + 1 := by
  rw [counted_committed owns done, if_pos (by simp [found]), nextSequence_eq counting.numbered,
    base_counted consistent owns counting found begun]
  omega

theorem traced_committed (consistent : Consistent shared) (owns : Owns i session shared)
    (counting : Counting session shared) (settled : session.Settled)
    (done : Committed i session shared next)
    (traced : ∀ run ∈ shared.runs, Traced (shared.eventsOf run.id) run) :
    ∀ run ∈ next.runs, Traced (next.eventsOf run.id) run := by
  intro run member
  have events := eventsOf_committed owns done run.id
  rcases owns.committed_runs done member with
    ⟨before, others⟩ | ⟨tracked, row, found, keyed, same, written, origin⟩
  · have theirs : session.run.any (·.key = run.id) = false := by
      cases found : session.run with
      | none => rfl
      | some tracked => simpa using others tracked found
    rw [theirs, if_neg Bool.false_ne_true, List.append_nil] at events
    rw [events]
    exact traced run before
  · rw [if_pos (by simp [found, keyed])] at events
    have resumes : session.events ≠ [] → 1 ≤ session.nextSequence ∧
        session.nextSequence ≤ (next.eventsOf run.id).length + 1 := by
      intro begun
      have number := next_counted consistent owns counting done found begun
      rw [keyed, Shared.counted] at number
      omega
    have goes : session.events ≠ [] → session.base = 1 + (shared.eventsOf run.id).length := by
      intro begun
      have base := base_counted consistent owns counting found begun
      rw [keyed, Shared.counted] at base
      omega
    rcases origin with ⟨inserted, rfl⟩ | ⟨loaded, stored⟩
    · obtain ⟨_, _, streams, _⟩ := owns.newRun tracked found inserted
      obtain ⟨state, base, first⟩ := counting.fresh tracked found inserted
      have begun : session.events ≠ [] := by
        intro bare
        have untouched := (settled.quiet streams bare).run tracked found
        rw [inserted] at untouched
        cases untouched.1
      have nothing : shared.eventsOf run.id = [] := by
        have base' := goes begun
        rw [base] at base'
        exact List.length_eq_zero_iff.mp (by omega)
      rw [nothing, List.nil_append] at events
      refine ⟨?_, ?_, ?_⟩
      · rw [events]
        exact base ▸ counting.numbered
      · rw [events]
        exact first.resolve_left begun
      · have running : Resumes ((next.eventsOf run.id).length + 1) tracked.original := by
          intro waiting
          rw [state] at waiting
          cases waiting
        have last := resumesAt_replay counting settled found running resumes (fun _ member => member)
        rwa [← written] at last
    · have before := traced row stored
      rw [same] at before
      refine ⟨?_, ?_, ?_⟩
      · rw [events]
        by_cases bare : session.events = []
        · rw [bare, List.append_nil]
          exact before.numbered
        · exact before.numbered.append (goes bare ▸ counting.numbered)
      · obtain ⟨head, first, type⟩ := Option.map_eq_some_iff.mp before.first
        simp [events, List.head?_append, first, type]
      · have more : Resumes ((next.eventsOf run.id).length + 1) row := by
          refine before.resumes.mono ?_
          rw [events, List.length_append]
          omega
        have last := resumesAt_replay counting settled found more resumes (fun _ member => member)
        rwa [← written] at last

theorem Counting.committed_other {j : Nat} {other : Session} (counting : Counting other shared)
    (different : j ≠ i) (theirs : Owns j other shared) (mine : Counting session shared)
    (owns : Owns i session shared) (done : Committed i session shared next) :
    Counting other next := by
  refine ⟨counting.numbered, counting.fresh, ?_, ?_, counting.states, counting.begun⟩
  · intro tracked found loaded
    refine (counting.taken tracked found loaded).mono ?_
    rw [counted_committed owns done]
    omega
  · intro tracked found loaded begun
    have current := counting.current tracked found loaded begun
    rw [counted_committed owns done, current]
    split
    · rename_i same
      -- Were there events to commit, both would hold the key of their first number.
      by_cases bare : session.events = []
      · rw [bare]
        rfl
      · exfalso
        obtain ⟨run, stored, keyed, _⟩ := theirs.oldRun tracked found loaded
        obtain ⟨own, held, taken⟩ : ∃ own, session.run = some own ∧ own.key = tracked.key := by
          cases held : session.run with
          | none => simp [held] at same
          | some own => exact ⟨own, rfl, by simpa [held] using same⟩
        have old : own.inserted = false := by
          by_contra inserted
          exact (owns.newRun own held (by simpa using inserted)).2.2.2 run stored
            (keyed.trans taken.symm)
        have base := mine.current own held old bare
        rw [taken, ← current] at base
        obtain ⟨first, listed, number⟩ := mine.numbered.head bare
        obtain ⟨event, member, again⟩ := counting.numbered.head begun
        obtain ⟨left, one, isOne, owner⟩ := owns.events first listed
        obtain ⟨right, two, isTwo, owned⟩ := theirs.events event member
        rw [held] at isOne
        rw [found] at isTwo
        cases isOne
        cases isTwo
        rw [owner, number, taken, base] at left
        rw [owned, again] at right
        exact different (Locks.held_exclusive theirs.locks owns.locks right left)
    · rfl

end Commits

def numbering : Invariant agentDiscipline (fun _ _ => True) ownership.Holds where
  shared := fun shared => ∀ run ∈ shared.runs, Traced (shared.eventsOf run.id) run
  session := fun _ => Counting
  begins _ _ request _ _ _ := counting_opened request _
  performs system i answer op s reply after owned _ performing allowed traced counting reacts := by
    refine ⟨?_, counting.performed traced (owned.2 i s performing.live) allowed reacts,
      fun j t _ _ other => other.stored (reaction reacts).events⟩
    rw [(reaction reacts).runs]
    unfold Shared.eventsOf
    rw [(reaction reacts).events]
    exact traced
  commits system i s after owned _ ending settled traced counting commits := by
    have owns := owned.2 i s ending.live
    exact ⟨traced_committed owned.1 owns counting settled (committed commits) traced,
      fun j t different live other => other.committed_other different (owned.2 j t live) counting
        owns (committed commits)⟩
  aborts _ _ _ _ _ _ traced _ := ⟨traced, fun _ _ _ _ other => other.stored rfl⟩
  changes _ _ _ _ traced := ⟨traced, fun _ _ _ other => other.stored rfl⟩

theorem counted (ok : AgentSystem → AgentLabel → Prop) (registry : Registry)
    (system : AgentSystem) (reached : Reached ok registry system) : numbering.Holds system := by
  have initially : numbering.shared (idle registry).shared := fun _ member => nomatch member
  exact numbering.reached (fun _ => rfl) initially
    (fun system reached => owned _ registry system reached) system
    (reached.weaken fun _ _ _ => trivial)

theorem suspension_committed {i : Nat} {session : Session} {shared next : Shared}
    (consistent : Consistent shared) (owns : Owns i session shared)
    (counting : Counting session shared) (settled : session.Settled)
    (done : Committed i session shared next) {tracked : Tracked runTable}
    (found : session.run = some tracked) {checkpoint : Checkpoint}
    (suspended : .suspended checkpoint ∈ tracked.assigned) {run : AgentRun}
    (member : run ∈ next.runs) (keyed : run.id = tracked.key)
    (waiting : run.state = .waitingForApproval) :
    ∃ suspension, run.checkpoint.suspension = some suspension ∧
      suspension.sequence = next.counted run.id + 1 := by
  rcases owns.committed_runs done member with
    ⟨_, others⟩ | ⟨other, row, same, _, _, written, _⟩
  · exact absurd keyed.symm (others tracked found)
  rw [found] at same
  cases same
  have number := next_counted consistent owns counting done found
    (counting.begun tracked checkpoint found suspended)
  rw [← keyed] at number
  -- The assignment to the checkpoint makes the number exact, and what follows keeps it.
  obtain ⟨front, back, split⟩ := List.append_of_mem suspended
  have exactly : ResumesAt (· = session.nextSequence)
      (RunAssignment.apply (.suspended checkpoint) (Tracked.replay (T := runTable) front row)) := by
    intro _
    exact settled.sequenced tracked checkpoint found suspended
  have among : ∀ assignment ∈ back, assignment ∈ tracked.assigned := by
    intro assignment listed
    rw [split]
    exact List.mem_append_right _ (List.mem_cons_of_mem _ listed)
  have last := resumesAt_replay counting settled found exactly (fun _ => rfl) among
  rw [split, Tracked.replay_append] at written
  rw [← number]
  rw [written] at waiting ⊢
  exact last waiting

structure EventsNumbered (system : AgentSystem) : Prop where
  gapless : ∀ run ∈ system.shared.runs,
    sequences (system.shared.eventsOf run.id) = List.range' 1 (system.shared.counted run.id)
  first : ∀ run ∈ system.shared.runs,
    (system.shared.eventsOf run.id).head?.map (·.type) = some .runStarted
  announced : ∀ i event session, system.Performing i (.deliver event) session →
    event.type = .toolApprovalRequired → ∃ tracked suspension, session.run = some tracked ∧
      tracked.row.checkpoint.suspension = some suspension ∧
      session.events.getLast?.map (·.sequence) = some event.sequence ∧
      suspension.sequence = event.sequence + 1
  suspended : ∀ i session next tracked checkpoint run, system.Live i session →
    system.step (.commit i) = some next → session.run = some tracked →
    .suspended checkpoint ∈ tracked.assigned → run ∈ next.shared.runs → run.id = tracked.key →
    run.state = .waitingForApproval → ∃ suspension, run.checkpoint.suspension = some suspension ∧
      suspension.sequence = next.shared.counted run.id + 1

/-- For all model replies, retrievals and suspensions, in every interleaving. -/
theorem events_numbered (registry : Registry) (system : AgentSystem)
    (reached : Reached anyStep registry system) : EventsNumbered system := by
  obtain ⟨consistent, owns⟩ := owned _ registry system reached
  obtain ⟨traced, counting⟩ := counted _ registry system reached
  have kept := agentDiscipline.kept_reached (fun _ => rfl) system reached
  refine ⟨fun run member => (traced run member).numbered, fun run member => (traced run member).first,
    ?_, ?_⟩
  · intro i event session performing announces
    have may : session.MayDeliver event := kept.allowed performing
    obtain ⟨_, tracked, suspension, found, _, saved, number⟩ := may.suspended announces
    obtain ⟨written, last, _, same, _⟩ := may.last
    exact ⟨tracked, suspension, found, saved, by rw [last, Option.map_some, same], number⟩
  · intro i session next tracked checkpoint run live stepped found suspended member keyed waiting
    cases System.step_transition stepped with
    | commit _ other shared ending commits =>
        cases System.live_unique live ending.live
        exact suspension_committed consistent (owns i session live) (counting i session live)
          (kept.settled ending) (committed commits) found suspended member keyed waiting

def approvedLookup : List AgentLabel :=
  starts 0 policy (asks [lookupCall "c1"]) ++ suspends 0 ++ [.commit 0] ++ reviews 1 0 true ++
    decides 1 ++ executes 1 ++ resumes 1 (answersWith "It is Ada.") ++ completes 1 ++ [.commit 1]

theorem events_numbered_approvedLookup : ∃ system, EventsNumbered system ∧
    (system.shared.eventsOf 0).length = 10 := by
  obtain ⟨system, reached, checked⟩ := reached_checked anyStep desk approvedLookup
    (fun system => (system.shared.eventsOf 0).length = 10) (by decide +kernel)
  exact ⟨system, events_numbered desk system reached, by simpa using checked⟩

end AiPlatform.Agents
