import AiPlatform.RequestLedgers

/-!
The iterations of committed runs. A commit writes the number of the last turn, and the
events that it adds announce one request for each turn, so a committed run has as many
iterations as its events announce requests, and a suspension goes on behind them. Of two
requests that read the same suspension the later one adds no turn to it.
-/

namespace AiPlatform.Agents

structure Tallied (shared : Shared) (run : AgentRun) : Prop where
  iterations : run.iterations = announcements (shared.eventsOf run.id)
  waits : run.state = .waitingForApproval → startIteration run = run.iterations

structure Onward (session : Session) (shared : Shared) : Prop where
  fresh : ∀ tracked, session.run = some tracked → tracked.inserted = true →
    startIteration tracked.original = 0 ∧ tracked.original.iterations = 0
  goes : ∀ tracked, session.run = some tracked → tracked.inserted = false →
    tracked.original.state = .waitingForApproval →
      startIteration tracked.original = tracked.original.iterations ∧
        (Overtaken session shared ∨
          announcements (shared.eventsOf tracked.key) = startIteration tracked.original)
  waiting : ∀ tracked, session.run = some tracked → tracked.inserted = false →
    session.events ≠ [] → tracked.original.state = .waitingForApproval

theorem replay_waits (holds : Checkpoint → Prop) {assigned : List RunAssignment} {row : AgentRun}
    (states : .state .waitingForApproval ∉ assigned)
    (suspends : ∀ checkpoint, .suspended checkpoint ∈ assigned → holds checkpoint)
    (first : lastState assigned = none → row.state = .waitingForApproval → holds row.checkpoint)
    (waiting : (Tracked.replay (T := runTable) assigned row).state = .waitingForApproval) :
    holds (Tracked.replay (T := runTable) assigned row).checkpoint := by
  induction assigned using List.reverseRecOn with
  | nil => exact first rfl waiting
  | append_singleton rest assignment ih =>
      have last : assignment ∈ rest ++ [assignment] := List.mem_append_right _ List.mem_cons_self
      have before (other : RunAssignment) (member : other ∈ rest) : other ∈ rest ++ [assignment] :=
        List.mem_append_left _ member
      have kept := ih (fun member => states (before _ member))
        (fun checkpoint member => suspends checkpoint (before _ member))
      rw [lastState_append] at first
      rw [Tracked.replay_append] at waiting ⊢
      cases assignment with
      | state value =>
          have same : value = .waitingForApproval := waiting
          rw [same] at last states
          exact absurd last states
      | iterations count => exact kept first waiting
      | tokens prompt completion => exact kept first waiting
      | suspended checkpoint => exact suspends checkpoint last
      | completed output => cases waiting
      | failed error => cases waiting

section Own

variable {i : Nat} {session : Session} {shared next : Shared}

theorem onward_opened (request : AgentRequest) (shared : Shared) :
    Onward (.opened request) shared :=
  ⟨fun _ same => (nomatch same), fun _ same => (nomatch same), fun _ same => (nomatch same)⟩

theorem Onward.frame {later : Session} (onward : Onward session shared)
    (run : later.run = session.run) (events : later.events = session.events) :
    Onward later shared := by
  refine ⟨?_, ?_, ?_⟩
  · rw [run]
    exact onward.fresh
  · rw [run]
    unfold Overtaken Session.base
    rw [run]
    exact onward.goes
  · rw [run, events]
    exact onward.waiting

theorem Onward.stored (onward : Onward session shared) (events : next.events = shared.events) :
    Onward session next := by
  refine ⟨onward.fresh, fun tracked found loaded waiting => ?_, onward.waiting⟩
  obtain ⟨level, overtaken | behind⟩ := onward.goes tracked found loaded waiting
  · exact ⟨level, .inl (overtaken.stored events)⟩
  · refine ⟨level, .inr ?_⟩
    unfold Shared.eventsOf at behind ⊢
    rw [events]
    exact behind

theorem Onward.loadedRun (bare : session.events = []) {run : AgentRun}
    (tallied : Tallied shared run) :
    Onward { session with run := some (.load run) } shared := by
  refine ⟨?_, ?_, fun _ _ _ begun => absurd bare begun⟩
  · intro tracked same inserted
    cases same
    cases inserted
  · intro tracked same _ waiting
    cases same
    have level := tallied.waits waiting
    exact ⟨level, .inr (tallied.iterations.symm.trans level.symm)⟩

theorem Onward.assignedRun (onward : Onward session shared) {assignment : RunAssignment}
    (allowed : session.allowed (.assignRun assignment)) :
    Onward (session.after (.assignRun assignment) ()) shared := by
  refine ⟨?_, ?_, ?_⟩
  · intro tracked same inserted
    obtain ⟨before, found, rfl⟩ := Option.map_eq_some_iff.mp same
    exact onward.fresh before found inserted
  · intro tracked same loaded waiting
    obtain ⟨before, found, rfl⟩ := Option.map_eq_some_iff.mp same
    obtain ⟨level, overtaken | behind⟩ := onward.goes before found loaded waiting
    · exact ⟨level, .inl (overtaken.performed allowed)⟩
    · exact ⟨level, .inr behind⟩
  · intro tracked same loaded begun
    obtain ⟨before, found, rfl⟩ := Option.map_eq_some_iff.mp same
    exact onward.waiting before found loaded begun

theorem Onward.wroteEvent (onward : Onward session shared) {event : AgentRunEvent}
    (may : session.MayWriteEvent event) : Onward (wrote event session) shared := by
  refine ⟨onward.fresh, onward.goes, fun tracked found loaded _ => ?_⟩
  obtain ⟨other, same, _, waiting, _⟩ := may.tracked
  have held : session.run = some tracked := found
  rw [held] at same
  cases same
  exact waiting loaded

theorem Onward.performed (onward : Onward session shared)
    (tallied : ∀ run ∈ shared.runs, Tallied shared run) {op : Op} {answer : Answer}
    {reply : Reply op} (allowed : session.allowed op)
    (starts : ∀ draft, op = .addRun draft →
      draft.iterations = 0 ∧ draft.checkpoint.suspension = none)
    (reacts : shared.react i session op answer = some (reply, next)) :
    Onward (session.after op reply) next := by
  refine Onward.stored ?_ (reaction reacts).events
  cases op with
  | getCurrentVersion agentId =>
      cases reply with
      | none => exact onward
      | some version => exact onward.frame rfl rfl
  | getRun runId =>
      cases reply with
      | none => exact onward
      | some run =>
          cases found : session.run with
          | some tracked => simpa [Session.after, found] using onward
          | none =>
              have bare := (allowed found).2
              have member := (react_getRun found reacts).1
              simpa [Session.after, found] using Onward.loadedRun bare (tallied run member)
  | addRun draft =>
      obtain ⟨rfl, _⟩ := react_addRun reacts
      obtain ⟨iterations, suspension⟩ := starts draft rfl
      refine ⟨?_, ?_, ?_⟩
      · intro tracked same _
        cases same
        refine ⟨?_, iterations⟩
        simp [startIteration, suspension]
      · intro tracked same loaded
        cases same
        cases loaded
      · intro tracked same loaded
        cases same
        cases loaded
  | assignRun assignment => exact onward.assignedRun allowed
  | writeEvent event => exact onward.wroteEvent allowed
  | getToolByName name =>
      cases reply with
      | none => exact onward
      | some tool => exact onward.frame rfl rfl
  | raise error => cases reply
  | _ => exact onward.frame rfl rfl

end Own

section Commits

variable {i j : Nat} {session other : Session} {shared next : Shared}

theorem announcements_append (events more : List AgentRunEvent) :
    announcements (events ++ more) = announcements events + announcements more :=
  List.countP_append

theorem begun_of_announced {events : List AgentRunEvent} (some : announcements events ≠ 0) :
    events ≠ [] := by
  rintro rfl
  exact some rfl

theorem announcements_committed (owns : Owns i session shared)
    (done : Committed i session shared next) (runId : Nat) :
    announcements (next.eventsOf runId) = announcements (shared.eventsOf runId) +
      if session.run.any (·.key = runId) then announcements session.events else 0 := by
  rw [eventsOf_committed owns done, announcements_append]
  split <;> rfl

theorem eventsOf_fresh (consistent : Consistent shared) {runId : Nat}
    (fresh : ∀ run ∈ shared.runs, run.id ≠ runId) : shared.eventsOf runId = [] := by
  refine List.filter_eq_nil_iff.mpr fun event member same => ?_
  obtain ⟨run, stored, keyed⟩ := consistent.events event member
  exact fresh run stored (keyed.trans (by simpa using same))

theorem Onward.counted (onward : Onward session shared) (consistent : Consistent shared)
    (owns : Owns i session shared) (counting : Counting session shared)
    {tracked : Tracked runTable} (found : session.run = some tracked)
    (begun : session.events ≠ []) :
    announcements (shared.eventsOf tracked.key) = startIteration tracked.original ∧
      tracked.original.iterations = startIteration tracked.original := by
  cases inserted : tracked.inserted with
  | true =>
      obtain ⟨start, iterations⟩ := onward.fresh tracked found inserted
      have fresh := (owns.newRun tracked found inserted).2.2.2
      rw [eventsOf_fresh consistent fresh, start, iterations]
      exact ⟨rfl, rfl⟩
  | false =>
      have waiting := onward.waiting tracked found inserted begun
      obtain ⟨level, overtaken | behind⟩ := onward.goes tracked found inserted waiting
      · exact absurd (overtaken.silent counting) begun
      · exact ⟨behind, level.symm⟩

theorem tallied_committed (consistent : Consistent shared) (owns : Owns i session shared)
    (counting : Counting session shared) (onward : Onward session shared)
    (levels : ∀ tracked, session.run = some tracked →
      Meter.Level tracked (announcements session.events))
    (done : Committed i session shared next) (tallied : ∀ run ∈ shared.runs, Tallied shared run) :
    ∀ run ∈ next.runs, Tallied next run := by
  intro run member
  have events := announcements_committed owns done run.id
  rcases owns.committed_runs done member with
    ⟨before, others⟩ | ⟨tracked, row, found, keyed, same, written, origin⟩
  · have theirs : session.run.any (·.key = run.id) = false := by
      cases found : session.run with
      | none => rfl
      | some tracked => simpa using others tracked found
    rw [theirs, if_neg Bool.false_ne_true, Nat.add_zero] at events
    exact ⟨(tallied run before).iterations.trans events.symm, (tallied run before).waits⟩
  · rw [if_pos (by simp [found, keyed])] at events
    have level := levels tracked found
    have counted := onward.counted consistent owns counting found
    rw [keyed] at counted
    have stored : row.iterations = announcements (shared.eventsOf run.id) := by
      rcases origin with ⟨inserted, rfl⟩ | ⟨_, stored⟩
      · have fresh := (owns.newRun tracked found inserted).2.2.2
        rw [keyed] at fresh
        rw [eventsOf_fresh consistent fresh, (onward.fresh tracked found inserted).2]
        rfl
      · rw [(tallied row stored).iterations, same]
    have replayed := replay_iterations tracked.assigned row
    rw [← written, level.last] at replayed
    have iterations : run.iterations = announcements (next.eventsOf run.id) := by
      rw [replayed, events]
      split
      · rename_i none
        rw [none, Nat.add_zero]
        exact stored
      · rename_i some
        rw [(counted (begun_of_announced some)).1]
        rfl
    refine ⟨iterations, fun waiting => ?_⟩
    have states := counting.states tracked found
    rw [written] at waiting
    have last := replay_waits
      (fun checkpoint => (checkpoint.suspension.map (·.iteration)).getD 0 = run.iterations) states ?_
      ?_ waiting
    · rw [← written] at last
      exact last
    · intro checkpoint listed
      obtain ⟨suspension, saved, number⟩ := level.paused checkpoint listed
      have begun := counting.begun tracked checkpoint found listed
      rw [saved, iterations, events, (counted begun).1]
      exact number
    · intro untouched waits
      have idle : announcements session.events = 0 ∨ tracked.inserted = true := by
        by_contra both
        obtain ⟨some, loaded⟩ := not_or.mp both
        exact level.resumed some (by simpa using loaded) untouched
      rw [iterations, events]
      rcases origin with ⟨inserted, rfl⟩ | ⟨loaded, stored'⟩
      · rw [(counting.fresh tracked found inserted).1] at waits
        cases waits
      · rcases idle with none | inserted
        · rw [none, Nat.add_zero, ← stored]
          exact (tallied row stored').waits waits
        · rw [loaded] at inserted
          cases inserted

theorem Onward.committed_other (onward : Onward other shared) (different : j ≠ i)
    (theirs : Owns j other shared) (counting : Counting other shared)
    (owns : Owns i session shared) (mine : Counting session shared)
    (done : Committed i session shared next) : Onward other next := by
  refine ⟨onward.fresh, fun tracked found loaded waiting => ?_, onward.waiting⟩
  obtain ⟨level, overtaken | behind⟩ := onward.goes tracked found loaded waiting
  · exact ⟨level, .inl (overtaken.committed owns done)⟩
  refine ⟨level, ?_⟩
  have events := announcements_committed owns done tracked.key
  by_cases begun : session.events = []
  · rw [begun] at events
    right
    rw [events, behind]
    split <;> rfl
  by_cases shares : ∃ own, session.run = some own ∧ own.key = tracked.key
  · obtain ⟨own, held, same⟩ := shares
    exact .inl (overtakes different theirs counting owns mine done begun held found same loaded
      waiting)
  · right
    rw [events, behind, if_neg fun some => shares ?_, Nat.add_zero]
    obtain ⟨own, held, same⟩ := (Option.any_eq_true _ _).mp some
    exact ⟨own, held, of_decide_eq_true same⟩

end Commits

def Accounted (system : AgentSystem) : Prop := Known system ∧ ∃ ledger, Asked system ledger

theorem accounted (ok : AgentSystem → AgentLabel → Prop) (registry : Registry)
    (system : AgentSystem) (reached : Reached ok registry system) : Accounted system := by
  obtain ⟨ledger, charged⟩ : ∃ ledger, Charged (fun _ _ _ => True) registry system ledger :=
    reached.recorded
  exact ⟨known _ registry system reached, ledger, asked_charged charged⟩

theorem Asked.may {system : AgentSystem} {ledger : Ledger} (asked : Asked system ledger) {i : Nat}
    {op : Op} {session : Session} (performing : system.Performing i op session) :
    ∃ answered, ledger.askedBy i = answered + Meter.answers op ∧
      (Meter.of session answered).MayPerform op := by
  obtain ⟨next, found⟩ := performing
  obtain ⟨answered, count, metered⟩ := asked.running i _ _ found
  exact ⟨answered, count, metered.1⟩

theorem Asked.level {system : AgentSystem} {ledger : Ledger} (asked : Asked system ledger) {i : Nat}
    {session : Session} (ending : system.Ending i session) :
    ∀ tracked, session.run = some tracked →
      Meter.Level tracked (announcements session.events) := by
  rcases ending with running | stopped
  · obtain ⟨answered, _, steady⟩ := asked.running i _ _ running
    exact Meter.Steady.level steady
  · exact (asked.stopped i _ _ stopped).level

def tallies : Invariant agentDiscipline (fun _ _ => True) Accounted where
  shared := fun shared => ∀ run ∈ shared.runs, Tallied shared run
  session := fun _ => Onward
  begins _ _ request _ _ _ := onward_opened request _
  performs system i answer op s reply after known _ performing allowed tallied onward reacts := by
    obtain ⟨_, ledger, asked⟩ := known
    obtain ⟨answered, _, may⟩ := asked.may performing
    refine ⟨?_, onward.performed tallied allowed ?_ reacts,
      fun j t _ _ other => other.stored (reaction reacts).events⟩
    · rw [(reaction reacts).runs]
      refine fun run member => ⟨?_, (tallied run member).waits⟩
      unfold Shared.eventsOf
      rw [(reaction reacts).events]
      exact (tallied run member).iterations
    · intro draft same
      have starts := may.starts draft same
      exact ⟨starts.iterations, starts.suspension⟩
  commits system i s after known _ ending settled tallied onward commits := by
    obtain ⟨facts, ledger, asked⟩ := known
    have owns := facts.owned.2 i s ending.live
    have counting := facts.counted.2 i s ending.live
    exact ⟨tallied_committed facts.owned.1 owns counting onward (asked.level ending)
      (committed commits) tallied, fun j t different live other =>
        other.committed_other different (facts.owned.2 j t live) (facts.counted.2 j t live) owns
          counting (committed commits)⟩
  aborts _ _ _ _ _ _ tallied _ :=
    ⟨fun run member => ⟨(tallied run member).iterations, (tallied run member).waits⟩,
      fun _ _ _ _ other => other.stored rfl⟩
  changes _ _ _ _ tallied :=
    ⟨fun run member => ⟨(tallied run member).iterations, (tallied run member).waits⟩,
      fun _ _ _ other => other.stored rfl⟩

theorem tallied (ok : AgentSystem → AgentLabel → Prop) (registry : Registry)
    (system : AgentSystem) (reached : Reached ok registry system) : tallies.Holds system := by
  have initially : tallies.shared (idle registry).shared := fun _ member => nomatch member
  exact tallies.reached (fun _ => rfl) initially
    (fun system reached => accounted _ registry system reached) system
    (reached.weaken fun _ _ _ => trivial)

end AiPlatform.Agents
