import AiPlatform.RunTallies

/-!
The budget of a run over all its suspensions. As long as no request to the model is lost,
by a stream that is committed where it was left or by a rollback, the committed
iterations are the requests that were made, and every further one is within the budget
that the run was started with.
-/

namespace AiPlatform.Agents

def LeavesRun (session : Session) : Prop :=
  ∀ tracked ∈ session.run, tracked.inserted = false ∧ tracked.assigned = []

/-- An abandoned stream is committed only if it announced its suspension or left its run
alone, and no process that has asked the model for a run it loaded is rolled back. -/
def RequestsKept (system : AgentSystem) (ledger : Ledger) : AgentLabel → Prop
  | .commit i => ∀ session ∈ abandoned? system i, LeftSuspended session ∨ LeavesRun session
  | .abort i => ∀ session ∈ system.session? i, ∀ tracked ∈ session.run,
      tracked.inserted = false → ledger.askedBy i = 0
  | .begin _ _ | .perform _ _ | .stop _ | .change _ => True

instance (session : Session) : Decidable (LeavesRun session) :=
  inferInstanceAs (Decidable (
    ∀ tracked ∈ session.run, tracked.inserted = false ∧ tracked.assigned = []))

instance (system : AgentSystem) (ledger : Ledger) (label : AgentLabel) :
    Decidable (RequestsKept system ledger label) :=
  match label with
  | .commit i => inferInstanceAs (Decidable (
      ∀ session ∈ abandoned? system i, LeftSuspended session ∨ LeavesRun session))
  | .abort i => inferInstanceAs (Decidable (
      ∀ session ∈ system.session? i, ∀ tracked ∈ session.run,
        tracked.inserted = false → ledger.askedBy i = 0))
  | .begin _ _ | .perform _ _ | .stop _ | .change _ => inferInstanceAs (Decidable True)

structure Orderly (session : Session) : Prop where
  spec : ∀ tracked, session.run = some tracked → ∀ checkpoint,
    .suspended checkpoint ∈ tracked.assigned →
      checkpoint.spec = tracked.original.checkpoint.spec
  states : session.streams = true → ∀ tracked, session.run = some tracked → ∀ state,
    .state state ∈ tracked.assigned → state = .running

theorem after_request (session : Session) (op : Op) (reply : Reply op) :
    (session.after op reply).request = session.request := by
  cases op with
  | getCurrentVersion agentId => cases reply <;> rfl
  | getRun runId =>
      cases reply with
      | none => rfl
      | some run => cases found : session.run <;> simp [Session.after, found]
  | getToolByName name => cases reply <;> rfl
  | raise error => cases reply
  | _ => rfl

theorem mayAssignRun_running {session : Session} {state : RunState}
    (may : session.MayAssignRun (.state state)) (streams : session.streams = true) :
    state = .running := by
  cases may with
  | step other _ run _ begun waiting taken plain => cases state <;> first | rfl | cases plain
  | finish other _ run _ begun waiting taken final =>
      rcases final with ⟨output, same⟩ | ⟨error, same⟩ <;> cases same
  | cancel other run outside =>
      rw [streams] at outside
      cases outside

theorem Orderly.performed {session : Session} (orderly : Orderly session) {op : Op}
    {reply : Reply op} (allowed : session.allowed op) : Orderly (session.after op reply) := by
  have streams : (session.after op reply).streams = session.streams := by
    unfold Session.streams
    rw [after_request]
  have step := run_step session op reply
  generalize same : (session.after op reply).run = row at step
  refine ⟨?_, ?_⟩
  · rw [same]
    cases step with
    | same => exact orderly.spec
    | loaded id run none =>
        intro tracked found checkpoint member
        cases found
        cases member
    | inserted draft run =>
        intro tracked found checkpoint member
        cases found
        cases member
    | assigned assignment before kept =>
        intro tracked found checkpoint member
        cases found
        rcases List.mem_append.mp member with old | new
        · exact orderly.spec before kept checkpoint old
        · rw [← List.mem_singleton.mp new] at allowed
          have spec := allowed.spec kept
          exact spec
  · rw [same, streams]
    cases step with
    | same => exact orderly.states
    | loaded id run none =>
        intro _ tracked found state member
        cases found
        cases member
    | inserted draft run =>
        intro _ tracked found state member
        cases found
        cases member
    | assigned assignment before kept =>
        intro streams tracked found state member
        cases found
        rcases List.mem_append.mp member with old | new
        · exact orderly.states streams before kept state old
        · rw [← List.mem_singleton.mp new] at allowed
          exact mayAssignRun_running allowed streams

theorem orderly (ok : AgentSystem → AgentLabel → Prop) (registry : Registry)
    (system : AgentSystem) (reached : Reached ok registry system) {i : Nat} {session : Session}
    (live : system.Live i session) : Orderly session :=
  Invariant.session_reached (D := agentDiscipline) Orderly
    (fun _ => ⟨fun _ same => (nomatch same), fun _ _ same => (nomatch same)⟩)
    (fun _ _ _ allowed _ before => before.performed allowed) (fun _ => rfl) system reached live

namespace Ledger

def closed (ledger : Ledger) (system : AgentSystem) (runId : Nat) : Nat :=
  ledger.requests.countP fun request => request.2 = runId && (system.session? request.1).isNone

def underway (ledger : Ledger) (system : AgentSystem) (runId : Nat) : Nat :=
  ledger.requests.countP fun request => request.2 = runId && !(system.session? request.1).isNone

theorem asked_eq (ledger : Ledger) (system : AgentSystem) (runId : Nat) :
    ledger.asked runId = ledger.closed system runId + ledger.underway system runId := by
  unfold asked closed underway
  rw [List.countP_eq_countP_filter_add _ _ fun request => (system.session? request.1).isNone,
    List.countP_filter, List.countP_filter]

end Ledger

section Closed

variable {system next : AgentSystem} {ledger : Ledger} {i : Nat} {session : Session}

theorem closed_congr (same : ∀ request ∈ ledger.requests,
    (next.session? request.1).isNone = (system.session? request.1).isNone) (runId : Nat) :
    ledger.closed next runId = ledger.closed system runId := by
  refine List.countP_congr fun request member => ?_
  rw [same request member]

theorem session?_other {j : Nat} (different : j ≠ i) (process : Process agentMachine)
    (shared : Shared) : (system.put i process shared).session? j = system.session? j := by
  unfold System.session?
  rw [System.put_other _ _ _ _ _ different]

theorem closed_put (live : system.Live i session) {process : Process agentMachine}
    {shared : Shared} (status : process.status = .running ∨ process.status = .stopped)
    (runId : Nat) : ledger.closed (system.put i process shared) runId = ledger.closed system runId := by
  refine closed_congr (fun request _ => ?_) runId
  by_cases same : request.1 = i
  · rw [same, live.session?, (System.Live.put_same system i shared status).session?]
    rfl
  · rw [session?_other same]

theorem closed_noted (answer : Answer) (runId : Nat) (live : next.Live i session) :
    (Ledger.note system (.perform i answer) next ledger).closed next runId =
      ledger.closed next runId := by
  unfold Ledger.closed Ledger.note
  rw [List.countP_append, Nat.add_eq_left]
  refine List.countP_eq_zero.mpr fun request member => ?_
  rw [(made_by member).1, live.session?]
  simp

theorem closed_ended (asked : Asked system ledger) (live : system.Live i session)
    {process : Process agentMachine} {shared : Shared}
    (status : process.status = .committed ∨ process.status = .aborted) (runId : Nat) :
    ledger.closed (system.put i process shared) runId = ledger.closed system runId +
      if session.run.any (·.key = runId) then ledger.askedBy i else 0 := by
  have ended : (system.put i process shared).session? i = none := by
    unfold System.session?
    rw [System.put_same]
    obtain ⟨program, own, now⟩ := process
    rcases status with rfl | rfl <;> rfl
  unfold Ledger.closed
  rw [List.countP_eq_countP_filter_add _ _ fun request => decide (request.1 = i),
    List.countP_filter, List.countP_filter, Nat.add_comm]
  congr 1
  · refine List.countP_congr fun request _ => ?_
    by_cases same : request.1 = i
    · simp [same, live.session?]
    · simp [same, session?_other same]
  · have owner : ∀ request ∈ ledger.requests, request.1 = i →
        ∃ tracked, session.run = some tracked ∧ tracked.key = request.2 := by
      intro request member same
      obtain ⟨process, found, tracked, run, keyed⟩ := asked.entries request member
      obtain ⟨other, there, rfl, _⟩ := live
      rw [same, there] at found
      cases found
      exact ⟨tracked, run, keyed⟩
    split
    · rename_i mine
      obtain ⟨tracked, run, keyed⟩ := (Option.any_eq_true _ _).mp mine
      refine List.countP_congr fun request member => ?_
      by_cases same : request.1 = i
      · obtain ⟨other, found, key⟩ := owner request member same
        rw [run] at found
        cases found
        simp [same, ended, ← key, of_decide_eq_true keyed]
      · simp [same]
    · rename_i others
      refine List.countP_eq_zero.mpr fun request member mine => ?_
      simp only [Bool.and_eq_true, decide_eq_true_eq] at mine
      obtain ⟨tracked, run, key⟩ := owner request member mine.2
      exact others (by simp [run, key, mine.1.1])

end Closed

/-- The turns of a committed run are within the budget that it was started with, and
that is the budget it waits with. -/
structure Within (ledger : Ledger) (shared : Shared) (run : AgentRun) : Prop where
  budget : ∃ limit, ledger.limit run.id = some limit ∧
    announcements (shared.eventsOf run.id) ≤ limit ∧
    (run.state = .waitingForApproval → iterationLimit run = limit)

def Funded (ledger : Ledger) (session : Session) : Prop :=
  ∀ tracked, session.run = some tracked → ∃ limit, ledger.limit tracked.key = some limit ∧
    (tracked.inserted = true ∨ tracked.original.state = .waitingForApproval →
      iterationLimit tracked.original = limit)

section Budgets

variable {system next : AgentSystem} {ledger : Ledger} {i : Nat} {session : Session}
  {shared : Shared} {op : Op} {runId : Nat}

theorem limit_noted (answer : Answer) (live : next.Live i session)
    (started : ∀ draft tracked, system.op? i = some (.addRun draft) → session.run = some tracked →
      tracked.key ≠ runId) :
    (Ledger.note system (.perform i answer) next ledger).limit runId = ledger.limit runId := by
  change Ledger.budgeted system next i ledger.limit runId = _
  unfold Ledger.budgeted
  split
  · rename_i draft tracked performing found
    rw [live.session?, Option.bind_some] at found
    rw [if_neg fun same => started draft tracked performing found same.symm]
  · rfl

theorem limit_started (answer : Answer) (live : next.Live i session) {before : Session}
    {draft : AgentRun} (performing : system.Performing i (.addRun draft) before)
    {tracked : Tracked runTable} (found : session.run = some tracked) :
    (Ledger.note system (.perform i answer) next ledger).limit tracked.key =
      before.version.map (·.maxIterations) := by
  change Ledger.budgeted system next i ledger.limit _ = _
  unfold Ledger.budgeted
  split
  · rename_i other mine _ same
    rw [live.session?, Option.bind_some, found] at same
    cases same
    rw [if_pos rfl, performing.live.session?]
    rfl
  · rename_i none
    exact absurd found fun _ => none draft tracked performing.op? (by rw [live.session?]; exact found)

theorem within_committed {i : Nat} {next : Shared} (consistent : Consistent shared)
    (owns : Owns i session shared) (counting : Counting session shared)
    (onward : Onward session shared) (orderly : Orderly session)
    (levels : ∀ tracked, session.run = some tracked →
      Meter.Level tracked (announcements session.events))
    (funded : Funded ledger session) (done : Committed i session shared next)
    (within : ∀ run ∈ shared.runs, Within ledger shared run) :
    ∀ run ∈ next.runs, Within ledger next run := by
  intro run member
  have events := announcements_committed owns done run.id
  rcases owns.committed_runs done member with
    ⟨before, others⟩ | ⟨tracked, row, found, keyed, same, written, origin⟩
  · have theirs : session.run.any (·.key = run.id) = false := by
      cases found : session.run with
      | none => rfl
      | some tracked => simpa using others tracked found
    rw [theirs, if_neg Bool.false_ne_true, Nat.add_zero] at events
    obtain ⟨limit, set, high, waits⟩ := (within run before).budget
    exact ⟨limit, set, events ▸ high, waits⟩
  · rw [if_pos (by simp [found, keyed])] at events
    have level := levels tracked found
    obtain ⟨limit, set, budget⟩ := funded tracked found
    have begins : session.events ≠ [] →
        tracked.inserted = true ∨ tracked.original.state = .waitingForApproval := by
      intro begun
      cases inserted : tracked.inserted with
      | true => exact .inl rfl
      | false => exact .inr (onward.waiting tracked found inserted begun)
    rw [keyed] at set
    refine ⟨limit, set, ?_, fun waiting => ?_⟩
    · rw [events]
      by_cases none : announcements session.events = 0
      · rw [none, Nat.add_zero]
        rcases origin with ⟨inserted, _⟩ | ⟨_, stored⟩
        · have fresh := (owns.newRun tracked found inserted).2.2.2
          rw [keyed] at fresh
          rw [eventsOf_fresh consistent fresh]
          exact Nat.zero_le _
        · obtain ⟨other, given, high, _⟩ := (within row stored).budget
          rw [same] at given high
          rw [given] at set
          cases set
          exact high
      · have begun := begun_of_announced none
        have counted := (onward.counted consistent owns counting found begun).1
        rw [keyed] at counted
        rw [counted, ← budget (begins begun)]
        exact level.within none
    · have states := counting.states tracked found
      rw [written] at waiting
      have last := replay_waits
        (fun checkpoint => (specFromCheckpoint checkpoint).maxIterations = limit) states ?_ ?_ waiting
      · rw [← written] at last
        exact last
      · intro checkpoint listed
        have begun := counting.begun tracked checkpoint found listed
        unfold specFromCheckpoint
        rw [orderly.spec tracked found checkpoint listed]
        exact budget (begins begun)
      · intro _ waits
        rcases origin with ⟨inserted, rfl⟩ | ⟨_, stored⟩
        · rw [(counting.fresh tracked found inserted).1] at waits
          cases waits
        · obtain ⟨other, given, _, paused⟩ := (within row stored).budget
          rw [same, set] at given
          cases given
          exact paused waits

end Budgets

structure Balanced (system : AgentSystem) (ledger : Ledger) : Prop where
  closed : ∀ run ∈ system.shared.runs,
    ledger.closed system run.id = announcements (system.shared.eventsOf run.id)
  fresh : ∀ i session tracked, system.Live i session → session.run = some tracked →
    tracked.inserted = true → ledger.closed system tracked.key = 0
  /-- A run that was never committed has lost its requests, within its budget. -/
  lost : ∀ runId, (∀ run ∈ system.shared.runs, run.id ≠ runId) →
    ledger.closed system runId ≠ 0 → runId < system.shared.nextId ∧
      ∃ limit, ledger.limit runId = some limit ∧ ledger.closed system runId ≤ limit
  within : ∀ run ∈ system.shared.runs, Within ledger system.shared run
  funded : ∀ i session, system.Live i session → Funded ledger session
  rested : ∀ run ∈ system.shared.runs, run.isTerminal = true ∨ run.state = .waitingForApproval

structure Charge (system : AgentSystem) (ledger : Ledger) : Prop where
  known : Known system
  tallied : tallies.Holds system
  asked : Asked system ledger
  orderly : ∀ i session, system.Live i session → Orderly session
  left : ∀ i session, system.processes i = some ⟨.done (), session, .stopped⟩ →
    LeftSuspended session → Session.Finished session

theorem charge {ok : AgentSystem → Ledger → AgentLabel → Prop} {registry : Registry}
    {system : AgentSystem} {ledger : Ledger} (charged : Charged ok registry system ledger) :
    Charge system ledger :=
  ⟨known _ registry system charged.reached, tallied _ registry system charged.reached,
    asked_charged charged, fun _ _ live => orderly _ registry system charged.reached live,
    left_finished system charged.reached⟩

section Balance

variable {system : AgentSystem} {ledger : Ledger} {i : Nat} {session : Session}

theorem inserted_apart {shared : Shared} {j : Nat} {other : Session} (different : j ≠ i)
    (owns : Owns i session shared) (theirs : Owns j other shared) {own tracked : Tracked runTable}
    (found : session.run = some own) (held : other.run = some tracked)
    (inserted : tracked.inserted = true) : own.key ≠ tracked.key := by
  intro same
  obtain ⟨_, mine, _, fresh⟩ := theirs.newRun tracked held inserted
  cases new : own.inserted with
  | true =>
      have key := (owns.newRun own found new).2.1
      rw [same] at key
      exact different (Locks.held_exclusive theirs.locks owns.locks mine key)
  | false =>
      obtain ⟨run, stored, keyed, _⟩ := owns.oldRun own found new
      exact fresh run stored (keyed.trans same)

theorem closed_tracked (balanced : Balanced system ledger) (known : Known system)
    (live : system.Live i session) {tracked : Tracked runTable} (found : session.run = some tracked) :
    ledger.closed system tracked.key = announcements (system.shared.eventsOf tracked.key) := by
  obtain ⟨consistent, owned⟩ := known.owned
  cases inserted : tracked.inserted with
  | true =>
      have fresh := ((owned i session live).newRun tracked found inserted).2.2.2
      rw [balanced.fresh i session tracked live found inserted, eventsOf_fresh consistent fresh]
      rfl
  | false =>
      obtain ⟨run, stored, keyed, _⟩ := (owned i session live).oldRun tracked found inserted
      rw [← keyed]
      exact balanced.closed run stored

theorem Balanced.begun (balanced : Balanced system ledger) (asked : Asked system ledger)
    (request : AgentRequest) (fresh : system.processes i = none) :
    Balanced (system.put i ⟨program request, .opened request, .running⟩ system.shared) ledger := by
  have closed (runId : Nat) : ledger.closed
      (system.put i ⟨program request, .opened request, .running⟩ system.shared) runId =
        ledger.closed system runId := by
    refine closed_congr (fun made member => ?_) runId
    obtain ⟨process, found, _⟩ := asked.entries made member
    rw [session?_other fun same => ?_]
    rw [same, fresh] at found
    cases found
  refine ⟨fun run member => ?_, ?_, fun runId none => ?_, balanced.within, ?_, balanced.rested⟩
  · rw [closed]
    exact balanced.closed run member
  · intro j other tracked live found inserted
    rw [closed]
    rcases Invariant.live_put live with ⟨_, rfl, _⟩ | ⟨_, before⟩
    · cases found
    · exact balanced.fresh j other tracked before found inserted
  · rw [closed]
    exact balanced.lost runId none
  · intro j other live
    rcases Invariant.live_put live with ⟨_, rfl, _⟩ | ⟨_, before⟩
    · exact fun _ found => nomatch found
    · exact balanced.funded j other before

theorem closed_next (balanced : Balanced system ledger) (consistent : Consistent system.shared) :
    ledger.closed system system.shared.nextId = 0 := by
  by_contra some
  have fresh : ∀ run ∈ system.shared.runs, run.id ≠ system.shared.nextId := by
    intro run stored same
    have low := consistent.runs run stored
    omega
  exact Nat.lt_irrefl _ (balanced.lost _ fresh some).1

theorem funded_performed (balanced : Balanced system ledger) (charge : Charge system ledger)
    {op : Op} {answer : Answer} {reply : Reply op} {shared : Shared} {next : AgentSystem}
    (performing : system.Performing i op session)
    (reacts : system.shared.react i session op answer = some (reply, shared))
    (live : next.Live i (session.after op reply))
    (kept : ∀ runId < system.shared.nextId,
      (Ledger.note system (.perform i answer) next ledger).limit runId = ledger.limit runId) :
    Funded (Ledger.note system (.perform i answer) next ledger) (session.after op reply) := by
  obtain ⟨consistent, owns⟩ := charge.known.owned
  have below (tracked : Tracked runTable) (found : session.run = some tracked) :
      tracked.key < system.shared.nextId :=
    (owns i session performing.live).run_below consistent found
  have funded := balanced.funded i session performing.live
  obtain ⟨answered, _, may⟩ := charge.asked.may performing
  have step := run_step session op reply
  generalize same : (session.after op reply).run = row at step
  intro tracked found
  rw [same] at found
  cases step with
  | same =>
      rw [kept _ (below tracked found)]
      exact funded tracked found
  | loaded id run none =>
      cases found
      have stored := (react_getRun none reacts).1
      obtain ⟨limit, set, _, waits⟩ := (balanced.within run stored).budget
      refine ⟨limit, (kept _ (consistent.runs run stored)).trans set, ?_⟩
      rintro (inserted | waiting)
      · cases inserted
      · exact waits waiting
  | inserted draft run =>
      cases found
      obtain ⟨rfl, _⟩ := react_addRun reacts
      have starts := may.starts draft rfl
      obtain ⟨spec, stored, limit⟩ := starts.spec
      refine ⟨spec.maxIterations, ?_, fun _ => ?_⟩
      · rw [limit_started answer live performing same]
        exact limit
      · change (specFromCheckpoint draft.checkpoint).maxIterations = _
        unfold specFromCheckpoint
        rw [stored]
  | assigned assignment before held =>
      cases found
      obtain ⟨limit, set, budget⟩ := funded before held
      exact ⟨limit, (kept _ (below before held)).trans set, budget⟩

theorem fresh_performed (balanced : Balanced system ledger) (consistent : Consistent system.shared)
    {op : Op} {answer : Answer} {reply : Reply op} {shared : Shared}
    (live : system.Live i session)
    (reacts : system.shared.react i session op answer = some (reply, shared))
    {tracked : Tracked runTable} (found : (session.after op reply).run = some tracked)
    (inserted : tracked.inserted = true) : ledger.closed system tracked.key = 0 := by
  have step := run_step session op reply
  rw [found] at step
  generalize same : some tracked = row at step
  cases step with
  | same => exact balanced.fresh i session tracked live same.symm inserted
  | loaded id run none =>
      cases same
      cases inserted
  | inserted draft run =>
      cases same
      obtain ⟨rfl, _⟩ := react_addRun reacts
      exact closed_next balanced consistent
  | assigned assignment before held =>
      cases same
      exact balanced.fresh i session before live held inserted

theorem Balanced.performed (balanced : Balanced system ledger) (charge : Charge system ledger)
    {op : Op} {program : Reply op → AgentProgram Unit} {answer : Answer} {reply : Reply op}
    {shared : Shared} (found : system.processes i = some ⟨.perform op program, session, .running⟩)
    (reacts : system.shared.react i session op answer = some (reply, shared)) :
    Balanced (system.put i ⟨program reply, session.after op reply, .running⟩ shared)
      (Ledger.note system (.perform i answer)
        (system.put i ⟨program reply, session.after op reply, .running⟩ shared) ledger) := by
  obtain ⟨consistent, owns⟩ := charge.known.owned
  have performing : system.Performing i op session := ⟨program, found⟩
  have change := reaction reacts
  have live : (system.put i ⟨program reply, session.after op reply, .running⟩ shared).Live i
      (session.after op reply) := System.Live.put_same system i shared (.inl rfl)
  have kept : ∀ runId < system.shared.nextId, (Ledger.note system (.perform i answer)
      (system.put i ⟨program reply, session.after op reply, .running⟩ shared) ledger).limit runId =
        ledger.limit runId := by
    intro runId low
    refine limit_noted answer live fun draft tracked starts inserted same => ?_
    rw [performing.op?] at starts
    cases starts
    cases inserted
    obtain ⟨rfl, _⟩ := react_addRun reacts
    rw [← same] at low
    exact Nat.lt_irrefl _ low
  have closed (runId : Nat) : (Ledger.note system (.perform i answer)
      (system.put i ⟨program reply, session.after op reply, .running⟩ shared) ledger).closed
        (system.put i ⟨program reply, session.after op reply, .running⟩ shared) runId =
          ledger.closed system runId := by
    rw [closed_noted answer runId live, closed_put performing.live (.inl rfl)]
  refine ⟨?_, ?_, ?_, ?_, ?_, ?_⟩
  · intro run member
    rw [System.put_shared, change.runs] at member
    rw [closed, balanced.closed run member]
    unfold Shared.eventsOf
    rw [System.put_shared, change.events]
  · intro j other tracked there held inserted
    rw [closed]
    rcases Invariant.live_put there with ⟨rfl, rfl, _⟩ | ⟨_, before⟩
    · exact fresh_performed balanced consistent performing.live reacts held inserted
    · exact balanced.fresh j other tracked before held inserted
  · intro runId none some
    rw [System.put_shared, change.runs] at none
    rw [closed] at some ⊢
    obtain ⟨low, limit, set, high⟩ := balanced.lost runId none some
    exact ⟨Nat.lt_of_lt_of_le low change.nextId, limit, (kept runId low).trans set, high⟩
  · intro run member
    rw [System.put_shared, change.runs] at member
    obtain ⟨limit, set, high, waits⟩ := (balanced.within run member).budget
    refine ⟨limit, (kept _ (consistent.runs run member)).trans set, ?_, waits⟩
    unfold Shared.eventsOf at high ⊢
    rw [System.put_shared, change.events]
    exact high
  · intro j other there
    rcases Invariant.live_put there with ⟨rfl, rfl, _⟩ | ⟨_, before⟩
    · exact funded_performed balanced charge performing reacts live kept
    · intro tracked held
      have low := (owns j other before).run_below consistent held
      rw [kept _ low]
      exact balanced.funded j other before tracked held
  · rw [System.put_shared, change.runs]
    exact balanced.rested

theorem Balanced.stopped (balanced : Balanced system ledger) {op : Op}
    (performing : system.Performing i op session) :
    Balanced (system.put i ⟨.done (), session, .stopped⟩ system.shared) ledger := by
  have closed (runId : Nat) : ledger.closed
      (system.put i ⟨.done (), session, .stopped⟩ system.shared) runId =
        ledger.closed system runId := closed_put performing.live (.inr rfl) runId
  refine ⟨fun run member => ?_, ?_, fun runId none => ?_, balanced.within, ?_, balanced.rested⟩
  · rw [closed]
    exact balanced.closed run member
  · intro j other tracked live found inserted
    rw [closed]
    rcases Invariant.live_put live with ⟨rfl, rfl, _⟩ | ⟨_, before⟩
    · exact balanced.fresh _ _ tracked performing.live found inserted
    · exact balanced.fresh j other tracked before found inserted
  · rw [closed]
    exact balanced.lost runId none
  · intro j other live
    rcases Invariant.live_put live with ⟨rfl, rfl, _⟩ | ⟨_, before⟩
    · exact balanced.funded _ _ performing.live
    · exact balanced.funded j other before

theorem leaves_silent {shared : Shared} (owns : Owns i session shared)
    (levels : ∀ tracked, session.run = some tracked →
      Meter.Level tracked (announcements session.events))
    (leaves : LeavesRun session) : announcements session.events = 0 := by
  by_contra some
  obtain ⟨event, member⟩ := List.exists_mem_of_ne_nil _ (begun_of_announced some)
  obtain ⟨_, tracked, found, _⟩ := owns.events event member
  have last := (levels tracked found).last
  rw [(leaves tracked found).2, if_neg some] at last
  cases last

theorem asked_ending (charge : Charge system ledger)
    (meets : ∀ session ∈ abandoned? system i, LeftSuspended session ∨ LeavesRun session)
    (ending : system.Ending i session) :
    ledger.askedBy i = announcements session.events := by
  have owns := charge.known.owned.2 i session ending.live
  have silent := leaves_silent owns (charge.asked.level ending)
  rcases ending with running | stopped
  · obtain ⟨answered, count, steady⟩ := charge.asked.running i _ _ running
    have counts := Meter.Steady.counts steady
    exact count.trans counts.symm
  · have left := charge.asked.stopped i _ _ stopped
    have abandoned : session ∈ abandoned? system i := by simp [abandoned?, stopped]
    rcases meets session abandoned with announced | leaves
    · exact (left.suspended announced).symm
    · have counts := left.counts
      have none := silent leaves
      omega

theorem finished_rests {session : Session} (finished : session.Finished)
    {tracked : Tracked runTable} (found : session.run = some tracked) :
    tracked.inserted = false ∧ tracked.assigned = [] ∨
      ∃ state, lastState tracked.assigned = some state ∧
        (state.isTerminal = true ∨ state = .waitingForApproval) := by
  rcases finished tracked found with untouched | concluded
  · exact .inl (untouched.run tracked found)
  · obtain ⟨state, last, shape⟩ := concluded.state
    exact .inr ⟨state, last, shape.imp And.left And.left⟩

theorem rested_committed (charge : Charge system ledger)
    (meets : ∀ session ∈ abandoned? system i, LeftSuspended session ∨ LeavesRun session)
    (ending : system.Ending i session) {next : Shared}
    (done : Committed i session system.shared next)
    (rested : ∀ run ∈ system.shared.runs, run.isTerminal = true ∨ run.state = .waitingForApproval) :
    ∀ run ∈ next.runs, run.isTerminal = true ∨ run.state = .waitingForApproval := by
  intro run member
  rcases (charge.known.owned.2 i session ending.live).committed_runs done member with
    ⟨before, _⟩ | ⟨tracked, row, found, _, _, written, origin⟩
  · exact rested run before
  have rests : tracked.inserted = false ∧ tracked.assigned = [] ∨
      ∃ state, lastState tracked.assigned = some state ∧
        (state.isTerminal = true ∨ state = .waitingForApproval) := by
    rcases ending with running | stopped
    · exact finished_rests (charge.known.kept.finished running) found
    · have abandoned : session ∈ abandoned? system i := by simp [abandoned?, stopped]
      rcases meets session abandoned with announced | leaves
      · exact finished_rests (charge.left i session stopped announced) found
      · exact .inl (leaves tracked found)
  rcases rests with ⟨loaded, clean⟩ | ⟨state, last, shape⟩
  · rcases origin with ⟨inserted, _⟩ | ⟨_, stored⟩
    · rw [loaded] at inserted
      cases inserted
    · rw [written, clean]
      exact rested row stored
  · have final : run.state = state := by
      rw [written, replay_state, last]
      rfl
    unfold AgentRun.isTerminal
    rw [final]
    exact shape

theorem Balanced.committed (balanced : Balanced system ledger) (charge : Charge system ledger)
    (meets : ∀ session ∈ abandoned? system i, LeftSuspended session ∨ LeavesRun session)
    (ending : system.Ending i session) {shared : Shared}
    (commits : system.shared.commit i session = some shared) :
    Balanced (system.put i ⟨.done (), session, .committed⟩ shared) ledger := by
  have done := Agents.committed commits
  have live := ending.live
  have owns := charge.known.owned.2 i session live
  have consistent := charge.known.owned.1
  have closed (runId : Nat) : ledger.closed
      (system.put i ⟨.done (), session, .committed⟩ shared) runId = ledger.closed system runId +
        if session.run.any (·.key = runId) then announcements session.events else 0 := by
    rw [closed_ended charge.asked live (.inl rfl), asked_ending charge meets ending]
  have apart {runId : Nat} (others : ∀ tracked, session.run = some tracked → tracked.key ≠ runId) :
      ledger.closed (system.put i ⟨.done (), session, .committed⟩ shared) runId =
        ledger.closed system runId := by
    rw [closed, if_neg fun mine => ?_, Nat.add_zero]
    obtain ⟨tracked, found, same⟩ := (Option.any_eq_true _ _).mp mine
    exact others tracked found (of_decide_eq_true same)
  refine ⟨?_, ?_, ?_, ?_, ?_, ?_⟩
  · intro run member
    rw [closed, System.put_shared, announcements_committed owns done]
    congr 1
    rcases owns.committed_runs done member with
      ⟨before, _⟩ | ⟨tracked, _, found, keyed, _⟩
    · exact balanced.closed run before
    · rw [← keyed]
      exact closed_tracked balanced charge.known live found
  · intro j other tracked there held inserted
    rcases Invariant.live_put there with ⟨_, _, status⟩ | ⟨different, before⟩
    · rcases status with ended | ended <;> cases ended
    · have theirs := charge.known.owned.2 j other before
      rw [apart fun own found => inserted_apart different owns theirs found held inserted]
      exact balanced.fresh j other tracked before held inserted
  · intro runId none some
    have others : ∀ tracked, session.run = Option.some tracked → tracked.key ≠ runId := by
      intro tracked found same
      obtain ⟨run, stored, keyed⟩ := owns.run_stored found
      rw [← done.runs] at stored
      exact none run stored (keyed.trans same)
    have before : ∀ run ∈ system.shared.runs, run.id ≠ runId := by
      intro run stored same
      obtain ⟨row, later, keyed, _⟩ := done.grows.runs run stored
      exact none row later (keyed.trans same)
    rw [apart others] at some ⊢
    rw [System.put_shared, done.nextId]
    exact balanced.lost runId before some
  · exact within_committed consistent owns (charge.known.counted.2 i session live)
      (charge.tallied.2 i session live) (charge.orderly i session live) (charge.asked.level ending)
      (balanced.funded i session live) done balanced.within
  · intro j other there
    rcases Invariant.live_put there with ⟨_, _, status⟩ | ⟨_, before⟩
    · rcases status with ended | ended <;> cases ended
    · exact balanced.funded j other before
  · exact rested_committed charge meets ending done balanced.rested

theorem asked_live (asked : Asked system ledger) (live : system.Live i session) :
    ∃ turns, ledger.askedBy i ≤ announcements session.events ∧
      announcements session.events ≤ turns ∧
      ∀ tracked, session.run = some tracked → Meter.Level tracked turns := by
  obtain ⟨⟨program, own, status⟩, found, rfl, running | stopped⟩ := live
  · cases running
    obtain ⟨answered, count, metered⟩ := asked.running i program own found
    cases program with
    | done value =>
        have counts := Meter.Steady.counts metered
        refine ⟨announcements own.events, ?_, Nat.le_refl _, Meter.Steady.level metered⟩
        exact Nat.le_of_eq (count.trans counts.symm)
    | perform op next =>
        have counts : announcements own.events = answered + Meter.inFlight op := metered.1.counts
        have early : Meter.answers op ≤ Meter.inFlight op := by
          cases op with
          | chat messages model temperature tools => exact Nat.le_refl _
          | _ => exact Nat.zero_le _
        refine ⟨_, ?_, Nat.le_add_right _ _, metered.1.level⟩
        rw [count, counts]
        exact Nat.add_le_add_left early _
  · cases stopped
    have left := asked.stopped i program own found
    exact ⟨_, left.counts, Nat.le_refl _, left.level⟩

theorem askedBy_within (asked : Asked system ledger) (live : system.Live i session)
    {tracked : Tracked runTable} (found : session.run = some tracked)
    (some : ledger.askedBy i ≠ 0) :
    startIteration tracked.original + ledger.askedBy i ≤ iterationLimit tracked.original := by
  obtain ⟨turns, low, high, levels⟩ := asked_live asked live
  have within := (levels tracked found).within (by omega)
  omega

theorem Balanced.aborted (balanced : Balanced system ledger) (charge : Charge system ledger)
    (meets : ∀ session ∈ system.session? i, ∀ tracked ∈ session.run,
      tracked.inserted = false → ledger.askedBy i = 0) (live : system.Live i session) :
    Balanced (system.put i ⟨.done (), session, .aborted⟩ (system.shared.release i)) ledger := by
  have owns := charge.known.owned.2 i session live
  have closed (runId : Nat) : ledger.closed
      (system.put i ⟨.done (), session, .aborted⟩ (system.shared.release i)) runId =
        ledger.closed system runId +
          if session.run.any (·.key = runId) then ledger.askedBy i else 0 :=
    closed_ended charge.asked live (.inr rfl) runId
  have apart {runId : Nat} (others : ∀ tracked, session.run = some tracked →
      tracked.inserted = true → tracked.key ≠ runId) :
      ledger.closed (system.put i ⟨.done (), session, .aborted⟩ (system.shared.release i)) runId =
        ledger.closed system runId := by
    rw [closed, Nat.add_eq_left, ite_eq_right_iff]
    intro mine
    obtain ⟨tracked, found, same⟩ := (Option.any_eq_true _ _).mp mine
    cases inserted : tracked.inserted with
    | true => exact absurd (of_decide_eq_true same) (others tracked found inserted)
    | false => exact meets session live.session? tracked found inserted
  refine ⟨?_, ?_, ?_, fun run member => ⟨(balanced.within run member).budget⟩, ?_,
    balanced.rested⟩
  · intro run member
    rw [apart fun tracked found inserted => ?_]
    · exact balanced.closed run member
    · exact ((owns.newRun tracked found inserted).2.2.2 run member).symm
  · intro j other tracked there held inserted
    rcases Invariant.live_put there with ⟨_, _, status⟩ | ⟨different, before⟩
    · rcases status with ended | ended <;> cases ended
    · have theirs := charge.known.owned.2 j other before
      rw [apart fun own found _ => inserted_apart different owns theirs found held inserted]
      exact balanced.fresh j other tracked before held inserted
  · intro runId none some
    by_cases mine : ∃ tracked, session.run = Option.some tracked ∧ tracked.inserted = true ∧
        tracked.key = runId
    · obtain ⟨tracked, found, inserted, rfl⟩ := mine
      have total := closed tracked.key
      rw [if_pos (by simp [found]), balanced.fresh i session tracked live found inserted,
        Nat.zero_add] at total
      rw [total] at some ⊢
      obtain ⟨limit, set, budget⟩ := balanced.funded i session live tracked found
      have within := askedBy_within charge.asked live found some
      rw [budget (.inl inserted)] at within
      exact ⟨(owns.newRun tracked found inserted).1, limit, set, by omega⟩
    · have others : ∀ tracked, session.run = Option.some tracked → tracked.inserted = true →
          tracked.key ≠ runId :=
        fun tracked found inserted same => mine ⟨tracked, found, inserted, same⟩
      rw [apart others] at some ⊢
      exact balanced.lost runId none some
  · intro j other there
    rcases Invariant.live_put there with ⟨_, _, status⟩ | ⟨_, before⟩
    · rcases status with ended | ended <;> cases ended
    · exact balanced.funded j other before

theorem balanced_charged {registry : Registry} (charged : Charged RequestsKept registry system ledger) :
    Balanced system ledger := by
  refine System.recorded_induction Balanced ?_ ?_ system ledger charged
  · refine ⟨fun _ member => (nomatch member), fun i session _ live => ?_,
      fun _ _ some => absurd rfl some, fun _ member => (nomatch member), fun i session live => ?_,
      fun _ member => (nomatch member)⟩ <;>
    · obtain ⟨_, found, _⟩ := live
      cases found
  · intro system ledger label next recorded balanced meets transition
    have charge := charge recorded
    cases transition with
    | begin i request fresh => exact balanced.begun charge.asked request fresh
    | perform i answer op program session reply shared found reacts =>
        exact balanced.performed charge found reacts
    | stop i op program session found awaits => exact balanced.stopped ⟨program, found⟩
    | commit i session shared ending commits => exact balanced.committed charge meets ending commits
    | abort i session live => exact balanced.aborted charge meets live
    | change edit =>
        exact ⟨balanced.closed, balanced.fresh, balanced.lost,
          fun run member => ⟨(balanced.within run member).budget⟩, balanced.funded, balanced.rested⟩

end Balance

section Runs

variable {system : AgentSystem} {ledger : Ledger} {i j : Nat} {session other : Session}
  {tracked : Tracked runTable}

theorem askedBy_some {request : Nat × Nat} (member : request ∈ ledger.requests) :
    ledger.askedBy request.1 ≠ 0 := by
  have positive : 0 < ledger.askedBy request.1 :=
    List.countP_pos_iff.mpr ⟨request, member, decide_eq_true rfl⟩
  omega

theorem begun_of_asked (asked : Asked system ledger) (live : system.Live i session)
    (some : ledger.askedBy i ≠ 0) : session.events ≠ [] := by
  obtain ⟨turns, low, _⟩ := asked_live asked live
  exact begun_of_announced (by omega)

theorem streams_alone (known : Known system) (live : system.Live i session)
    (there : system.Live j other) (begun : session.events ≠ []) (goes : other.events ≠ [])
    {own : Tracked runTable} (found : session.run = some own) (held : other.run = some tracked)
    (same : own.key = tracked.key) : i = j := by
  have consistent := known.owned.1
  have owns := known.owned.2 i session live
  have theirs := known.owned.2 j other there
  have mine := known.counted.2 i session live
  have counting := known.counted.2 j other there
  have base := base_counted consistent owns mine found begun
  have current := base_counted consistent theirs counting held goes
  obtain ⟨first, listed, number⟩ := mine.numbered.head begun
  obtain ⟨event, member, again⟩ := counting.numbered.head goes
  obtain ⟨left, one, isOne, owner⟩ := owns.events first listed
  obtain ⟨right, two, isTwo, owned⟩ := theirs.events event member
  rw [found] at isOne
  rw [held] at isTwo
  cases isOne
  cases isTwo
  rw [owner, number, same, base, same, ← current] at left
  rw [owned, again] at right
  exact Locks.held_exclusive owns.locks theirs.locks left right

theorem underway_streamed (charge : Charge system ledger) (live : system.Live i session)
    (begun : session.events ≠ []) (found : session.run = some tracked) :
    ledger.underway system tracked.key = ledger.askedBy i := by
  refine List.countP_congr fun request member => ?_
  obtain ⟨process, there, held, run, keyed⟩ := charge.asked.entries request member
  simp only [Bool.and_eq_true, decide_eq_true_eq, Bool.not_eq_true']
  constructor
  · rintro ⟨same, open'⟩
    obtain ⟨other, now⟩ := Option.isSome_iff_exists.mp (by simpa using open')
    have goes := System.live_of_session? now
    obtain ⟨again, found', rfl, _⟩ := id goes
    rw [there] at found'
    cases found'
    have more := begun_of_asked charge.asked goes (askedBy_some member)
    exact (streams_alone charge.known live goes begun more found run
      (same.symm.trans keyed.symm)).symm
  · intro same
    obtain ⟨again, here, rfl, _⟩ := id live
    rw [same, here] at there
    cases there
    rw [found] at run
    cases run
    rw [same, live.session?]
    exact ⟨keyed.symm, rfl⟩

theorem underway_none (asked : Asked system ledger) {runId : Nat}
    (none : ∀ i session tracked, system.Live i session → session.run = some tracked →
      tracked.key = runId → ledger.askedBy i = 0) : ledger.underway system runId = 0 := by
  refine List.countP_eq_zero.mpr fun request member mine => ?_
  simp only [Bool.and_eq_true, decide_eq_true_eq, Bool.not_eq_true'] at mine
  obtain ⟨session, now⟩ := Option.isSome_iff_exists.mp (by simpa using mine.2)
  have live := System.live_of_session? now
  obtain ⟨process, found, held, run, keyed⟩ := asked.entries request member
  obtain ⟨again, here, rfl, _⟩ := id live
  rw [found] at here
  cases here
  exact askedBy_some member (none request.1 _ held live run (keyed.trans mine.1))

theorem asked_streamed (charge : Charge system ledger) (balanced : Balanced system ledger)
    (live : system.Live i session) (begun : session.events ≠ [])
    (found : session.run = some tracked) :
    ledger.asked tracked.key = startIteration tracked.original + ledger.askedBy i := by
  have counted := (charge.tallied.2 i session live).counted charge.known.owned.1
    (charge.known.owned.2 i session live) (charge.known.counted.2 i session live) found begun
  rw [Ledger.asked_eq ledger system, closed_tracked balanced charge.known live found, counted.1,
    underway_streamed charge live begun found]

theorem streamed_budget (charge : Charge system ledger) (balanced : Balanced system ledger)
    (live : system.Live i session) (begun : session.events ≠ [])
    (found : session.run = some tracked) :
    ledger.limit tracked.key = some (iterationLimit tracked.original) := by
  obtain ⟨limit, set, budget⟩ := balanced.funded i session live tracked found
  rw [set, budget]
  cases inserted : tracked.inserted with
  | true => exact .inl rfl
  | false => exact .inr ((charge.tallied.2 i session live).waiting tracked found inserted begun)

theorem asked_within (charge : Charge system ledger) (balanced : Balanced system ledger)
    {request : Nat × Nat} (member : request ∈ ledger.requests) :
    ∃ limit, ledger.limit request.2 = some limit ∧ ledger.asked request.2 ≤ limit := by
  by_cases open' : ∃ i session tracked, system.Live i session ∧ session.run = some tracked ∧
      tracked.key = request.2 ∧ ledger.askedBy i ≠ 0
  · obtain ⟨i, session, tracked, live, found, keyed, some⟩ := open'
    have begun := begun_of_asked charge.asked live some
    rw [← keyed, asked_streamed charge balanced live begun found]
    exact ⟨_, streamed_budget charge balanced live begun found,
      askedBy_within charge.asked live found some⟩
  · have none := underway_none charge.asked fun i session tracked live found keyed => by
      by_contra some
      exact open' ⟨i, session, tracked, live, found, keyed, some⟩
    have total := Ledger.asked_eq ledger system request.2
    rw [none, Nat.add_zero] at total
    have positive : 0 < ledger.asked request.2 :=
      List.countP_pos_iff.mpr ⟨request, member, decide_eq_true rfl⟩
    rw [total] at positive ⊢
    by_cases stored : ∃ run ∈ system.shared.runs, run.id = request.2
    · obtain ⟨run, stored, keyed⟩ := stored
      obtain ⟨limit, set, high, _⟩ := (balanced.within run stored).budget
      rw [← keyed, balanced.closed run stored]
      exact ⟨limit, set, high⟩
    · have never : ∀ run ∈ system.shared.runs, run.id ≠ request.2 :=
        fun run here same => stored ⟨run, here, same⟩
      exact (balanced.lost request.2 never (by omega)).2

def ahead : Op → Nat
  | .writeEvent event | .deliver event => if event.type = .llmRequest then 1 else 0
  | _ => 0

theorem ahead_eq (op : Op) :
    ahead op + Meter.answers op = Meter.announces op + Meter.inFlight op := by
  cases op with
  | deliver event => exact Nat.add_comm _ _
  | _ => rfl

theorem iterations_streamed (charge : Charge system ledger) (balanced : Balanced system ledger)
    {op : Op} (performing : system.Performing i op session) (begun : session.events ≠ [])
    (found : session.run = some tracked) :
    tracked.row.iterations = ledger.asked tracked.key + ahead op := by
  have live := performing.live
  obtain ⟨answered, count, may⟩ := charge.asked.may performing
  have announced : announcements session.events = answered + Meter.inFlight op := may.counts
  have total := asked_streamed charge balanced live begun found
  have origin := ((charge.tallied.2 i session live).counted charge.known.owned.1
    (charge.known.owned.2 i session live) (charge.known.counted.2 i session live) found begun).2
  have even := ahead_eq op
  have replayed := replay_iterations tracked.assigned tracked.original
  rw [(may.level tracked found).last] at replayed
  change tracked.row.iterations = _ at replayed
  change tracked.row.iterations = (if announcements session.events + Meter.announces op = 0 then
    none else some _).getD _ at replayed
  split at replayed
  · rename_i none
    rw [replayed, Option.getD_none, origin]
    omega
  · rename_i some
    rw [replayed, Option.getD_some]
    change startIteration _ + (announcements session.events + Meter.announces op) = _
    omega

theorem lastState_mem {assigned : List RunAssignment} {state : RunState}
    (last : lastState assigned = some state) :
    ∃ assignment ∈ assigned, assignment.state? = some state := by
  induction assigned using List.reverseRecOn with
  | nil => cases last
  | append_singleton rest assignment ih =>
      rw [lastState_append] at last
      cases own : assignment.state? with
      | none =>
          rw [own, Option.none_or] at last
          obtain ⟨other, member, same⟩ := ih last
          exact ⟨other, List.mem_append_left _ member, same⟩
      | some value =>
          rw [own] at last
          exact ⟨assignment, by simp, own.trans last⟩

theorem stream_ended (charge : Charge system ledger)
    (done : system.processes i = some ⟨.done (), session, .running⟩)
    (streams : session.streams = true) (begun : session.events ≠ [])
    (found : session.run = some tracked) :
    tracked.row.state = .completed ∨ tracked.row.state = .failed ∨
      tracked.row.state = .waitingForApproval := by
  have live : system.Live i session := ⟨_, done, rfl, .inl rfl⟩
  rcases charge.known.kept.finished done tracked found with untouched | concluded
  · obtain ⟨loaded, clean⟩ := untouched.run tracked found
    have waiting := (charge.tallied.2 i session live).waiting tracked found loaded begun
    rw [Tracked.row, clean, Tracked.replay_nil]
    exact .inr (.inr waiting)
  · obtain ⟨state, last, shape⟩ := concluded.state
    have final : tracked.row.state = state := by
      rw [Tracked.row, replay_state, last]
      rfl
    rw [final]
    rcases shape with ⟨terminal, _⟩ | ⟨waiting, _⟩
    · cases state with
      | completed => exact .inl rfl
      | failed => exact .inr (.inl rfl)
      | cancelled =>
          obtain ⟨assignment, member, same⟩ := lastState_mem last
          cases assignment with
          | state value =>
              cases same
              cases (charge.orderly i session live).states streams tracked found _ member
          | _ => cases same
      | _ => cases terminal
    · exact .inr (.inr waiting)

end Runs

structure Budgeted (system : AgentSystem) (ledger : Ledger) : Prop where
  /-- All the requests for a run, over all its suspensions, are within its budget. -/
  within : ∀ request ∈ ledger.requests, ∃ limit, ledger.limit request.2 = some limit ∧
    ledger.asked request.2 ≤ limit
  /-- A committed run that nobody has asked for since counts its requests. -/
  stored : ∀ run ∈ system.shared.runs, (∀ i session tracked, system.Live i session →
    session.run = some tracked → tracked.key = run.id → ledger.askedBy i = 0) →
      run.iterations = ledger.asked run.id
  /-- So does the run of a stream, up to the request that it announces. -/
  streamed : ∀ i op session tracked, system.Performing i op session → session.events ≠ [] →
    session.run = some tracked → tracked.row.iterations = ledger.asked tracked.key + ahead op
  rested : ∀ run ∈ system.shared.runs, run.isTerminal = true ∨ run.state = .waitingForApproval
  ended : ∀ i session tracked, system.processes i = some ⟨.done (), session, .running⟩ →
    session.streams = true → session.events ≠ [] → session.run = some tracked →
      tracked.row.state = .completed ∨ tracked.row.state = .failed ∨
        tracked.row.state = .waitingForApproval
  terminates : ∀ i process, system.processes i = some process →
    Acc Program.Continues process.program

/-- As long as streams are left at their suspension only and no request is rolled back,
the requests for every run are within its budget, and the run counts them. -/
theorem requests_budgeted (registry : Registry) (system : AgentSystem) (ledger : Ledger)
    (charged : Charged RequestsKept registry system ledger) : Budgeted system ledger := by
  have charge := charge charged
  have balanced := balanced_charged charged
  refine ⟨fun request member => asked_within charge balanced member, ?_,
    fun i op session tracked performing begun found =>
      iterations_streamed charge balanced performing begun found,
    balanced.rested, fun i session tracked done streams begun found =>
      stream_ended charge done streams begun found,
    fun i process _ => Program.continues_acc process.program⟩
  intro run member idle
  rw [Ledger.asked_eq ledger system, balanced.closed run member, underway_none charge.asked idle]
  exact (charge.tallied.1 run member).iterations

/-- A run that is suspended and approved makes two of its three requests. -/
theorem requests_budgeted_approvedLookup : ∃ system : AgentSystem, ∃ ledger : Ledger,
    Budgeted system ledger ∧ ledger.limit 0 = some 3 ∧ ledger.asked 0 = 2 := by
  obtain ⟨system, ledger, charged, checked⟩ := charged_checked RequestsKept desk approvedLookup
    (fun ⟨_, ledger⟩ => ledger.limit 0 = some 3 && ledger.asked 0 = 2) (by decide +kernel)
  obtain ⟨limit, total⟩ := Bool.and_eq_true_iff.mp checked
  exact ⟨system, ledger, requests_budgeted desk system ledger charged, of_decide_eq_true limit,
    of_decide_eq_true total⟩

/-- Process `i` goes on with the approved run, asks the model and is rolled back. -/
def fails (i : Nat) : List AgentLabel :=
  reviews i 0 true ++ decides i ++ executes i ++ resumes i (answersWith "It is Ada.") ++ [.abort i]

/-- A stream is left when it announces its first request: the run goes on for ever and
counts a request that was not made. And what a rollback loses is asked again: the model
has been asked four times for a run with a budget of three that counts one request. -/
theorem requests_unbudgeted :
    (∃ system : AgentSystem, ∃ ledger : Ledger, ∃ run ∈ system.shared.runs,
      Charged (fun _ _ _ => True) desk system ledger ∧ system.session? 0 = none ∧
        run.state = .running ∧ run.iterations = 1 ∧ ledger.asked run.id = 0) ∧
    ∃ system : AgentSystem, ∃ ledger : Ledger, ∃ run ∈ system.shared.runs,
      Charged (fun _ _ _ => True) desk system ledger ∧ ledger.limit run.id = some 3 ∧
        ledger.asked run.id = 4 ∧ run.iterations = 1 := by
  constructor
  · obtain ⟨system, ledger, charged, checked⟩ := charged_checked (fun _ _ _ => True) desk
      ((starts 0 policy (answersWith "Hello.")).take 11 ++ [.stop 0, .commit 0])
      (fun ⟨system, ledger⟩ => (system.session? 0).isNone && system.shared.runs.any fun run =>
        run.state = .running && run.iterations = 1 && ledger.asked run.id = 0)
      (by decide +kernel)
    obtain ⟨ended, found⟩ := Bool.and_eq_true_iff.mp checked
    obtain ⟨run, stored, shape⟩ := List.any_eq_true.mp found
    obtain ⟨state, none⟩ := Bool.and_eq_true_iff.mp shape
    obtain ⟨running, counted⟩ := Bool.and_eq_true_iff.mp state
    exact ⟨system, ledger, run, stored, charged, Option.isNone_iff_eq_none.mp ended,
      of_decide_eq_true running, of_decide_eq_true counted, of_decide_eq_true none⟩
  · obtain ⟨system, ledger, charged, checked⟩ := charged_checked (fun _ _ _ => True) desk
      (starts 0 policy (asks [lookupCall "c1"]) ++ suspends 0 ++ [.commit 0] ++ fails 1 ++ fails 2 ++
        fails 3)
      (fun ⟨system, ledger⟩ => system.shared.runs.any fun run =>
        ledger.limit run.id = some 3 && ledger.asked run.id = 4 && run.iterations = 1)
      (by decide +kernel)
    obtain ⟨run, stored, shape⟩ := List.any_eq_true.mp checked
    obtain ⟨limits, counted⟩ := Bool.and_eq_true_iff.mp shape
    obtain ⟨limit, total⟩ := Bool.and_eq_true_iff.mp limits
    exact ⟨system, ledger, run, stored, charged, of_decide_eq_true limit, of_decide_eq_true total,
      of_decide_eq_true counted⟩

end AiPlatform.Agents
