import AiPlatform.ExecutionStates

/-!
Approved calls. An approve request reads the run and its pending execution, and
what serialises two of them is not the state they read but the number of the
event that announces the decision. A cancellation or an expiry writes no event:
it is kept apart from a decision only by the row locks, and only if it does not
commit between the reads and the first flush. An approved call is recorded in
the unit of work that made it, so a rollback makes the execution pending again.
-/

namespace AiPlatform.Agents

def DecidesOn (session : Session) (runId : Nat) : Prop :=
  session.streams = true ∧ ∃ tracked, session.run = some tracked ∧ tracked.inserted = false ∧
    tracked.original.state = .waitingForApproval ∧ tracked.key = runId

def Touches (session : Session) (runId : Nat) : Prop :=
  (∃ tracked, session.run = some tracked ∧ tracked.assigned ≠ [] ∧ tracked.key = runId) ∨
    ∃ execution ∈ session.executions, execution.original.runId = runId

/-- Cancellations and expiries do not commit to a run that a live request
decides on, and no request is rolled back after an approved call. -/
def DecidesAlone (system : AgentSystem) : AgentLabel → Prop
  | .commit i => ∀ session ∈ system.session? i, session.streams = false →
      ∀ j other runId, system.Live j other → DecidesOn other runId → ¬ Touches session runId
  | .abort i => ∀ call ∈ system.shared.calls, call.process = i → call.direct = true
  | .begin _ _ | .perform _ _ | .stop _ | .change _ => True

def Waits (shared : Shared) (runId : Nat) (keys : List Nat) : Prop :=
  (∃ run ∈ shared.runs, run.id = runId ∧ run.state = .waitingForApproval) ∧
    ∀ id ∈ keys, Pending shared runId id

section Commits

variable {i : Nat} {session : Session} {shared next : Shared} {runId : Nat} {keys : List Nat}

theorem Waits.stored (waits : Waits shared runId keys) (runs : next.runs = shared.runs)
    (executions : next.executions = shared.executions) : Waits next runId keys := by
  unfold Waits
  rw [runs]
  exact ⟨waits.1, fun id member => (waits.2 id member).stored executions⟩

theorem Waits.committed (waits : Waits shared runId keys) (consistent : Consistent shared)
    (owns : Owns i session shared) (done : Committed i session shared next)
    (run : ∀ tracked, session.run = some tracked → tracked.key = runId → tracked.assigned = [])
    (executions : ∀ execution ∈ session.executions, execution.original.runId ≠ runId) :
    Waits next runId keys := by
  obtain ⟨⟨row, member, rfl, waiting⟩, pending⟩ := waits
  refine ⟨⟨row, run_kept done member ?_, rfl, waiting⟩, fun id listed => ?_⟩
  · exact fun tracked found _ keyed => run tracked found keyed
  · obtain ⟨execution, stored, keyed, owner, state⟩ := pending id listed
    refine pending_kept done ⟨execution, stored, keyed, owner, state⟩
      fun tracked mine loaded same => ?_
    have theirs := owns.loaded_row consistent mine loaded stored (keyed.trans same.symm)
    exact absurd (theirs.symm.trans owner) (executions tracked mine)

theorem Waits.streamed (waits : Waits shared runId keys) (consistent : Consistent shared)
    (owns : Owns i session shared) (settled : session.Settled)
    (done : Committed i session shared next) (streams : session.streams = true)
    (apart : session.events = [] ∨ ∀ own, session.run = some own → own.key ≠ runId) :
    Waits next runId keys := by
  rcases apart with bare | others
  · obtain ⟨runs, executions⟩ := untouched_committed (settled.quiet streams bare) done
    exact waits.stored runs executions
  · refine waits.committed consistent owns done ?_ ?_
    · exact fun tracked found keyed => absurd keyed (others tracked found)
    · intro execution member same
      cases found : session.run with
      | none =>
          rw [owns.idle found streams] at member
          cases member
      | some run =>
          exact others run found ((owns.belongs run found execution member).symm.trans same)

theorem Waits.undisturbed (waits : Waits shared runId keys) (consistent : Consistent shared)
    (owns : Owns i session shared) (done : Committed i session shared next)
    (apart : ¬ Touches session runId) : Waits next runId keys := by
  refine waits.committed consistent owns done ?_ ?_
  · intro tracked found keyed
    by_contra assigned
    exact apart (.inl ⟨tracked, found, assigned, keyed⟩)
  · exact fun execution member same => apart (.inr ⟨execution, member, same⟩)

end Commits

/-- Who decides on a run and is not overtaken finds it waiting, and what it
loaded pending, until it commits. -/
def reviewing : Invariant agentDiscipline DecidesAlone Known where
  shared := fun _ => True
  session := fun _ => Relies Waits
  begins _ _ request _ _ _ := relies_opened Waits request _
  performs system i answer op s reply after known _ performing allowed _ relies reacts := by
    have change := reaction reacts
    have kept : ∀ runId keys, Waits system.shared runId keys → Waits after runId keys :=
      fun _ _ waits => waits.stored change.runs change.executions
    refine ⟨trivial, ?_, fun j t _ _ other => other.stored change.events kept⟩
    refine (relies.performed ?_ ?_ allowed reacts).stored change.events kept
    · exact fun run member waiting => ⟨⟨run, member, rfl, waiting⟩, fun _ none => nomatch none⟩
    · intro runId keys found waits stored
      refine ⟨waits.1, fun id member => ?_⟩
      obtain ⟨row, listed, rfl⟩ := List.mem_map.mp member
      obtain ⟨here, owner, state⟩ := mem_pendingOf.mp (stored row (Option.mem_toList.mp listed))
      exact ⟨row, here, rfl, owner, state⟩
  commits system i s after known meets ending settled _ _ commits := by
    have live := ending.live
    have owns := known.owned.2 i s live
    have done := committed commits
    refine ⟨trivial, fun j t different other before => ?_⟩
    refine before.committed different (known.owned.2 j t other) (known.counted.2 j t other) owns
      (known.counted.2 i s live) done ?_
    intro streams tracked found loaded waiting apart waits
    cases outside : s.streams with
    | true => exact waits.streamed known.owned.1 owns settled done outside apart
    | false =>
        refine waits.undisturbed known.owned.1 owns done ?_
        exact meets s live.session? outside j t _ other
          ⟨streams, tracked, found, loaded, waiting, rfl⟩
  aborts _ _ _ _ _ _ _ _ :=
    ⟨trivial, fun _ _ _ _ other => other.stored rfl fun _ _ waits => waits.stored rfl rfl⟩
  changes system edit _ _ _ :=
    ⟨trivial, fun _ _ _ other => other.stored rfl fun _ _ waits =>
      ⟨waits.1, fun id member => (pending_edit edit).mpr (waits.2 id member)⟩⟩

theorem awaited {registry : Registry} {system : AgentSystem}
    (reached : Reached DecidesAlone registry system) : reviewing.Holds system :=
  reviewing.reached (fun _ => rfl) trivial (fun system reached => known _ registry system reached)
    system reached

theorem approved_call {system : AgentSystem} (known : Known system)
    (awaits : reviewing.Holds system) {i : Nat} {session : Session} (live : system.Live i session)
    {executionId : Nat} {tool : Tool} {invocation : ToolInvocation}
    (may : session.MayExecute executionId tool invocation)
    (approved : (system.shared.call i session executionId tool invocation).direct = false) :
    session.executed = [] ∧ session.events ≠ [] ∧ .execution executionId ∈ session.held ∧
      Waits system.shared invocation.runId [executionId] ∧
      ∃ execution ∈ session.executions, execution.key = executionId ∧
        execution.inserted = false ∧ execution.assigned ≠ [] := by
  cases may with
  | direct run execution tracked streams member keyed inserted =>
      simp only [Shared.call, List.any_eq_false] at approved
      exact absurd (by simp [keyed, inserted]) (approved execution member)
  | approved run execution tracked streams only keyed loaded decided waiting held begun unexecuted
      approves read named projected arguments owner =>
      refine ⟨unexecuted, begun, held, ?_, execution, by simp [only], keyed, loaded, decided⟩
      rcases awaits.2 i session live streams run tracked waiting.1 waiting.2 with overtaken | waits
      · exact absurd (overtaken.silent (known.counted.2 i session live)) begun
      · rw [owner]
        refine ⟨waits.1, fun id member => waits.2 id ?_⟩
        rw [List.mem_singleton.mp member, mem_loadedKeys]
        exact ⟨execution, by simp [only], loaded, keyed⟩

def Closed (shared : Shared) (id : Nat) : Prop :=
  ∃ row ∈ shared.executions, row.id = id ∧ row.approvalState ≠ .pending

/-- The unit of work decides the execution it has handed to an executor. -/
structure Handles (session : Session) (id : Nat) : Prop where
  executed : id ∈ session.executed
  held : .execution id ∈ session.held
  begun : session.events ≠ []
  row : ∃ execution ∈ session.executions, execution.key = id ∧ execution.inserted = false ∧
    execution.assigned ≠ []

section Steps

variable {i : Nat} {session : Session} {shared next : Shared} {id : Nat}

theorem Closed.committed (closed : Closed shared id) (deciding : Deciding session)
    (done : Committed i session shared next) : Closed next id := by
  obtain ⟨row, member, keyed, state⟩ := closed
  refine ⟨Tracked.update session.executions row, ?_, ?_, ?_⟩
  · rw [done.executions]
    exact Tracked.update_stored (T := executionTable) member
  · exact (sameCall_update _ row).id.trans keyed
  · rcases Tracked.update_cases (T := executionTable) session.executions row with
      ⟨same, _⟩ | ⟨tracked, listed, loaded, _, same⟩
    · rwa [same]
    · rw [same]
      rcases deciding.rows.closed tracked listed loaded with clean | shut
      · rwa [clean, Tracked.replay_nil]
      · exact shut row

theorem Closed.edited (closed : Closed shared id) (change : Registry → Registry) :
    Closed (shared.edit change) id := by
  obtain ⟨row, member, keyed, state⟩ := closed
  obtain ⟨later, now, same, kept⟩ := execution_edit change member
  exact ⟨later, now, same.id.trans keyed, kept ▸ state⟩

theorem Handles.committed (handles : Handles session id) (owns : Owns i session shared)
    (deciding : Deciding session) (done : Committed i session shared next) : Closed next id := by
  obtain ⟨execution, listed, keyed, loaded, decided⟩ := handles.row
  obtain ⟨row, stored, same⟩ := owns.oldRows execution listed loaded
  refine ⟨Tracked.update session.executions row, ?_, ?_, ?_⟩
  · rw [done.executions]
    exact Tracked.update_stored (T := executionTable) stored
  · exact (sameCall_update _ row).id.trans (same.id.trans keyed)
  · rw [Tracked.update_eq (T := executionTable) owns.distinct listed loaded same.id.symm]
    exact (deciding.rows.closed execution listed loaded).resolve_left decided row

theorem executed_after {op : Op} {reply : Reply op} (member : id ∈ session.executed) :
    id ∈ (session.after op reply).executed := by
  cases op with
  | getCurrentVersion agentId => cases reply <;> exact member
  | getRun runId =>
      cases reply with
      | none => exact member
      | some run =>
          simp only [Session.after]
          split <;> exact member
  | getToolByName name => cases reply <;> exact member
  | execute executionId tool invocation => exact List.mem_append_left _ member
  | raise error => cases reply
  | _ => exact member

theorem begun_after {op : Op} {reply : Reply op} (begun : session.events ≠ []) :
    (session.after op reply).events ≠ [] := by
  cases op with
  | getCurrentVersion agentId => cases reply <;> exact begun
  | getRun runId =>
      cases reply with
      | none => exact begun
      | some run =>
          simp only [Session.after]
          split <;> exact begun
  | getToolByName name => cases reply <;> exact begun
  | writeEvent event => exact wrote_begun event session
  | raise error => cases reply
  | _ => exact begun

theorem Handles.performed (handles : Handles session id) {op : Op} {reply : Reply op}
    (allowed : session.allowed op) (change : Reaction i session shared op reply next) :
    Handles (session.after op reply) id := by
  obtain ⟨keys, _, _, grown⟩ := change.locks
  refine ⟨executed_after handles.executed, ?_, begun_after handles.begun, ?_⟩
  · rw [grown]
    exact List.mem_append_left _ handles.held
  · obtain ⟨execution, listed, keyed, loaded, decided⟩ := handles.row
    have step := rows_step session op reply
    generalize (session.after op reply).executions = rows,
      (session.after op reply).suspendedOn = marks at step
    cases step with
    | same => exact ⟨execution, listed, keyed, loaded, decided⟩
    | inserted run tool arguments row =>
        exact ⟨execution, List.mem_append_left _ listed, keyed, loaded, decided⟩
    | assigned executionId assignment =>
        refine ⟨_, List.mem_map.mpr ⟨execution, listed, rfl⟩, ?_⟩
        split
        · exact ⟨keyed, loaded, by simp⟩
        · exact ⟨keyed, loaded, decided⟩
    | pending runId found => exact absurd allowed.first handles.begun
    | stale cutoff found =>
        rw [allowed.2.2] at listed
        cases listed

end Steps

def approvedIds (shared : Shared) : List Nat :=
  (shared.calls.filter fun call => !call.direct).map (·.executionId)

theorem mem_approvedIds {shared : Shared} {id : Nat} :
    id ∈ approvedIds shared ↔
      ∃ call ∈ shared.calls, call.direct = false ∧ call.executionId = id := by
  simp [approvedIds, and_assoc]

/-- An approved call is made once, and either its execution is committed as
decided, or the unit of work that made it is still to commit. -/
structure CalledOnce (system : AgentSystem) : Prop where
  handled : ∀ call ∈ system.shared.calls, call.direct = false →
    Closed system.shared call.executionId ∨
      ∃ session, system.Live call.process session ∧ Handles session call.executionId
  once : (approvedIds system.shared).Nodup

theorem CalledOnce.fresh {system : AgentSystem} (called : CalledOnce system) (known : Known system)
    {i : Nat} {session : Session} (live : system.Live i session) {runId id : Nat}
    (unexecuted : session.executed = []) (held : .execution id ∈ session.held)
    (pending : Pending system.shared runId id) : id ∉ approvedIds system.shared := by
  intro member
  obtain ⟨call, listed, approved, rfl⟩ := mem_approvedIds.mp member
  rcases called.handled call listed approved with closed | ⟨other, theirs, handles⟩
  · obtain ⟨row, stored, keyed, state⟩ := closed
    obtain ⟨same, here, mine, _, now⟩ := pending
    rw [List.inj_on_of_nodup_map known.owned.1.executionsOnce here stored
      (mine.trans keyed.symm)] at now
    exact state now
  · have locks := known.owned.2
    have itself : call.process = i :=
      Locks.held_exclusive (locks _ other theirs).locks (locks i session live).locks handles.held held
    rw [itself] at theirs
    cases System.live_unique theirs live
    have executed := handles.executed
    rw [unexecuted] at executed
    cases executed

theorem approvedIds_performed {i : Nat} {session : Session} {shared next : Shared} {op : Op}
    {reply : Reply op} (change : Reaction i session shared op reply next) :
    approvedIds next = approvedIds shared ++
      ((callsOf i session shared op).filter fun call => !call.direct).map (·.executionId) := by
  simp only [approvedIds, change.calls, List.filter_append, List.map_append]

theorem handles_executed {i : Nat} {session : Session} {shared next : Shared} {executionId : Nat}
    {tool : Tool} {invocation : ToolInvocation} {reply : Except Raised ToolResult}
    (change : Reaction i session shared (.execute executionId tool invocation) reply next)
    (begun : session.events ≠ []) (held : .execution executionId ∈ session.held)
    (row : ∃ execution ∈ session.executions, execution.key = executionId ∧
      execution.inserted = false ∧ execution.assigned ≠ []) :
    Handles (session.after (.execute executionId tool invocation) reply) executionId := by
  obtain ⟨keys, _, _, grown⟩ := change.locks
  refine ⟨List.mem_append_right _ (List.mem_singleton.mpr rfl), ?_, begun, row⟩
  rw [grown]
  exact List.mem_append_left _ held

theorem calledOnce_step {system next : AgentSystem} {label : AgentLabel} (known : Known system)
    (awaits : reviewing.Holds system) (called : CalledOnce system)
    (meets : DecidesAlone system label) (transition : System.Transition system label next) :
    CalledOnce next := by
  cases transition with
  | begin i request fresh =>
      refine ⟨fun call member approved => ?_, called.once⟩
      rcases called.handled call member approved with closed | ⟨session, live, handles⟩
      · exact .inl closed
      · have different : call.process ≠ i := by
          intro same
          obtain ⟨process, found, _⟩ := live
          rw [same, fresh] at found
          cases found
        exact .inr ⟨session, live.put_other different _ _, handles⟩
  | perform i answer op program session reply shared found reacts =>
      have performing : system.Performing i op session := ⟨program, found⟩
      have allowed := known.kept.allowed performing
      have change := reaction reacts
      have here : System.Live (system.put i ⟨program reply, session.after op reply, .running⟩ shared)
          i (session.after op reply) := System.Live.put_same _ _ _ (.inl rfl)
      have closes : ∀ {id : Nat}, Closed system.shared id → Closed shared id := by
        intro id closed
        unfold Closed
        rw [change.executions]
        exact closed
      constructor
      · intro call member approved
        rcases List.mem_append.mp (change.calls ▸ member) with before | now
        · rcases called.handled call before approved with closed | ⟨other, live, handles⟩
          · exact .inl (closes closed)
          · by_cases same : call.process = i
            · rw [same] at live ⊢
              cases System.live_unique live performing.live
              exact .inr ⟨_, here, handles.performed allowed change⟩
            · exact .inr ⟨other, live.put_other same _ _, handles⟩
        · cases op with
          | execute executionId tool invocation =>
              rw [List.mem_singleton.mp now] at approved ⊢
              obtain ⟨_, begun, held, _, row⟩ :=
                approved_call known awaits performing.live allowed approved
              exact .inr ⟨_, here, handles_executed change begun held row⟩
          | _ => cases now
      · change (approvedIds shared).Nodup
        rw [approvedIds_performed change]
        cases op with
        | execute executionId tool invocation =>
            cases approved : (system.shared.call i session executionId tool invocation).direct with
            | true => simpa [callsOf, approved] using called.once
            | false =>
                obtain ⟨unexecuted, _, held, waits, _⟩ :=
                  approved_call known awaits performing.live allowed approved
                have fresh := called.fresh known performing.live unexecuted held
                  (waits.2 executionId (List.mem_singleton.mpr rfl))
                have one : ((callsOf i session system.shared
                    (.execute executionId tool invocation)).filter fun call => !call.direct).map
                      (·.executionId) = [executionId] := by
                  simp [callsOf, approved]
                  rfl
                rw [one]
                refine called.once.append (List.nodup_singleton _) fun id old new => ?_
                rw [List.mem_singleton.mp new] at old
                exact fresh old
        | _ => simpa [callsOf] using called.once
  | stop i op program session found awaits =>
      refine ⟨fun call member approved => ?_, called.once⟩
      rcases called.handled call member approved with closed | ⟨other, live, handles⟩
      · exact .inl closed
      · by_cases same : call.process = i
        · rw [same] at live ⊢
          cases System.live_unique live (System.Performing.live ⟨program, found⟩)
          exact .inr ⟨_, System.Live.put_same _ _ _ (.inr rfl), handles⟩
        · exact .inr ⟨other, live.put_other same _ _, handles⟩
  | commit i session shared ending commits =>
      have done := committed commits
      have owns := known.owned.2 i session ending.live
      have deciding := known.decided.2 i session ending.live
      constructor
      · intro call member approved
        rcases called.handled call (done.calls ▸ member) approved with
          closed | ⟨other, live, handles⟩
        · exact .inl (closed.committed deciding done)
        · by_cases same : call.process = i
          · rw [same] at live
            cases System.live_unique live ending.live
            exact .inl (handles.committed owns deciding done)
          · exact .inr ⟨other, live.put_other same _ _, handles⟩
      · change (approvedIds shared).Nodup
        rw [approvedIds, done.calls]
        exact called.once
  | abort i session live =>
      refine ⟨fun call member approved => ?_, called.once⟩
      rcases called.handled call member approved with closed | ⟨other, live, handles⟩
      · exact .inl closed
      · have different : call.process ≠ i := by
          intro same
          rw [meets call member same] at approved
          cases approved
        exact .inr ⟨other, live.put_other different _ _, handles⟩
  | change edit =>
      refine ⟨fun call member approved => ?_, called.once⟩
      rcases called.handled call member approved with closed | handled
      · exact .inl (closed.edited edit)
      · exact .inr handled

theorem calledOnce {registry : Registry} (system : AgentSystem)
    (reached : Reached DecidesAlone registry system) : CalledOnce system := by
  have initially : CalledOnce (idle registry) :=
    ⟨fun call member => (by cases member), List.nodup_nil⟩
  refine System.reaches_induction CalledOnce initially ?_ system reached
  intro system label next reached called meets transition
  exact calledOnce_step (known _ registry system reached) (awaited reached) called meets transition

theorem request_after (session : Session) (op : Op) (reply : Reply op) :
    (session.after op reply).request = session.request := by
  cases op with
  | getCurrentVersion agentId => cases reply <;> rfl
  | getRun runId =>
      cases reply with
      | none => rfl
      | some run =>
          simp only [Session.after]
          split <;> rfl
  | getToolByName name => cases reply <;> rfl
  | raise error => cases reply
  | _ => rfl

theorem streams_after (session : Session) (op : Op) (reply : Reply op) :
    (session.after op reply).streams = session.streams := by
  rw [Session.streams, request_after]
  rfl

theorem mayAssignRun_outside {session : Session} {assignment : RunAssignment}
    (may : session.MayAssignRun assignment) (outside : session.streams = false) :
    assignment = .state .cancelled := by
  cases may with
  | cancel => rfl
  | step tracked _ run streams => exact absurd (outside.symm.trans streams) (by decide)
  | suspend tracked _ suspension run streams => exact absurd (outside.symm.trans streams) (by decide)
  | finish tracked _ run streams => exact absurd (outside.symm.trans streams) (by decide)

def OnlyCancels (session : Session) : Prop :=
  session.streams = false → ∀ tracked, session.run = some tracked →
    ∀ assignment ∈ tracked.assigned, assignment = .state .cancelled

theorem onlyCancels_after (session : Session) (op : Op) (reply : Reply op)
    (allowed : session.allowed op) (only : OnlyCancels session) :
    OnlyCancels (session.after op reply) := by
  intro outside tracked found assignment listed
  rw [streams_after] at outside
  have step := run_step session op reply
  generalize (session.after op reply).run = row at step found
  cases step with
  | same => exact only outside tracked found assignment listed
  | loaded id run none =>
      cases found
      cases listed
  | inserted draft run =>
      cases found
      cases listed
  | assigned assignment before kept =>
      cases found
      rcases List.mem_append.mp listed with old | new
      · exact only outside before kept _ old
      · rw [List.mem_singleton.mp new]
        exact mayAssignRun_outside allowed outside

section Steps

variable {i : Nat} {session : Session} {shared next : Shared}

theorem cancelled_committed (consistent : Consistent shared) (counting : Counting session shared)
    (deciding : Deciding session) (relies : Relies Waits session shared)
    (only : OnlyCancels session) (done : Committed i session shared next) {run : AgentRun}
    (member : run ∈ shared.runs) (cancelled : run.state = .cancelled) :
    ∃ later ∈ next.runs, later.id = run.id ∧ later.state = .cancelled := by
  refine ⟨Tracked.update session.run.toList run, ?_, Tracked.key_update (T := runTable) _ _, ?_⟩
  · rw [done.runs]
    exact Tracked.update_stored (T := runTable) member
  rcases Tracked.update_cases (T := runTable) session.run.toList run with
    ⟨same, _⟩ | ⟨tracked, listed, loaded, keyed, same⟩
  · rwa [same]
  rw [same]
  have found : session.run = some tracked := by simpa using listed
  cases outside : session.streams with
  | true =>
      by_cases clean : tracked.assigned = []
      · rwa [clean, Tracked.replay_nil]
      · -- The stream goes on with a run that it read as waiting, and that still waits.
        obtain ⟨begun, some⟩ := deciding.taken.begun outside tracked found loaded clean
        have waiting := deciding.taken.waiting outside tracked found loaded some
        rcases relies outside tracked found loaded waiting with overtaken | waits
        · exact absurd (overtaken.silent counting) begun
        · obtain ⟨row, stored, mine, waits⟩ := waits.1
          rw [List.inj_on_of_nodup_map consistent.runsOnce stored member (mine.trans keyed),
            cancelled] at waits
          cases waits
  | false =>
      refine Tracked.replay_keeps (T := runTable) (fun row => row.state = .cancelled) _ _ cancelled ?_
      intro assignment listed row _
      rw [only outside tracked found assignment listed]
      rfl

theorem closed_step {system : AgentSystem} {label : AgentLabel} (known : Known system)
    (effect : Effect system label next) {id : Nat} (closed : Closed system.shared id) :
    Closed next id := by
  cases effect with
  | unchanged => exact closed
  | reacted i answer op session reply _ performing reacts =>
      unfold Closed
      rw [(reaction reacts).executions]
      exact closed
  | committed i session _ ending done =>
      exact closed.committed (known.decided.2 i session ending.live) done
  | released i session live => exact closed
  | edited change => exact closed.edited change

theorem cancelled_step {registry : Registry} {system : AgentSystem} {label : AgentLabel}
    (reached : Reached DecidesAlone registry system) (effect : Effect system label next)
    {run : AgentRun} (member : run ∈ system.shared.runs) (cancelled : run.state = .cancelled) :
    ∃ later ∈ next.runs, later.id = run.id ∧ later.state = .cancelled := by
  cases effect with
  | unchanged => exact ⟨run, member, rfl, cancelled⟩
  | reacted i answer op session reply _ performing reacts =>
      rw [(reaction reacts).runs]
      exact ⟨run, member, rfl, cancelled⟩
  | committed i session _ ending done =>
      have facts := known _ registry system reached
      have only := Invariant.session_reached (D := agentDiscipline) OnlyCancels
        (fun _ _ _ same => by cases same)
        (fun session op reply allowed _ => onlyCancels_after session op reply allowed)
        (fun _ => rfl) system reached ending.live
      exact cancelled_committed facts.owned.1 (facts.counted.2 i session ending.live)
        (facts.decided.2 i session ending.live) ((awaited reached).2 i session ending.live) only
        done member cancelled
  | released i session live => exact ⟨run, member, rfl, cancelled⟩
  | edited change => exact ⟨run, member, rfl, cancelled⟩

end Steps

theorem cancelled_stays {registry : Registry} {system later : AgentSystem}
    (reached : Reached DecidesAlone registry system)
    (goes : System.Reaches DecidesAlone system later) {run : AgentRun}
    (member : run ∈ system.shared.runs) (cancelled : run.state = .cancelled) :
    ∃ last ∈ later.shared.runs, last.id = run.id ∧ last.state = .cancelled := by
  induction goes with
  | start => exact ⟨run, member, rfl, cancelled⟩
  | step label before meets stepped ih =>
      obtain ⟨last, kept, same, state⟩ := ih
      obtain ⟨next, now, again, ended⟩ := cancelled_step (reached.trans before)
        (effect (System.step_transition stepped)) kept state
      exact ⟨next, now, again.trans same, ended⟩

theorem closed_stays {registry : Registry} {system later : AgentSystem}
    (reached : Reached DecidesAlone registry system)
    (goes : System.Reaches DecidesAlone system later) {id : Nat}
    (closed : Closed system.shared id) : Closed later.shared id := by
  induction goes with
  | start => exact closed
  | step label before meets stepped ih =>
      exact closed_step (known _ registry _ (reached.trans before))
        (effect (System.step_transition stepped)) ih

/-- Neither the run of the call was committed as cancelled, nor its execution as
expired or rejected. -/
structure Standing (shared : Shared) (call : Call) : Prop where
  run : ∀ run ∈ shared.runs, run.id = call.runId → run.state ≠ .cancelled
  execution : ∀ row ∈ shared.executions, row.id = call.executionId →
    row.approvalState ≠ .expired ∧ row.approvalState ≠ .rejected

theorem standing_waits {registry : Registry} {system later : AgentSystem}
    (reached : Reached DecidesAlone registry system)
    (goes : System.Reaches DecidesAlone system later) {call : Call}
    (waits : Waits later.shared call.runId [call.executionId]) : Standing system.shared call := by
  have consistent := (owned _ registry later (reached.trans goes)).1
  obtain ⟨⟨row, stored, mine, waiting⟩, pending⟩ := waits
  constructor
  · intro run member keyed cancelled
    obtain ⟨last, kept, same, state⟩ := cancelled_stays reached goes member cancelled
    rw [List.inj_on_of_nodup_map consistent.runsOnce kept stored
      (same.trans (keyed.trans mine.symm)), waiting] at state
    cases state
  · intro decided member keyed
    obtain ⟨execution, here, same, _, now⟩ := pending call.executionId (List.mem_singleton.mpr rfl)
    have still : decided.approvalState = .pending := by
      by_contra state
      obtain ⟨last, kept, again, closed⟩ := closed_stays reached goes ⟨decided, member, keyed, state⟩
      rw [List.inj_on_of_nodup_map consistent.executionsOnce kept here
        (again.trans same.symm)] at closed
      exact closed now
    rw [still]
    exact ⟨by decide, by decide⟩

theorem standing_step {registry : Registry} {system middle : AgentSystem} {next : Shared}
    {label : AgentLabel} (reached : Reached DecidesAlone registry system)
    (goes : System.Reaches DecidesAlone system middle) (effect : Effect middle label next) :
    ∃ made, next.calls = middle.shared.calls ++ made ∧
      ∀ call ∈ made, call.direct = false → Standing system.shared call := by
  have whole := reached.trans goes
  have nothing : ∃ made, middle.shared.calls = middle.shared.calls ++ made ∧
      ∀ call ∈ made, call.direct = false → Standing system.shared call :=
    ⟨[], (List.append_nil _).symm, fun _ member => by cases member⟩
  cases effect with
  | unchanged => exact nothing
  | reacted i answer op session reply _ performing reacts =>
      refine ⟨_, (reaction reacts).calls, fun call member approved => ?_⟩
      cases op with
      | execute executionId tool invocation =>
          have facts := known _ registry middle whole
          rw [List.mem_singleton.mp member] at approved ⊢
          obtain ⟨_, _, _, waits, _⟩ := approved_call facts (awaited whole) performing.live
            (facts.kept.allowed performing) approved
          exact standing_waits reached goes waits
      | _ => cases member
  | committed i session _ ending done =>
      rw [done.calls]
      exact nothing
  | released i session live => exact nothing
  | edited change => exact nothing

/-- As long as decisions are taken alone, an approved call is made at most once,
and never after its run was cancelled or its execution expired or rejected. -/
theorem approved_calls_standing (registry : Registry) (system later : AgentSystem)
    (reached : Reached DecidesAlone registry system)
    (goes : System.Reaches DecidesAlone system later) :
    (approvedIds later.shared).Nodup ∧ ∃ made, later.shared.calls = system.shared.calls ++ made ∧
      ∀ call ∈ made, call.direct = false → Standing system.shared call := by
  refine ⟨(calledOnce later (reached.trans goes)).once, ?_⟩
  induction goes with
  | start => exact ⟨[], (List.append_nil _).symm, fun _ member => by cases member⟩
  | step label before meets stepped ih =>
      obtain ⟨made, calls, standing⟩ := ih
      obtain ⟨more, added, also⟩ :=
        standing_step reached before (effect (System.step_transition stepped))
      refine ⟨made ++ more, ?_, fun call member approved => ?_⟩
      · rw [added, calls, List.append_assoc]
      · rcases List.mem_append.mp member with old | new
        · exact standing call old approved
        · exact also call new approved

def streamsOnly (system : AgentSystem) : AgentLabel → Bool
  | .commit i => (system.session? i).all (·.streams)
  | .abort _ => false
  | .begin _ _ | .perform _ _ | .stop _ | .change _ => true

theorem decidesAlone_streams (system : AgentSystem) (label : AgentLabel)
    (streams : streamsOnly system label = true) : DecidesAlone system label := by
  cases label with
  | commit i =>
      intro session found outside
      rw [streamsOnly, Option.mem_def.mp found, Option.all_some, outside] at streams
      cases streams
  | abort i => cases streams
  | _ => trivial

/-- A run is suspended, and a call of it is approved and made. -/
theorem approved_calls_standing_approvedLookup : ∃ later : AgentSystem,
    approvedIds later.shared = [1] ∧ (approvedIds later.shared).Nodup := by
  have here : Reached DecidesAlone desk (idle desk) := .start
  obtain ⟨later, goes, checked⟩ := System.reaches_checked approvedLookup
    (fun later => approvedIds later.shared = [1]) here decidesAlone_streams (by decide +kernel)
  exact ⟨later, of_decide_eq_true checked,
    (approved_calls_standing desk (idle desk) later here goes).1⟩

/-- A cancellation commits after the approver has read the run and before the
decision is flushed; and the request that made an approved call is rolled back
before another approver looks. -/
theorem approved_call_late : ∃ system twice : AgentSystem,
    Reached anyStep desk system ∧ Reached anyStep desk twice ∧
      (∃ call ∈ system.shared.calls, call.direct = false ∧ call.runState = some .cancelled ∧
        call.approvalState = some .expired) ∧
      ¬ (approvedIds twice.shared).Nodup := by
  obtain ⟨system, reached, checked⟩ := reached_checked anyStep desk
    (starts 0 policy (asks [lookupCall "c1"]) ++ suspends 0 ++ [.commit 0] ++ reviews 1 0 true ++
      cancels 2 0 ++ [.commit 2] ++ decides 1 ++ (executes 1).take 2)
    (fun system => system.shared.calls.any fun call => !call.direct &&
      call.runState = some .cancelled && call.approvalState = some .expired)
    (by decide +kernel)
  obtain ⟨twice, again, repeated⟩ := reached_checked anyStep desk
    (starts 0 policy (asks [lookupCall "c1"]) ++ suspends 0 ++ [.commit 0] ++ reviews 1 0 true ++
      decides 1 ++ (executes 1).take 2 ++ [.abort 1] ++ reviews 2 0 true ++ decides 2 ++
      (executes 2).take 2)
    (fun system => approvedIds system.shared = [1, 1]) (by decide +kernel)
  obtain ⟨call, member, shape⟩ := List.any_eq_true.mp checked
  simp only [Bool.and_eq_true, Bool.not_eq_true', decide_eq_true_eq] at shape
  refine ⟨system, twice, reached, again, ⟨call, member, shape.1.1, shape.1.2, shape.2⟩, ?_⟩
  rw [of_decide_eq_true repeated]
  decide

end AiPlatform.Agents
