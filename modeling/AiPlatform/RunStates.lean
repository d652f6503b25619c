import AiPlatform.ExecutionStates

/-!
The states a run rests in. When a unit of work is committed, the run it worked
on is meant to have ended or to wait for exactly one pending execution. The
stream writes the state after the event that announces it, so a stream that is
abandoned at that event leaves the run as it was; approvals are expired by code
that does not touch the run; and a cancellation expires the execution that was
pending when it looked.
-/

namespace AiPlatform.Agents

def LeftSuspended (session : Session) : Prop :=
  session.events.getLast?.map (·.type) = some .toolApprovalRequired

def abandoned? (system : AgentSystem) (i : Nat) : Option Session :=
  match system.processes i with
  | some ⟨_, session, .stopped⟩ => some session
  | _ => none

theorem delivered_finished {session : Session} {event : RunEvent} (may : session.MayDeliver event)
    (left : LeftSuspended session) : session.Finished := by
  obtain ⟨written, last, _, _, type⟩ := may.last
  rw [LeftSuspended, last, Option.map_some, Option.some.injEq, type] at left
  exact (may.suspended left).1

theorem left_finished {ok : AgentSystem → AgentLabel → Prop} {registry : Registry}
    (system : AgentSystem) (reached : Reached ok registry system) :
    ∀ i session, system.processes i = some ⟨.done (), session, .stopped⟩ →
      LeftSuspended session → session.Finished := by
  refine System.reaches_induction
    (fun system => ∀ i (session : Session), system.processes i = some ⟨.done (), session, .stopped⟩ →
      LeftSuspended session → session.Finished) (fun i session found => by cases found) ?_ system
    reached
  intro system label next reached finished _ transition j session found left
  have kept := agentDiscipline.kept_reached (fun _ => rfl) system reached
  cases transition with
  | begin i request fresh =>
      rcases System.put_found found with ⟨_, same⟩ | ⟨_, before⟩
      · cases congrArg Process.status same
      · exact finished j session before left
  | perform i answer op program other reply shared performing reacts =>
      rcases System.put_found found with ⟨_, same⟩ | ⟨_, before⟩
      · cases congrArg Process.status same
      · exact finished j session before left
  | stop i op program other performing awaits =>
      rcases System.put_found found with ⟨_, same⟩ | ⟨_, before⟩
      · cases same
        have allowed : Session.allowed session op := kept.allowed ⟨program, performing⟩
        cases op with
        | deliver event => exact delivered_finished allowed left
        | chat messages model temperature tools =>
            rw [LeftSuspended, allowed.2.1] at left
            cases left
        | _ => cases awaits
      · exact finished j session before left
  | commit i other shared ending commits =>
      rcases System.put_found found with ⟨_, same⟩ | ⟨_, before⟩
      · cases same
      · exact finished j session before left
  | abort i other live =>
      rcases System.put_found found with ⟨_, same⟩ | ⟨_, before⟩
      · cases same
      · exact finished j session before left
  | change edit => exact finished j session found left

/-- A cancellation has seen all that is pending of its run, and an expiry comes
too late for all of its executions. -/
structure EndsPending (session : Session) (shared : Shared) : Prop where
  cancels : ∀ run ∈ session.run, run.assigned ≠ [] → ∀ row ∈ shared.executions,
    row.runId = run.key → row.approvalState = .pending →
      ∃ tracked ∈ session.executions, tracked.key = row.id
  expires : session.run = none → ∀ tracked ∈ session.executions, ∀ row ∈ shared.executions,
    row.id = tracked.key → row.approvalState ≠ .pending

/-- An abandoned stream is committed only if it announced its suspension or
changed nothing, and other requests only if they end what is pending of a run
together with the run. -/
def CommitsAtRest (system : AgentSystem) : AgentLabel → Prop
  | .commit i =>
      (∀ session ∈ abandoned? system i, LeftSuspended session ∨ session.Untouched) ∧
        ∀ session ∈ system.session? i, session.streams = false → EndsPending session system.shared
  | .begin _ _ | .perform _ _ | .stop _ | .abort _ | .change _ => True

instance (session : Session) : Decidable session.Untouched :=
  decidable_of_iff
    ((∀ tracked ∈ session.run, tracked.inserted = false ∧ tracked.assigned = []) ∧
      ∀ tracked ∈ session.executions, tracked.inserted = false ∧ tracked.assigned = [])
    ⟨fun both => ⟨both.1, both.2⟩, fun untouched => ⟨untouched.run, untouched.executions⟩⟩

instance (session : Session) (shared : Shared) : Decidable (EndsPending session shared) :=
  decidable_of_iff
    ((∀ run ∈ session.run, run.assigned ≠ [] → ∀ row ∈ shared.executions, row.runId = run.key →
      row.approvalState = .pending → ∃ tracked ∈ session.executions, tracked.key = row.id) ∧
      (session.run = none → ∀ tracked ∈ session.executions, ∀ row ∈ shared.executions,
        row.id = tracked.key → row.approvalState ≠ .pending))
    ⟨fun both => ⟨both.1, both.2⟩, fun ends => ⟨ends.cancels, ends.expires⟩⟩

instance (session : Session) : Decidable (LeftSuspended session) :=
  inferInstanceAs (Decidable (session.events.getLast?.map (·.type) = some .toolApprovalRequired))

instance (system : AgentSystem) (label : AgentLabel) : Decidable (CommitsAtRest system label) :=
  match label with
  | .commit i => inferInstanceAs (Decidable (
      (∀ session ∈ abandoned? system i, LeftSuspended session ∨ session.Untouched) ∧
        ∀ session ∈ system.session? i, session.streams = false → EndsPending session system.shared))
  | .begin _ _ | .perform _ _ | .stop _ | .abort _ | .change _ => inferInstanceAs (Decidable True)

theorem commits_finished {system : AgentSystem} {i : Nat} {session : Session} (known : Known system)
    (left : ∀ i session, system.processes i = some ⟨.done (), session, .stopped⟩ →
      LeftSuspended session → session.Finished)
    (meets : CommitsAtRest system (.commit i)) (ending : system.Ending i session) :
    session.Finished := by
  rcases ending with running | stopped
  · exact known.kept.finished running
  · have abandoned : session ∈ abandoned? system i := by simp [abandoned?, stopped]
    rcases meets.1 session abandoned with announced | untouched
    · exact left i session stopped announced
    · exact fun _ _ => .inl untouched

def AtRest (shared : Shared) (run : AgentRun) : Prop :=
  (run.isTerminal = true ∧ ∀ id, ¬ Pending shared run.id id) ∨
    (run.state = .waitingForApproval ∧ ∃ id, ∀ other, Pending shared run.id other ↔ other = id)

def AllLoaded (shared : Shared) (runId : Nat) (keys : List Nat) : Prop :=
  keys ≠ [] → ∀ id, Pending shared runId id → id ∈ keys

abbrev Foreseen (session : Session) (shared : Shared) : Prop := Relies AllLoaded session shared

section Steps

variable {i : Nat} {session : Session} {shared next : Shared}

theorem AtRest.same {run row : AgentRun} (rest : AtRest shared run) (id : row.id = run.id)
    (state : row.state = run.state)
    (pending : ∀ id, Pending next run.id id ↔ Pending shared run.id id) : AtRest next row := by
  unfold AtRest AgentRun.isTerminal at *
  rw [id, state]
  simpa only [pending] using rest

theorem AllLoaded.stored {runId : Nat} {keys : List Nat} (all : AllLoaded shared runId keys)
    (pending : ∀ id, Pending next runId id → Pending shared runId id) :
    AllLoaded next runId keys :=
  fun some id now => all some id (pending id now)

theorem allLoaded_queried (consistent : Consistent shared)
    (rest : ∀ run ∈ shared.runs, AtRest shared run) (runId : Nat) (found : Option ToolExecution)
    (stored : ∀ row, found = some row → row ∈ shared.pendingOf runId) :
    AllLoaded shared runId (found.toList.map (·.id)) := by
  intro some id pending
  cases found with
  | none => exact absurd rfl some
  | some row =>
      obtain ⟨here, owner, state⟩ := mem_pendingOf.mp (stored row rfl)
      obtain ⟨run, member, keyed⟩ := consistent.owned row here
      have mine : run.id = runId := keyed.trans owner
      subst mine
      rcases rest run member with ⟨_, none⟩ | ⟨_, one, only⟩
      · exact absurd pending (none id)
      · have first := (only row.id).mp ⟨row, here, rfl, owner, state⟩
        have second := (only id).mp pending
        simp [first, second]

end Steps

section Commits

variable {i j : Nat} {session other : Session} {shared next : Shared}

theorem pending_streamed (consistent : Consistent shared) (owns : Owns i session shared)
    (counting : Counting session shared) (deciding : Deciding session)
    (foreseen : Foreseen session shared) (done : Committed i session shared next)
    {tracked : Tracked runTable} (found : session.run = some tracked)
    (streams : session.streams = true) (concluded : session.Concluded tracked) {id : Nat} :
    Pending next tracked.key id ↔ id ∈ session.suspendedOn := by
  constructor
  · intro pending
    rcases pending_committed owns deciding.rows done pending with ⟨before, clean⟩ | ⟨marked, _⟩
    · exfalso
      cases inserted : tracked.inserted with
      | true =>
          obtain ⟨row, member, _, owner, _⟩ := before
          obtain ⟨run, stored, keyed⟩ := consistent.owned row member
          exact (owns.newRun tracked found inserted).2.2.2 run stored (keyed.trans owner)
      | false =>
          obtain ⟨state, last, _⟩ := concluded.state
          have assigned : tracked.assigned ≠ [] := by
            intro nothing
            rw [nothing] at last
            cases last
          obtain ⟨begun, some⟩ := deciding.taken.begun streams tracked found inserted assigned
          have waiting := deciding.taken.waiting streams tracked found inserted some
          rcases foreseen streams tracked found inserted waiting with overtaken | all
          · exact begun (overtaken.silent counting)
          · obtain ⟨execution, member, loaded, keyed⟩ := mem_loadedKeys.mp (all some id before)
            exact concluded.decided execution member loaded (clean execution member loaded keyed)
    · exact marked
  · exact pending_marked owns deciding.rows done found

theorem pending_cancelled (owns : Owns i session shared) (deciding : Deciding session)
    (done : Committed i session shared next) {tracked : Tracked runTable}
    (found : session.run = some tracked) (outside : session.streams = false)
    (concluded : session.Concluded tracked) (ends : EndsPending session shared) (id : Nat) :
    ¬ Pending next tracked.key id := by
  intro pending
  rcases pending_committed owns deciding.rows done pending with
    ⟨⟨row, member, keyed, owner, state⟩, clean⟩ | ⟨_, streams, _⟩
  · obtain ⟨final, last, _⟩ := concluded.state
    have assigned : tracked.assigned ≠ [] := by
      intro nothing
      rw [nothing] at last
      cases last
    obtain ⟨execution, listed, mine⟩ := ends.cancels tracked found assigned row member owner state
    cases inserted : execution.inserted with
    | true =>
        have streams := (owns.newRows execution listed inserted).2.2.1
        rw [outside] at streams
        cases streams
    | false =>
        exact concluded.decided execution listed inserted
          (clean execution listed inserted (mine.trans keyed))
  · rw [outside] at streams
    cases streams

theorem unmarked (owns : Owns i session shared) (deciding : Deciding session)
    (outside : session.streams = false) : session.suspendedOn = [] := by
  refine List.eq_nil_iff_forall_not_mem.mpr fun id marked => ?_
  obtain ⟨tracked, listed, inserted, _⟩ := deciding.rows.pending id marked
  have streams := (owns.newRows tracked listed inserted).2.2.1
  rw [outside] at streams
  cases streams

theorem pending_apart (consistent : Consistent shared) (owns : Owns i session shared) (deciding : Deciding session)
    (done : Committed i session shared next) {runId : Nat}
    (apart : ∀ tracked, session.run = some tracked → tracked.key ≠ runId)
    (late : session.run = none → ∀ tracked ∈ session.executions, ∀ row ∈ shared.executions,
      row.id = tracked.key → row.approvalState ≠ .pending) (id : Nat) :
    Pending next runId id ↔ Pending shared runId id := by
  constructor
  · intro pending
    rcases pending_committed owns deciding.rows done pending with
      ⟨before, _⟩ | ⟨_, _, _, run, found, keyed⟩
    · exact before
    · exact absurd keyed (apart run found)
  · intro pending
    obtain ⟨row, member, keyed, owner, state⟩ := pending
    refine pending_kept done ⟨row, member, keyed, owner, state⟩ fun tracked listed loaded mine => ?_
    cases found : session.run with
    | none => exact absurd state (late found tracked listed row member (keyed.trans mine.symm))
    | some run =>
        have theirs := owns.loaded_row consistent listed loaded member (keyed.trans mine.symm)
        rw [owns.belongs run found tracked listed, owner] at theirs
        exact absurd theirs.symm (apart run found)

theorem rest_committed (consistent : Consistent shared) (owns : Owns i session shared)
    (counting : Counting session shared) (deciding : Deciding session)
    (foreseen : Foreseen session shared) (finished : session.Finished)
    (ends : session.streams = false → EndsPending session shared)
    (done : Committed i session shared next) (rest : ∀ run ∈ shared.runs, AtRest shared run) :
    ∀ run ∈ next.runs, AtRest next run := by
  intro run member
  rcases owns.committed_runs done member with
    ⟨before, others⟩ | ⟨tracked, row, found, keyed, same, written, origin⟩
  · refine (rest run before).same rfl rfl (pending_apart consistent owns deciding done others ?_)
    intro none tracked listed
    cases outside : session.streams with
    | true =>
        rw [owns.idle none outside] at listed
        cases listed
    | false => exact (ends outside).expires none tracked listed
  · rcases finished tracked found with untouched | concluded
    · obtain ⟨runs, executions⟩ := untouched_committed untouched done
      rw [runs] at member
      refine (rest run member).same rfl rfl fun id => ?_
      unfold Pending
      rw [executions]
    · obtain ⟨state, last, shape⟩ := concluded.state
      have final : run.state = state := by
        rw [written, replay_state, last]
        rfl
      unfold AtRest AgentRun.isTerminal
      rw [final, ← keyed]
      cases outside : session.streams with
      | true =>
          have marked := @pending_streamed i session shared next consistent owns counting deciding
            foreseen done tracked found outside concluded
          rcases shape with ⟨terminal, none⟩ | ⟨waiting, id, one⟩
          · refine .inl ⟨terminal, fun id pending => ?_⟩
            have listed := marked.mp pending
            rw [none] at listed
            cases listed
          · refine .inr ⟨waiting, id, fun other => ?_⟩
            rw [marked, one, List.mem_singleton]
      | false =>
          have none := unmarked owns deciding outside
          rcases shape with ⟨terminal, _⟩ | ⟨_, id, one⟩
          · exact .inl ⟨terminal, pending_cancelled owns deciding done found outside concluded
              (ends outside)⟩
          · rw [none] at one
            cases one

theorem pending_other (owns : Owns i session shared) (deciding : Deciding session)
    (settled : session.Settled) (done : Committed i session shared next) {runId id : Nat}
    (apart : session.events = [] ∨ ∀ own, session.run = some own → own.key ≠ runId)
    (pending : Pending next runId id) : Pending shared runId id := by
  rcases pending_committed owns deciding.rows done pending with
    ⟨before, _⟩ | ⟨_, streams, ⟨execution, listed, inserted⟩, own, held, keyed⟩
  · exact before
  · rcases apart with bare | others
    · have loaded := ((settled.quiet streams bare).executions execution listed).1
      rw [inserted] at loaded
      cases loaded
    · exact absurd keyed (others own held)

end Commits

def resting : Invariant agentDiscipline CommitsAtRest (fun system => Known system ∧
    ∀ i session, system.processes i = some ⟨.done (), session, .stopped⟩ →
      LeftSuspended session → Session.Finished session) where
  shared := fun shared => ∀ run ∈ shared.runs, AtRest shared run
  session := fun _ => Foreseen
  begins _ _ request _ _ _ := relies_opened AllLoaded request _
  performs system i answer op s reply after known _ performing allowed rest foreseen reacts := by
    have change := reaction reacts
    have pending : ∀ runId id, Pending after runId id ↔ Pending system.shared runId id := by
      intro runId id
      unfold Pending
      rw [change.executions]
    have queried := allLoaded_queried known.1.owned.1 rest
    refine ⟨?_, ?_, ?_⟩
    · rw [change.runs]
      exact fun run member => (rest run member).same rfl rfl (pending run.id)
    · exact (foreseen.performed (fun _ _ _ none => absurd rfl none)
        (fun runId _ found _ stored => queried runId found stored) allowed reacts).stored
        change.events fun runId _ all => all.stored fun id => (pending runId id).mp
    · exact fun j t _ _ other => other.stored change.events
        fun runId _ all => all.stored fun id => (pending runId id).mp
  commits system i s after known meets ending settled rest foreseen commits := by
    have facts := known.1
    have live := ending.live
    have done := committed commits
    have finished := commits_finished facts known.2 meets ending
    have owns := facts.owned.2 i s live
    have counting := facts.counted.2 i s live
    have deciding := facts.decided.2 i s live
    refine ⟨rest_committed facts.owned.1 owns counting deciding foreseen finished
      (meets.2 s live.session?) done rest, fun j t different other before => ?_⟩
    exact before.committed different (facts.owned.2 j t other) (facts.counted.2 j t other) owns
      counting done fun _ _ _ _ _ apart all =>
        all.stored fun _ => pending_other owns deciding settled done apart
  aborts _ _ _ _ _ _ rest _ :=
    ⟨rest, fun _ _ _ _ other => other.stored rfl fun _ _ all => all⟩
  changes system edit _ _ rest :=
    ⟨fun run member => (rest run member).same rfl rfl fun _ => pending_edit edit,
      fun _ _ _ other => other.stored rfl fun _ _ all => all.stored fun _ => (pending_edit edit).mp⟩

theorem pendingOf_none {shared : Shared} {runId : Nat}
    (none : ∀ id, ¬ Pending shared runId id) : shared.pendingOf runId = [] := by
  refine List.eq_nil_iff_forall_not_mem.mpr fun row member => ?_
  obtain ⟨stored, owner, state⟩ := mem_pendingOf.mp member
  exact none row.id ⟨row, stored, rfl, owner, state⟩

theorem pendingOf_one {shared : Shared} (consistent : Consistent shared) {runId id : Nat}
    (one : ∀ other, Pending shared runId other ↔ other = id) :
    (shared.pendingOf runId).length = 1 := by
  obtain ⟨row, stored, _, owner, state⟩ := (one id).mpr rfl
  have member : row ∈ shared.pendingOf runId := mem_pendingOf.mpr ⟨stored, owner, state⟩
  have distinct : ((shared.pendingOf runId).map (·.id)).Nodup :=
    consistent.executionsOnce.sublist (List.filter_sublist.map _)
  have same : (shared.pendingOf runId).map (·.id) =
      List.replicate (shared.pendingOf runId).length id := by
    refine List.eq_replicate_iff.mpr ⟨List.length_map _, fun other listed => ?_⟩
    obtain ⟨found, within, rfl⟩ := List.mem_map.mp listed
    obtain ⟨here, mine, now⟩ := mem_pendingOf.mp within
    exact (one found.id).mp ⟨found, here, rfl, mine, now⟩
  rw [same, List.nodup_replicate] at distinct
  have positive := List.length_pos_of_mem member
  omega

/-- The run has ended or waits for an approval, and it waits exactly when one
execution of it is pending. -/
structure RunSettled (shared : Shared) (run : AgentRun) : Prop where
  stopped : run.isTerminal = true ∨ run.state = .waitingForApproval
  pending : run.state = .waitingForApproval ↔ (shared.pendingOf run.id).length = 1

/-- As long as streams are left at their suspension only, and approvals end
together with their run, every committed run is settled. -/
theorem runs_settled (registry : Registry) (system : AgentSystem)
    (reached : Reached CommitsAtRest registry system) :
    ∀ run ∈ system.shared.runs, RunSettled system.shared run := by
  have initially : resting.shared (idle registry).shared := fun _ member => nomatch member
  have rest := (resting.reached (fun _ => rfl) initially
    (fun system reached => ⟨known _ registry system reached, left_finished system reached⟩) system
    reached).1
  intro run member
  rcases rest run member with ⟨terminal, none⟩ | ⟨waiting, id, one⟩
  · refine ⟨.inl terminal, ?_⟩
    rw [pendingOf_none none]
    constructor
    · intro waiting
      rw [AgentRun.isTerminal, waiting] at terminal
      cases terminal
    · intro one
      cases one
  · have length := pendingOf_one (owned _ registry system reached).1 one
    exact ⟨.inr waiting, fun _ => length, fun _ => waiting⟩

/-- A stream is left when it announces its suspension, and the run is cancelled. -/
theorem runs_settled_cancelled : ∃ system : AgentSystem, ∃ run ∈ system.shared.runs,
    run.state = .cancelled ∧ RunSettled system.shared run := by
  obtain ⟨system, reached, checked⟩ := reached_checked CommitsAtRest desk
    (starts 0 policy (asks [lookupCall "c1"]) ++ (suspends 0).dropLast ++ [.stop 0, .commit 0] ++
      cancels 1 0 ++ [.commit 1])
    (fun system => system.shared.runs.any (·.state = .cancelled)) (by decide +kernel)
  obtain ⟨run, member, cancelled⟩ := List.any_eq_true.mp checked
  exact ⟨system, run, member, of_decide_eq_true cancelled,
    runs_settled desk system reached run member⟩

/-- Process `i` expires all approvals that were asked for before the time `1`. -/
def expires (i : Nat) : List AgentLabel :=
  .begin i ⟨policy, .expireOlderThan 1⟩ :: proceeds i 2

/-- A stream is abandoned at its first event, and a stale approval expires: the
first run is left running, and the second one waits for nothing. -/
theorem runs_unsettled : ∃ system : AgentSystem, ∃ running waiting : AgentRun,
    Reached anyStep desk system ∧
      running ∈ system.shared.runs ∧ running.state = .running ∧
      waiting ∈ system.shared.runs ∧ waiting.state = .waitingForApproval ∧
      system.shared.pendingOf waiting.id = [] := by
  obtain ⟨system, reached, checked⟩ := reached_checked anyStep desk
    (((starts 0 policy (answersWith "Hello.")).take 7) ++ [.stop 0, .commit 0] ++
      starts 1 policy (asks [lookupCall "c1"]) ++ suspends 1 ++ [.commit 1] ++
      expires 2 ++ [.commit 2])
    (fun system => system.shared.runs.any (·.state = .running) &&
      system.shared.runs.any fun run => run.state = .waitingForApproval &&
        (system.shared.pendingOf run.id).isEmpty)
    (by decide +kernel)
  obtain ⟨first, second⟩ := Bool.and_eq_true_iff.mp checked
  obtain ⟨running, begun, state⟩ := List.any_eq_true.mp first
  obtain ⟨waiting, stored, shape⟩ := List.any_eq_true.mp second
  obtain ⟨waits, nothing⟩ := Bool.and_eq_true_iff.mp shape
  exact ⟨system, running, waiting, reached, begun, of_decide_eq_true state, stored,
    of_decide_eq_true waits, List.isEmpty_iff.mp nothing⟩

end AiPlatform.Agents
