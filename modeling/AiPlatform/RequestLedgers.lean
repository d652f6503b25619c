import AiPlatform.Iterations
import AiPlatform.Recordings
import AiPlatform.RunStates

/-!
The requests to the model, as a ledger that no rollback undoes. A request is made when
its process comes to the operation that asks; what the process has written by then says
how many it has made, as long as the process goes on.
-/

namespace AiPlatform.Agents

structure Ledger where
  /-- The budget of the version that a run was started by. -/
  limit : Nat → Option Nat
  requests : List (Nat × Nat)

namespace Ledger

def blank : Ledger := ⟨fun _ => none, []⟩

def made (next : AgentSystem) (i : Nat) : List (Nat × Nat) :=
  match next.op? i, next.session? i with
  | some (.chat _ _ _ _), some session => session.run.toList.map fun tracked => (i, tracked.key)
  | _, _ => []

def budgeted (system next : AgentSystem) (i : Nat) (limit : Nat → Option Nat) (runId : Nat) :
    Option Nat :=
  match system.op? i, (next.session? i).bind fun session => session.run with
  | some (.addRun _), some tracked =>
      if runId = tracked.key then
        (system.session? i).bind fun session => session.version.map (·.maxIterations)
      else limit runId
  | _, _ => limit runId

def note (system : AgentSystem) (label : AgentLabel) (next : AgentSystem) (ledger : Ledger) :
    Ledger :=
  match label with
  | .perform i _ =>
      ⟨budgeted system next i ledger.limit, ledger.requests ++ made next i⟩
  | .begin _ _ | .stop _ | .commit _ | .abort _ | .change _ => ledger

def asked (ledger : Ledger) (runId : Nat) : Nat :=
  ledger.requests.countP fun request => request.2 = runId

def askedBy (ledger : Ledger) (i : Nat) : Nat :=
  ledger.requests.countP fun request => request.1 = i

end Ledger

/-- A schedule from the empty database with its ledger. -/
abbrev Charged (ok : AgentSystem → Ledger → AgentLabel → Prop) (registry : Registry) :
    AgentSystem → Ledger → Prop :=
  System.Recorded Ledger.note ok (idle registry) .blank

theorem charged_checked (ok : AgentSystem → Ledger → AgentLabel → Prop)
    [∀ system ledger label, Decidable (ok system ledger label)] (registry : Registry)
    (labels : List AgentLabel) (check : AgentSystem × Ledger → Bool)
    (checked : ((idle registry).rerun Ledger.note
      (fun system ledger label => decide (ok system ledger label)) .blank labels).any check = true) :
    ∃ system ledger, Charged ok registry system ledger ∧ check (system, ledger) = true :=
  System.recorded_checked labels check (fun _ _ _ => of_decide_eq_true) checked

def atChat : AgentProgram Unit → Nat
  | .perform op _ => Meter.answers op
  | .done _ => 0

/-- A stream that was abandoned after it had asked so often. -/
structure Left (session : Session) (count : Nat) : Prop where
  level : ∀ tracked, session.run = some tracked →
    Meter.Level tracked (announcements session.events)
  suspended : LeftSuspended session → announcements session.events = count
  counts : count ≤ announcements session.events

structure Asked (system : AgentSystem) (ledger : Ledger) : Prop where
  running : ∀ i program session, system.processes i = some ⟨program, session, .running⟩ →
    ∃ answered, ledger.askedBy i = answered + atChat program ∧
      Metered program (.of session answered) fun _ final => final.Steady
  stopped : ∀ i program session, system.processes i = some ⟨program, session, .stopped⟩ →
    Left session (ledger.askedBy i)
  entries : ∀ request ∈ ledger.requests, ∃ process, system.processes request.1 = some process ∧
    ∃ tracked, process.session.run = some tracked ∧ tracked.key = request.2

section Steps

variable {system : AgentSystem} {ledger : Ledger} {i : Nat}

theorem askedBy_fresh (asked : Asked system ledger) (fresh : system.processes i = none) :
    ledger.askedBy i = 0 := by
  refine List.countP_eq_zero.mpr fun request member same => ?_
  obtain ⟨process, found, _⟩ := asked.entries request member
  rw [of_decide_eq_true same, fresh] at found
  cases found

theorem key_after {session : Session} {op : Op} (reply : Reply op) (allowed : session.allowed op)
    {tracked : Tracked runTable} (found : session.run = some tracked) :
    ∃ later, (session.after op reply).run = some later ∧ later.key = tracked.key := by
  have step := run_step session op reply
  generalize same : (session.after op reply).run = row at step
  cases step with
  | same => exact ⟨tracked, found, rfl⟩
  | loaded id run none =>
      rw [found] at none
      cases none
  | inserted draft run =>
      rw [allowed.first.1] at found
      cases found
  | assigned assignment before kept =>
      rw [found] at kept
      cases kept
      exact ⟨_, rfl, rfl⟩

theorem made_put {program : AgentProgram Unit} {session : Session} {shared : Shared} :
    Ledger.made (system.put i ⟨program, session, .running⟩ shared) i =
      if atChat program = 0 then [] else session.run.toList.map fun tracked => (i, tracked.key) := by
  cases program with
  | done value => simp [Ledger.made, System.op?, atChat]
  | perform op next =>
      have here : (system.put i ⟨.perform op next, session, .running⟩ shared).op? i = some op := by
        simp [System.op?]
      have live : (system.put i ⟨.perform op next, session, .running⟩ shared).session? i =
          some session := by
        simp [System.session?]
      cases op with
      | chat messages model temperature tools => simp [Ledger.made, here, live, atChat, Meter.answers]
      | _ => simp [Ledger.made, here, live, atChat, Meter.answers]

theorem made_by {next : AgentSystem} {request : Nat × Nat} (member : request ∈ Ledger.made next i) :
    request.1 = i ∧ ∃ session tracked, next.session? i = some session ∧
      session.run = some tracked ∧ request.2 = tracked.key := by
  unfold Ledger.made at member
  split at member
  · rename_i session _ found
    obtain ⟨tracked, listed, rfl⟩ := List.mem_map.mp member
    exact ⟨rfl, session, tracked, found, by simpa using listed, rfl⟩
  · cases member

theorem made_length {program : AgentProgram Unit} {session : Session} {shared : Shared}
    (kept : agentDiscipline.Kept (system.put i ⟨program, session, .running⟩ shared)) :
    (Ledger.made (system.put i ⟨program, session, .running⟩ shared) i).length = atChat program := by
  rw [made_put]
  cases program with
  | done value => rfl
  | perform op next =>
      have allowed := kept.allowed ⟨next, System.put_same _ _ _ _⟩
      cases op with
      | chat messages model temperature tools =>
          obtain ⟨_, _, tracked, found, _⟩ := allowed
          simp [found, atChat, Meter.answers]
      | _ => rfl

theorem askedBy_noted {next : AgentSystem} (answer : Answer) (j : Nat) :
    (Ledger.note system (.perform i answer) next ledger).askedBy j =
      ledger.askedBy j + if j = i then (Ledger.made next i).length else 0 := by
  unfold Ledger.askedBy Ledger.note
  rw [List.countP_append]
  congr 1
  split
  · rename_i same
    refine List.countP_eq_length.mpr fun request member => ?_
    rw [(made_by member).1, same]
    exact decide_eq_true rfl
  · rename_i different
    refine List.countP_eq_zero.mpr fun request member same => ?_
    rw [(made_by member).1] at same
    exact different (of_decide_eq_true same).symm

theorem atChat_first {program : AgentProgram Unit} {meter : Meter} {post : Unit → Meter → Prop}
    (metered : Metered program meter post) (same : meter.announced = meter.answered) :
    atChat program = 0 := by
  cases program with
  | done value => rfl
  | perform op next =>
      cases op with
      | chat messages model temperature tools =>
          have counts := metered.1.counts
          rw [same, Meter.inFlight] at counts
          omega
      | _ => rfl

theorem left_at {op : Op} {session : Session} {answered count : Nat}
    (may : (Meter.of session answered).MayPerform op) (allowed : session.allowed op)
    (awaits : agentMachine.awaits op = true) (same : count = answered + Meter.answers op) :
    Left session count := by
  cases op with
  | deliver event =>
      have counts := may.counts
      obtain ⟨written, last, _, _, type⟩ := allowed.last
      simp only [Meter.of, Meter.inFlight, Meter.answers] at counts same
      refine ⟨may.level, fun suspended => ?_, by omega⟩
      rw [LeftSuspended, last, Option.map_some, Option.some.injEq, type] at suspended
      rw [suspended, if_neg (by simp)] at counts
      omega
  | chat messages model temperature tools =>
      have counts := may.counts
      simp only [Meter.of, Meter.inFlight, Meter.answers] at counts same
      exact ⟨may.level, fun _ => by omega, by omega⟩
  | _ => cases awaits

end Steps

section Schedules

variable {system next : AgentSystem} {ledger : Ledger} {i : Nat}

theorem Asked.begun (asked : Asked system ledger) (request : AgentRequest)
    (fresh : system.processes i = none) :
    Asked (system.put i ⟨program request, .opened request, .running⟩ system.shared) ledger := by
  refine ⟨?_, ?_, ?_⟩
  · intro j program session found
    rcases System.put_found found with ⟨rfl, same⟩ | ⟨_, before⟩
    · cases same
      have metered := program_metered request
      refine ⟨0, ?_, metered⟩
      rw [askedBy_fresh asked fresh, atChat_first metered rfl]
    · exact asked.running j program session before
  · intro j program session found
    rcases System.put_found found with ⟨_, same⟩ | ⟨_, before⟩
    · cases congrArg Process.status same
    · exact asked.stopped j program session before
  · intro made member
    obtain ⟨process, found, rest⟩ := asked.entries made member
    refine ⟨process, ?_, rest⟩
    rw [System.put_other _ _ _ _ _ fun same => ?_]
    · exact found
    · rw [same, fresh] at found
      cases found

theorem Asked.performed (asked : Asked system ledger) (kept : agentDiscipline.Kept system)
    {answer : Answer} {op : Op} {program : Reply op → AgentProgram Unit} {session : Session}
    {reply : Reply op} {shared : Shared}
    (found : system.processes i = some ⟨.perform op program, session, .running⟩)
    (trusted : session.trusted op reply)
    (after : agentDiscipline.Kept
      (system.put i ⟨program reply, session.after op reply, .running⟩ shared)) :
    Asked (system.put i ⟨program reply, session.after op reply, .running⟩ shared)
      (Ledger.note system (.perform i answer)
        (system.put i ⟨program reply, session.after op reply, .running⟩ shared) ledger) := by
  refine ⟨?_, ?_, ?_⟩
  · intro j later other there
    rcases System.put_found there with ⟨rfl, same⟩ | ⟨different, before⟩
    · cases same
      obtain ⟨answered, count, metered⟩ := asked.running j _ _ found
      refine ⟨answered + Meter.answers op, ?_, ?_⟩
      · rw [askedBy_noted, if_pos rfl, made_length after, count]
        rfl
      · rw [Meter.of_after]
        exact metered.2 reply (Meter.trusted_of answered trusted)
    · obtain ⟨answered, count, metered⟩ := asked.running j later other before
      refine ⟨answered, ?_, metered⟩
      rw [askedBy_noted, if_neg different, count, Nat.add_zero]
  · intro j later other there
    rcases System.put_found there with ⟨_, same⟩ | ⟨different, before⟩
    · cases congrArg Process.status same
    · rw [askedBy_noted, if_neg different, Nat.add_zero]
      exact asked.stopped j later other before
  · intro request member
    rcases List.mem_append.mp member with before | now
    · obtain ⟨process, there, tracked, run, keyed⟩ := asked.entries request before
      by_cases same : request.1 = i
      · rw [same, found] at there
        cases there
        obtain ⟨later, held, still⟩ :=
          key_after reply (kept.allowed ⟨program, found⟩) run
        rw [same]
        exact ⟨_, System.put_same _ _ _ _, later, held, still.trans keyed⟩
      · exact ⟨process, (System.put_other _ _ _ _ _ same).trans there, tracked, run, keyed⟩
    · obtain ⟨same, other, tracked, live, run, keyed⟩ := made_by now
      obtain ⟨process, there, rfl, _⟩ := System.live_of_session? live
      rw [same]
      exact ⟨process, there, tracked, run, keyed.symm⟩

theorem Asked.ended (asked : Asked system ledger) {before after : Process agentMachine}
    {shared : Shared} (found : system.processes i = some before)
    (session : after.session = before.session) (status : after.status ≠ .running)
    (left : after.status = .stopped → Left after.session (ledger.askedBy i)) :
    Asked (system.put i after shared) ledger := by
  refine ⟨?_, ?_, ?_⟩
  · intro j program other there
    rcases System.put_found there with ⟨_, same⟩ | ⟨_, held⟩
    · exact absurd (congrArg Process.status same) status
    · exact asked.running j program other held
  · intro j program other there
    rcases System.put_found there with ⟨rfl, rfl⟩ | ⟨_, held⟩
    · exact left rfl
    · exact asked.stopped j program other held
  · intro request member
    obtain ⟨process, there, rest⟩ := asked.entries request member
    by_cases same : request.1 = i
    · rw [same, found] at there
      cases there
      rw [← session] at rest
      exact ⟨after, by rw [same, System.put_same], rest⟩
    · exact ⟨process, (System.put_other _ _ _ _ _ same).trans there, rest⟩

theorem asked_charged {ok : AgentSystem → Ledger → AgentLabel → Prop} {registry : Registry}
    (charged : Charged ok registry system ledger) : Asked system ledger := by
  refine System.recorded_induction Asked ?_ ?_ system ledger charged
  · exact ⟨fun _ _ _ found => (nomatch found), fun _ _ _ found => (nomatch found),
      fun _ member => (nomatch member)⟩
  · intro system ledger label next recorded asked _ transition
    have kept := agentDiscipline.kept_reached (fun _ => rfl) system recorded.reached
    have after := agentDiscipline.kept_preserved kept transition
    cases transition with
    | begin i request fresh => exact asked.begun request fresh
    | perform i answer op program session reply shared found reacts =>
        exact asked.performed kept found (react_trusted reacts) after
    | stop i op program session found awaits =>
        obtain ⟨answered, count, metered⟩ := asked.running i _ _ found
        refine asked.ended found rfl (by simp) fun _ => ?_
        exact left_at metered.1 (kept.allowed ⟨program, found⟩) awaits count
    | commit i session shared ending commits =>
        obtain ⟨process, found, rfl, _⟩ := ending.live
        exact asked.ended found rfl (by simp) nofun
    | abort i session live =>
        obtain ⟨process, found, rfl, _⟩ := live
        exact asked.ended found rfl (by simp) nofun
    | change edit => exact ⟨asked.running, asked.stopped, asked.entries⟩

end Schedules

end AiPlatform.Agents
