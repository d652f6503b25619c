import AiPlatform.Credentials

/-!
The record of an executor call. On the direct path the row is part of the unit
of work that the call is made in, so it is as durable as that unit of work; after
an approval the row was committed by the request that suspended the run.
-/

namespace AiPlatform.Agents

/-- The committed database has the execution of a call, with its arguments and its run. -/
def Recorded (call : Call) (shared : Shared) : Prop :=
  ∃ row ∈ shared.executions, row.id = call.executionId ∧ row.runId = call.runId ∧
    row.arguments = call.invocation.arguments ∧ ∃ run ∈ shared.runs, run.id = row.runId

def Carries (call : Call) (session : Session) : Prop :=
  ∃ tracked ∈ session.executions, tracked.inserted = true ∧ tracked.key = call.executionId ∧
    tracked.original.runId = call.runId ∧ tracked.original.arguments = call.invocation.arguments

/-- No request that made a direct executor call is rolled back. -/
def KeepsCalls (system : AgentSystem) : AgentLabel → Prop
  | .abort i => ∀ call ∈ system.shared.calls, call.process = i → call.direct = false
  | .begin _ _ | .perform _ _ | .stop _ | .commit _ | .change _ => True

instance (system : AgentSystem) (label : AgentLabel) : Decidable (KeepsCalls system label) :=
  match label with
  | .abort i => inferInstanceAs (Decidable (∀ call ∈ system.shared.calls,
      call.process = i → call.direct = false))
  | .begin _ _ | .perform _ _ | .stop _ | .commit _ | .change _ => inferInstanceAs (Decidable True)

theorem Recorded.grows {call : Call} {shared next : Shared} (recorded : Recorded call shared)
    (grows : Grows shared next) (consistent : Consistent next) : Recorded call next := by
  obtain ⟨row, member, keyed, owner, arguments, _⟩ := recorded
  obtain ⟨later, now, same⟩ := grows.executions row member
  exact ⟨later, now, same.id.trans keyed, same.runId.trans owner, same.arguments.trans arguments,
    consistent.owned later now⟩

section Steps

variable {i : Nat} {session : Session} {shared next : Shared}

theorem Carries.performed {call : Call} {op : Op} {reply : Reply op}
    (carries : Carries call session) (allowed : session.allowed op) :
    Carries call (session.after op reply) := by
  obtain ⟨tracked, member, inserted, keyed, owner, arguments⟩ := carries
  have step := rows_step session op reply
  unfold Carries
  generalize (session.after op reply).executions = rows, (session.after op reply).suspendedOn = marks
    at step
  cases step with
  | same => exact ⟨tracked, member, inserted, keyed, owner, arguments⟩
  | inserted run tool given row =>
      exact ⟨tracked, List.mem_append_left _ member, inserted, keyed, owner, arguments⟩
  | assigned executionId assignment =>
      refine ⟨_, List.mem_map.mpr ⟨tracked, member, rfl⟩, ?_⟩
      split
      · exact ⟨inserted, keyed, owner, arguments⟩
      · exact ⟨inserted, keyed, owner, arguments⟩
  | pending runId found =>
      have loaded := (allowed.untouched tracked member).1
      rw [inserted] at loaded
      cases loaded
  | stale cutoff found =>
      rw [allowed.2.2] at member
      cases member

theorem Carries.committed {call : Call} (carries : Carries call session)
    (done : Committed i session shared next) (consistent : Consistent next) :
    Recorded call next := by
  obtain ⟨tracked, member, inserted, keyed, owner, arguments⟩ := carries
  have stored : tracked.row ∈ next.executions := by
    rw [done.executions]
    exact Tracked.inserted_stored (T := executionTable) _ member inserted
  have same : SameCall tracked.row tracked.original := sameCall_replay _ _
  exact ⟨tracked.row, stored, same.id.trans keyed, same.runId.trans owner,
    same.arguments.trans arguments, consistent.owned _ stored⟩

theorem called_recorded {executionId : Nat} {tool : Tool} {invocation : ToolInvocation}
    (owns : Owns i session shared) (consistent : Consistent shared)
    (may : session.MayExecute executionId tool invocation) :
    Recorded (shared.call i session executionId tool invocation) shared ∨
      ((shared.call i session executionId tool invocation).direct = true ∧
        Carries (shared.call i session executionId tool invocation) session) := by
  cases may with
  | direct run execution tracked streams member keyed inserted authorised read projected arguments
      owner =>
      have belongs := owns.belongs run tracked execution member
      refine .inr ⟨?_, execution, member, inserted, keyed, belongs.trans owner.symm,
        arguments.symm⟩
      simp only [Shared.call, List.any_eq_true]
      exact ⟨execution, member, by simp [keyed, inserted]⟩
  | approved run execution tracked streams only keyed loaded decided waiting held begun unexecuted
      approves read named projected arguments owner =>
      have member : execution ∈ session.executions := by simp [only]
      have belongs := owns.belongs run tracked execution member
      obtain ⟨row, stored, same⟩ := owns.oldRows execution member loaded
      exact .inl ⟨row, stored, same.id.trans keyed, same.runId.trans (belongs.trans owner.symm),
        same.arguments.trans arguments.symm, consistent.owned row stored⟩

end Steps

def CallsKept (system : AgentSystem) : Prop :=
  ∀ call ∈ system.shared.calls, Recorded call system.shared ∨
    (call.direct = true ∧ ∃ session, system.Live call.process session ∧ Carries call session)

theorem callsKept_step {system next : AgentSystem} {label : AgentLabel}
    (owns : ownership.Holds system) (consistent : Consistent next.shared)
    (kept : agentDiscipline.Kept system) (calls : CallsKept system)
    (meets : KeepsCalls system label) (transition : System.Transition system label next) :
    CallsKept next := by
  intro call member
  cases transition with
  | begin i request fresh =>
      rcases calls call member with recorded | ⟨direct, session, live, carries⟩
      · exact .inl recorded
      · have different : call.process ≠ i := by
          rintro same
          obtain ⟨process, found, _⟩ := live
          rw [same, fresh] at found
          cases found
        exact .inr ⟨direct, session, live.put_other different _ _, carries⟩
  | perform i answer op program session reply shared found reacts =>
      have performing : system.Performing i op session := ⟨program, found⟩
      have allowed := kept.allowed performing
      have change := reaction reacts
      have grow : ∀ {call : Call}, Recorded call system.shared → Recorded call shared :=
        fun recorded => recorded.grows change.grows consistent
      have here : System.Live (system.put i ⟨program reply, session.after op reply, .running⟩ shared)
          i (session.after op reply) := System.Live.put_same _ _ _ (.inl rfl)
      rcases List.mem_append.mp (change.calls ▸ member) with before | now
      · rcases calls call before with recorded | ⟨direct, other, live, carries⟩
        · exact .inl (grow recorded)
        · by_cases same : call.process = i
          · rw [same] at live ⊢
            cases System.live_unique live performing.live
            exact .inr ⟨direct, _, here, carries.performed allowed⟩
          · exact .inr ⟨direct, other, live.put_other same _ _, carries⟩
      · cases op with
        | execute executionId tool invocation =>
            rw [List.mem_singleton.mp now]
            rcases called_recorded (owns.2 i session performing.live) owns.1 allowed with
              recorded | ⟨direct, carries⟩
            · exact .inl (grow recorded)
            · exact .inr ⟨direct, _, here, carries.performed allowed⟩
        | _ => cases now
  | stop i op program session found awaits =>
      rcases calls call member with recorded | ⟨direct, other, live, carries⟩
      · exact .inl recorded
      · by_cases same : call.process = i
        · rw [same] at live ⊢
          cases System.live_unique live (System.Performing.live ⟨program, found⟩)
          exact .inr ⟨direct, _, System.Live.put_same _ _ _ (.inr rfl), carries⟩
        · exact .inr ⟨direct, other, live.put_other same _ _, carries⟩
  | commit i session shared ending commits =>
      have done := committed commits
      rcases calls call (done.calls ▸ member) with recorded | ⟨direct, other, live, carries⟩
      · exact .inl (recorded.grows done.grows consistent)
      · by_cases same : call.process = i
        · rw [same] at live
          cases System.live_unique live ending.live
          exact .inl (carries.committed done consistent)
        · exact .inr ⟨direct, other, live.put_other same _ _, carries⟩
  | abort i session live =>
      rcases calls call member with recorded | ⟨direct, other, live, carries⟩
      · exact .inl (recorded.grows (release_grows _ _) consistent)
      · have different : call.process ≠ i := by
          intro same
          rw [meets call member same] at direct
          cases direct
        exact .inr ⟨direct, other, live.put_other different _ _, carries⟩
  | change edit =>
      rcases calls call member with recorded | ⟨direct, other, live, carries⟩
      · exact .inl (recorded.grows (edit_grows _ _) consistent)
      · exact .inr ⟨direct, other, live, carries⟩

/-- As long as no request is rolled back after a direct call, every call of a
request that has ended is recorded. -/
theorem calls_recorded (registry : Registry) (system : AgentSystem)
    (reached : Reached KeepsCalls registry system) :
    ∀ call ∈ system.shared.calls, ∀ process, system.processes call.process = some process →
      process.status = .committed ∨ process.status = .aborted → Recorded call system.shared := by
  have kept : CallsKept system := by
    refine System.reaches_induction CallsKept (fun call member => by cases member) ?_ system reached
    intro system label next reached calls meets transition
    have ok := agentDiscipline.kept_reached (fun _ => rfl) system reached
    have owns := owned _ registry system reached
    have after := ownership.preserved ok trivial owns trivial transition
    exact callsKept_step owns after.1 ok calls meets transition
  intro call member process found ended
  rcases kept call member with recorded | ⟨_, session, live, _⟩
  · exact recorded
  · obtain ⟨other, again, _, status⟩ := live
    rw [found] at again
    cases again
    rcases ended with done | done <;> rcases status with now | now <;> rw [done] at now <;> cases now

/-- A direct call in a run that completes and commits. -/
theorem calls_recorded_committed : ∃ system : AgentSystem, ∃ call ∈ system.shared.calls,
    call.direct = true ∧ Recorded call system.shared := by
  obtain ⟨system, reached, checked⟩ := reached_checked KeepsCalls desk
    (starts 0 openPolicy (asks [lookupCall "c1"]) ++ calls 0 ++ proceeds 0 5 ++
      converses 0 (answersWith "It is Ada.") ++ completes 0 ++ [.commit 0])
    (fun system => system.shared.calls.any fun call => call.direct &&
      (system.processes call.process).any (·.status = .committed))
    (by decide +kernel)
  obtain ⟨call, member, shape⟩ := List.any_eq_true.mp checked
  obtain ⟨direct, committed⟩ := Bool.and_eq_true_iff.mp shape
  obtain ⟨process, found, status⟩ := (Option.any_eq_true _ _).mp committed
  exact ⟨system, call, member, direct, calls_recorded desk system reached call member process found
    (.inl (of_decide_eq_true status))⟩

/-- The client goes away after the call: the request is rolled back, and the
record of the call with it. -/
theorem call_unrecorded : ∃ system : AgentSystem, Reached anyStep desk system ∧
    ∃ call ∈ system.shared.calls,
      (∃ process, system.processes call.process = some process ∧ process.status = .aborted) ∧
      ¬ Recorded call system.shared := by
  obtain ⟨system, reached, checked⟩ := reached_checked anyStep desk
    (starts 0 openPolicy (asks [lookupCall "c1"]) ++ calls 0 ++ [.abort 0])
    (fun system => system.shared.executions.isEmpty && system.shared.calls.any fun call =>
      (system.processes call.process).any (·.status = .aborted))
    (by decide +kernel)
  obtain ⟨bare, called⟩ := Bool.and_eq_true_iff.mp checked
  obtain ⟨call, member, rolledBack⟩ := List.any_eq_true.mp called
  obtain ⟨process, found, status⟩ := (Option.any_eq_true _ _).mp rolledBack
  refine ⟨system, reached, call, member, ⟨process, found, of_decide_eq_true status⟩, ?_⟩
  rintro ⟨row, stored, _⟩
  rw [List.isEmpty_iff.mp bare] at stored
  cases stored

end AiPlatform.Agents
