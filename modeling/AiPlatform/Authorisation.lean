import AiPlatform.AgentOwnership

/-!
What authorises an executor call. A run keeps the permissions and the grant it
was started with through every suspension, so a direct call is authorised
against them. An approved call is not authorised again: what stands behind it is
the call that was shown when the run was suspended, which was.
-/

namespace AiPlatform.Agents

structure Granted (shared : Shared) (run : AgentRun) : Prop where
  started : ∃ entry ∈ shared.started, entry.runId = run.id
  permissions : ∀ entry ∈ shared.started, entry.runId = run.id →
    run.userPermissions = entry.permissions
  granted : ∀ entry ∈ shared.started, entry.runId = run.id →
    ∀ id ∈ storedIds run.checkpoint, id ∈ entry.granted

def AuthorisedFor (shared : Shared) (runId : Nat) (settings : AgentSettings) (tool : Tool) : Prop :=
  ∃ entry ∈ shared.started, entry.runId = runId ∧
    Authorised settings entry.permissions entry.granted tool

structure ShownAs (entry : Shown) (row : ToolExecution) : Prop where
  executionId : entry.executionId = row.id
  runId : entry.runId = row.runId
  arguments : entry.arguments = row.arguments
  named : entry.tool.name = row.toolName

theorem ShownAs.same {entry : Shown} {row other : ToolExecution} (shown : ShownAs entry row)
    (same : SameCall other row) : ShownAs entry other :=
  ⟨shown.executionId.trans same.id.symm, shown.runId.trans same.runId.symm,
    shown.arguments.trans same.arguments.symm, shown.named.trans same.toolName.symm⟩

structure AuthorisedCall (shared : Shared) (call : Call) : Prop where
  direct : call.direct = true → AuthorisedFor shared call.runId call.settings call.tool
  approved : call.direct = false → ∃ entry ∈ shared.shown,
    entry.executionId = call.executionId ∧ entry.runId = call.runId ∧
      entry.arguments = call.invocation.arguments ∧ entry.tool.name = call.tool.name ∧
      AuthorisedFor shared entry.runId entry.settings entry.tool

structure Grants (shared : Shared) : Prop where
  below : ∀ entry ∈ shared.started, entry.runId < shared.nextId
  runs : ∀ run ∈ shared.runs, Granted shared run
  pending : ∀ row ∈ shared.executions, row.approvalState = .pending →
    ∃ entry ∈ shared.shown, ShownAs entry row
  shown : ∀ entry ∈ shared.shown, AuthorisedFor shared entry.runId entry.settings entry.tool
  calls : ∀ call ∈ shared.calls, AuthorisedCall shared call

structure Vouched (session : Session) (shared : Shared) : Prop where
  run : ∀ tracked, session.run = some tracked → Granted shared tracked.original
  specs : ∀ tracked checkpoint, session.run = some tracked →
    .suspended checkpoint ∈ tracked.assigned →
    checkpoint.spec = tracked.original.checkpoint.spec
  rows : ∀ tracked ∈ session.executions,
    tracked.inserted = false ∨ tracked.row.approvalState = .pending →
    ∃ entry ∈ shared.shown, ShownAs entry tracked.original

section Histories

variable {i : Nat} {session : Session} {shared next : Shared}

theorem AuthorisedFor.mono {runId : Nat} {settings : AgentSettings} {tool : Tool}
    (authorised : AuthorisedFor shared runId settings tool)
    (started : ∀ entry ∈ shared.started, entry ∈ next.started) :
    AuthorisedFor next runId settings tool := by
  obtain ⟨entry, member, owner, passed⟩ := authorised
  exact ⟨entry, started entry member, owner, passed⟩

theorem AuthorisedCall.mono {call : Call} (authorised : AuthorisedCall shared call)
    (started : ∀ entry ∈ shared.started, entry ∈ next.started)
    (shown : ∀ entry ∈ shared.shown, entry ∈ next.shown) : AuthorisedCall next call := by
  constructor
  · intro direct
    exact (authorised.direct direct).mono started
  · intro approved
    obtain ⟨entry, member, keyed, owner, arguments, named, passed⟩ := authorised.approved approved
    exact ⟨entry, shown entry member, keyed, owner, arguments, named, passed.mono started⟩

theorem Granted.of_started {run : AgentRun} (granted : Granted shared run)
    (started : next.started = shared.started) : Granted next run := by
  refine ⟨?_, ?_, ?_⟩
  · rw [started]
    exact granted.started
  · rw [started]
    exact granted.permissions
  · rw [started]
    exact granted.granted

theorem started_reacted {op : Op} {reply : Reply op}
    (change : Reaction i session shared op reply next) :
    ∀ entry ∈ next.started, entry ∈ shared.started ∨ entry.runId = shared.nextId := by
  intro entry member
  rw [change.started] at member
  rcases List.mem_append.mp member with before | now
  · exact .inl before
  · cases op with
    | addRun draft =>
        rw [List.mem_singleton.mp now]
        exact .inr rfl
    | _ => cases now

theorem Granted.reacted {op : Op} {reply : Reply op} {run : AgentRun}
    (granted : Granted shared run) (below : run.id < shared.nextId)
    (change : Reaction i session shared op reply next) : Granted next run := by
  have old : ∀ entry ∈ next.started, entry.runId = run.id → entry ∈ shared.started := by
    intro entry member owner
    rcases started_reacted change entry member with before | fresh
    · exact before
    · omega
  obtain ⟨entry, member, owner⟩ := granted.started
  exact ⟨⟨entry, change.grows.started entry member, owner⟩,
    fun entry member owner => granted.permissions entry (old entry member owner) owner,
    fun entry member owner => granted.granted entry (old entry member owner) owner⟩

theorem Granted.authorised {run : AgentRun} (granted : Granted shared run)
    {settings : AgentSettings} {tool : Tool}
    (passed : Authorised settings run.userPermissions (storedIds run.checkpoint) tool) :
    AuthorisedFor shared run.id settings tool := by
  obtain ⟨entry, member, owner⟩ := granted.started
  refine ⟨entry, member, owner, passed.enabled, passed.typed, ?_, ?_⟩
  · exact granted.granted entry member owner _ passed.granted
  · rw [← granted.permissions entry member owner]
    exact passed.permitted

theorem storedIds_spec {left right : Checkpoint} (same : left.spec = right.spec) :
    storedIds left = storedIds right := by
  unfold storedIds
  rw [same]

theorem granted_replay {tracked : Tracked runTable} {row : AgentRun}
    (origin : Granted shared tracked.original)
    (specs : ∀ checkpoint, .suspended checkpoint ∈ tracked.assigned →
      checkpoint.spec = tracked.original.checkpoint.spec)
    (keyed : row.id = tracked.key) (granted : Granted shared row) :
    Granted shared (Tracked.replay (T := runTable) tracked.assigned row) := by
  refine (Tracked.replay_keeps (T := runTable)
    (fun run => run.id = tracked.key ∧ Granted shared run) tracked.assigned row ⟨keyed, granted⟩
    ?_).2
  rintro assignment member run ⟨keyed, granted⟩
  cases assignment with
  | state value =>
      exact ⟨keyed, granted.started, granted.permissions, granted.granted⟩
  | iterations count =>
      exact ⟨keyed, granted.started, granted.permissions, granted.granted⟩
  | tokens prompt completion =>
      exact ⟨keyed, granted.started, granted.permissions, granted.granted⟩
  | suspended checkpoint =>
      refine ⟨keyed, granted.started, granted.permissions, fun entry started owner id stored => ?_⟩
      have same := storedIds_spec (specs checkpoint member)
      refine origin.granted entry started (owner.trans keyed) id ?_
      rw [← same]
      exact stored
  | completed output =>
      exact ⟨keyed, granted.started, granted.permissions, fun _ _ _ id stored => by cases stored⟩
  | failed error =>
      exact ⟨keyed, granted.started, granted.permissions, granted.granted⟩

end Histories

section Shows

variable {i : Nat} {session : Session} {shared next : Shared}

theorem shownAfter_suspend (owns : Owns i session shared) {executionId : Nat}
    {execution : Tracked executionTable} {tool : Tool} (member : execution ∈ session.executions)
    (keyed : execution.key = executionId) (asked : (executionId, tool) ∈ session.asked) :
    shared.shownAfter session executionId (.approval .pending) = shared.shown ++ [{
      executionId := executionId
      runId := execution.original.runId
      tool := tool
      arguments := execution.original.arguments
      settings := session.request.settings }] := by
  subst keyed
  have tools := find_distinct (·.1) owns.askedOnce asked
  have rows := find_distinct (·.key) owns.distinct member
  simp only [Shared.shownAfter, tools, rows]

theorem shownAfter_other {executionId : Nat} {assignment : ExecutionAssignment}
    (other : assignment ≠ .approval .pending) :
    shared.shownAfter session executionId assignment = shared.shown := by
  unfold Shared.shownAfter
  split
  · exact absurd rfl other
  · rfl

theorem shown_reacted (owns : Owns i session shared) (vouched : Vouched session shared) {op : Op}
    {reply : Reply op} (allowed : session.allowed op)
    (change : Reaction i session shared op reply next) :
    ∀ entry ∈ next.shown, entry ∈ shared.shown ∨
      AuthorisedFor shared entry.runId entry.settings entry.tool := by
  intro entry member
  rw [change.shown] at member
  cases op with
  | assignExecution executionId assignment =>
      by_cases suspends : assignment = .approval .pending
      · subst suspends
        obtain ⟨run, execution, tool, found, listed, keyed, inserted, free, asked, passed⟩ :=
          Session.MayAssignExecution.suspends allowed
        rw [shownBy, shownAfter_suspend owns listed keyed asked] at member
        rcases List.mem_append.mp member with before | now
        · exact .inl before
        · rw [List.mem_singleton.mp now]
          have authorised := (vouched.run run found).authorised passed
          rw [show run.original.id = run.key from rfl, ← owns.belongs run found execution listed]
            at authorised
          exact .inr authorised
      · rw [shownBy, shownAfter_other suspends] at member
        exact .inl member
  | _ => exact .inl member

theorem mayAssignExecution_state {executionId : Nat} {assignment : ExecutionAssignment}
    (may : session.MayAssignExecution executionId assignment)
    (other : assignment ≠ .approval .pending) {row : ToolExecution}
    (pending : (assignment.apply row).approvalState = .pending) : row.approvalState = .pending := by
  cases may with
  | suspend => exact absurd rfl other
  | own execution _ streams member keyed inserted free plain =>
      rcases plain with rfl | ⟨_, _, rfl⟩ | ⟨_, _, _, _, rfl⟩
      · cases pending
      · cases pending
      · exact pending
  | decide execution approver reason state streams only keyed loaded clean decision first =>
      rcases decision with rfl | rfl <;> cases pending
  | finish => exact pending
  | expire => cases pending

theorem Vouched.rows_performed (owns : Owns i session shared) (vouched : Vouched session shared)
    (grants : Grants shared) {op : Op} {answer : Answer} {reply : Reply op}
    (allowed : session.allowed op)
    (reacts : shared.react i session op answer = some (reply, next)) :
    ∀ tracked ∈ (session.after op reply).executions,
      tracked.inserted = false ∨ tracked.row.approvalState = .pending →
      ∃ entry ∈ next.shown, ShownAs entry tracked.original := by
  have change := reaction reacts
  have later : ∀ {row : ToolExecution}, (∃ entry ∈ shared.shown, ShownAs entry row) →
      ∃ entry ∈ next.shown, ShownAs entry row := by
    rintro row ⟨entry, member, shown⟩
    exact ⟨entry, change.grows.shown entry member, shown⟩
  have step := rows_step session op reply
  generalize (session.after op reply).executions = rows, (session.after op reply).suspendedOn = marks
    at step
  intro tracked member state
  cases step with
  | same => exact later (vouched.rows tracked member state)
  | inserted run tool arguments row =>
      rcases List.mem_append.mp member with before | last
      · exact later (vouched.rows tracked before state)
      · have fresh := (react_addExecution reacts).2.2.2.2.2
        rw [List.mem_singleton.mp last] at state
        rcases state with loaded | pending
        · cases loaded
        · rw [Tracked.insert_row, fresh] at pending
          cases pending
  | assigned executionId assignment =>
      obtain ⟨before, listed, rfl⟩ := List.mem_map.mp member
      by_cases keyed : before.key = executionId
      · rw [if_pos keyed] at state ⊢
        by_cases suspends : assignment = .approval .pending
        · subst suspends
          obtain ⟨run, execution, tool, found, asked, same, _, _, given, _⟩ :=
            Session.MayAssignExecution.suspends allowed
          have itself := List.inj_on_of_nodup_map owns.distinct listed asked
            (keyed.trans same.symm)
          obtain ⟨other, stored, _, tagged, named⟩ := owns.asked _ given
          have again := List.inj_on_of_nodup_map owns.distinct stored asked
            (tagged.trans same.symm)
          refine ⟨⟨executionId, execution.original.runId, tool, execution.original.arguments,
            session.request.settings⟩, ?_, ?_⟩
          · rw [change.shown, shownBy, shownAfter_suspend owns asked same given]
            exact List.mem_append_right _ (List.mem_singleton.mpr rfl)
          · rw [itself]
            exact ⟨same.symm, rfl, rfl, by rw [← again]; exact named.symm⟩
        · refine later (vouched.rows before listed (state.imp id fun pending => ?_))
          rw [Tracked.assign_row] at pending
          exact mayAssignExecution_state allowed suspends pending
      · rw [if_neg keyed] at state ⊢
        exact later (vouched.rows before listed state)
  | pending runId found =>
      obtain ⟨row, listed, rfl⟩ := List.mem_map.mp member
      cases Option.mem_toList.mp listed
      obtain ⟨stored, _, pending⟩ := mem_pendingOf.mp (react_pendingForRun reacts)
      exact later (grants.pending row stored pending)
  | stale cutoff found =>
      obtain ⟨row, listed, rfl⟩ := List.mem_map.mp member
      have all : found = shared.executions.filter fun execution =>
          execution.approvalState = .pending && execution.requestedAt < cutoff := by
        cases reacts
        rfl
      rw [all] at listed
      obtain ⟨stored, stale⟩ := List.mem_filter.mp listed
      simp only [Bool.and_eq_true, decide_eq_true_eq] at stale
      exact later (grants.pending row stored stale.1)

theorem Vouched.performed (owns : Owns i session shared) (vouched : Vouched session shared)
    (consistent : Consistent shared) (grants : Grants shared) {op : Op} {answer : Answer}
    {reply : Reply op} (allowed : session.allowed op)
    (reacts : shared.react i session op answer = some (reply, next)) :
    Vouched (session.after op reply) next := by
  have change := reaction reacts
  have rows := vouched.rows_performed owns grants allowed reacts
  have old : ∀ {run : AgentRun}, Granted shared run → run.id < shared.nextId → Granted next run :=
    fun granted below => granted.reacted below change
  have step := run_step session op reply
  generalize found : (session.after op reply).run = row at step
  cases step with
  | same =>
      refine ⟨?_, ?_, rows⟩
      · intro tracked same
        rw [found] at same
        exact old (vouched.run tracked same) (owns.run_below consistent same)
      · intro tracked checkpoint same member
        rw [found] at same
        exact vouched.specs tracked checkpoint same member
  | loaded id run none =>
      have member := (react_getRun none reacts).1
      refine ⟨?_, ?_, rows⟩
      · intro tracked same
        cases found.symm.trans same
        exact old (grants.runs run member) (consistent.runs run member)
      · intro tracked checkpoint same listed
        cases found.symm.trans same
        cases listed
  | inserted draft run =>
      obtain ⟨rfl, _⟩ := react_addRun reacts
      refine ⟨?_, ?_, rows⟩
      · intro tracked same
        cases found.symm.trans same
        have only : ∀ entry ∈ next.started, entry.runId = shared.nextId →
            entry.permissions = draft.userPermissions ∧
              ∀ id ∈ storedIds draft.checkpoint, id ∈ entry.granted := by
          intro entry member owner
          rw [change.started] at member
          rcases List.mem_append.mp member with before | now
          · have below := grants.below entry before
            omega
          · rw [List.mem_singleton.mp now]
            exact ⟨rfl, allowed.granted⟩
        refine ⟨?_, fun entry member owner => (only entry member owner).1.symm,
          fun entry member owner => (only entry member owner).2⟩
        refine ⟨⟨shared.nextId, (session.version.map fun version =>
          version.tools.map (·.id)).getD [], draft.userPermissions⟩, ?_, rfl⟩
        rw [change.started]
        exact List.mem_append_right _ (List.mem_singleton.mpr rfl)
      · intro tracked checkpoint same listed
        cases found.symm.trans same
        cases listed
  | assigned assignment before kept =>
      refine ⟨?_, ?_, rows⟩
      · intro tracked same
        cases found.symm.trans same
        have below := owns.run_below consistent kept
        exact old (vouched.run before kept) below
      · intro tracked checkpoint same listed
        cases found.symm.trans same
        rcases List.mem_append.mp listed with earlier | last
        · exact vouched.specs before checkpoint kept earlier
        · rw [← List.mem_singleton.mp last] at allowed
          have same := allowed.spec kept
          exact same

theorem called_authorised (owns : Owns i session shared) (vouched : Vouched session shared)
    (grants : Grants shared) {executionId : Nat} {tool : Tool} {invocation : ToolInvocation}
    (may : session.MayExecute executionId tool invocation) :
    AuthorisedCall shared (shared.call i session executionId tool invocation) := by
  cases may with
  | direct run execution tracked streams member keyed inserted authorised read projected arguments
      owner =>
      have isDirect : (shared.call i session executionId tool invocation).direct = true := by
        simp only [Shared.call, List.any_eq_true]
        exact ⟨execution, member, by simp [keyed, inserted]⟩
      constructor
      · intro _
        have passed := (vouched.run run tracked).authorised authorised
        rw [show run.original.id = run.key from rfl, ← owner] at passed
        exact passed
      · intro approved
        rw [isDirect] at approved
        cases approved
  | approved run execution tracked streams only keyed loaded decided waiting held begun unexecuted
      approves read named projected arguments owner =>
      have notDirect : (shared.call i session executionId tool invocation).direct = false := by
        simp [Shared.call, only, loaded]
      constructor
      · intro direct
        rw [notDirect] at direct
        cases direct
      · intro _
        have member : execution ∈ session.executions := by simp [only]
        have belongs := owns.belongs run tracked execution member
        obtain ⟨entry, stored, shown⟩ := vouched.rows execution member (.inl loaded)
        exact ⟨entry, stored, shown.executionId.trans keyed,
          shown.runId.trans (belongs.trans owner.symm), shown.arguments.trans arguments.symm,
          shown.named.trans named.symm, grants.shown entry stored⟩

theorem Grants.reacted (grants : Grants shared) (consistent : Consistent shared)
    (owns : Owns i session shared) (vouched : Vouched session shared) {op : Op} {answer : Answer}
    {reply : Reply op} (allowed : session.allowed op)
    (reacts : shared.react i session op answer = some (reply, next)) : Grants next := by
  have change := reaction reacts
  have grows := change.grows
  refine ⟨?_, ?_, ?_, ?_, ?_⟩
  · intro entry member
    rw [change.started] at member
    rcases List.mem_append.mp member with before | now
    · exact Nat.lt_of_lt_of_le (grants.below entry before) grows.nextId
    · cases op with
      | addRun draft =>
          rw [List.mem_singleton.mp now, (react_addRun reacts).2]
          exact Nat.lt_succ_self _
      | _ => cases now
  · rw [change.runs]
    exact fun run member => (grants.runs run member).reacted (consistent.runs run member) change
  · rw [change.executions]
    intro row member pending
    obtain ⟨entry, stored, shown⟩ := grants.pending row member pending
    exact ⟨entry, grows.shown entry stored, shown⟩
  · intro entry member
    rcases shown_reacted owns vouched allowed change entry member with before | passed
    · exact (grants.shown entry before).mono grows.started
    · exact passed.mono grows.started
  · intro call member
    rw [change.calls] at member
    rcases List.mem_append.mp member with before | now
    · exact (grants.calls call before).mono grows.started grows.shown
    · cases op with
      | execute executionId tool invocation =>
          rw [List.mem_singleton.mp now]
          exact (called_authorised owns vouched grants allowed).mono grows.started grows.shown
      | _ => cases now

theorem Vouched.mono (vouched : Vouched session shared) (started : next.started = shared.started)
    (shown : ∀ entry ∈ shared.shown, entry ∈ next.shown) : Vouched session next := by
  refine ⟨fun tracked found => (vouched.run tracked found).of_started started, vouched.specs, ?_⟩
  intro tracked member state
  obtain ⟨entry, stored, same⟩ := vouched.rows tracked member state
  exact ⟨entry, shown entry stored, same⟩

theorem Vouched.reacted_other {j : Nat} {other : Session} {op : Op} {reply : Reply op}
    (vouched : Vouched other shared) (consistent : Consistent shared)
    (owns : Owns j other shared) (change : Reaction i session shared op reply next) :
    Vouched other next := by
  refine ⟨?_, vouched.specs, ?_⟩
  · intro tracked found
    have below := owns.run_below consistent found
    exact (vouched.run tracked found).reacted below change
  · intro tracked member state
    obtain ⟨entry, stored, same⟩ := vouched.rows tracked member state
    exact ⟨entry, change.grows.shown entry stored, same⟩

theorem Grants.committed (grants : Grants shared) (consistent : Consistent shared)
    (owns : Owns i session shared) (vouched : Vouched session shared)
    (done : Committed i session shared next) : Grants next := by
  refine ⟨?_, ?_, ?_, ?_, ?_⟩
  · rw [done.started, done.nextId]
    exact grants.below
  · intro run member
    refine Granted.of_started ?_ done.started
    rcases owns.committed_runs done member with
      ⟨before, _⟩ | ⟨tracked, row, found, keyed, same, rfl, origin⟩
    · exact grants.runs run before
    · refine granted_replay (vouched.run tracked found)
        (fun checkpoint => vouched.specs tracked checkpoint found) (same.trans keyed.symm) ?_
      rcases origin with ⟨_, rfl⟩ | ⟨_, stored⟩
      · exact vouched.run tracked found
      · exact grants.runs row stored
  · rw [done.executions, done.shown]
    intro row member pending
    rcases (Tracked.mem_store (T := executionTable)).mp member with
      ⟨old, before, rfl⟩ | ⟨tracked, listed, inserted, rfl⟩
    · rcases Tracked.update_cases (T := executionTable) session.executions old with
        ⟨same, _⟩ | ⟨tracked, listed, loaded, keyed, same⟩
      · rw [same] at pending ⊢
        exact grants.pending old before pending
      · -- A row that a request loaded was shown before, whatever became of it since.
        obtain ⟨entry, stored, shown⟩ := vouched.rows tracked listed (.inl loaded)
        obtain ⟨row, kept, original⟩ := owns.oldRows tracked listed loaded
        have itself : row = old := List.inj_on_of_nodup_map consistent.executionsOnce kept before
          (original.id.trans keyed)
        exact ⟨entry, stored, (shown.same original).same
          (itself ▸ sameCall_update session.executions row)⟩
    · obtain ⟨entry, stored, shown⟩ := vouched.rows tracked listed (.inr pending)
      exact ⟨entry, stored, shown.same (sameCall_replay _ _)⟩
  · rw [done.shown]
    intro entry member
    refine (grants.shown entry member).mono ?_
    rw [done.started]
    exact fun entry member => member
  · rw [done.calls]
    intro call member
    refine (grants.calls call member).mono ?_ ?_
    · rw [done.started]
      exact fun entry member => member
    · rw [done.shown]
      exact fun entry member => member

theorem Grants.edited (grants : Grants shared) (change : Registry → Registry) :
    Grants (shared.edit change) := by
  refine ⟨grants.below, fun run member => (grants.runs run member).of_started rfl, ?_,
    grants.shown, fun call member => (grants.calls call member).mono (fun _ member => member)
      fun _ member => member⟩
  intro row member pending
  obtain ⟨old, before, same, state⟩ := edit_execution member
  obtain ⟨entry, stored, shown⟩ := grants.pending old before (state.symm.trans pending)
  exact ⟨entry, stored, shown.same same⟩

end Shows

def authorisation : Invariant agentDiscipline (fun _ _ => True) ownership.Holds where
  shared := Grants
  session := fun _ => Vouched
  begins _ _ _ _ _ _ := ⟨fun _ same => (by cases same), fun _ _ same => (by cases same),
    fun _ member => by cases member⟩
  performs system i answer op s reply after known _ performing allowed grants vouched reacts := by
    have owns := known.2 i s performing.live
    exact ⟨grants.reacted known.1 owns vouched allowed reacts,
      vouched.performed owns known.1 grants allowed reacts,
      fun j t _ live other => other.reacted_other known.1 (known.2 j t live) (reaction reacts)⟩
  commits system i s after known _ ending _ grants vouched commits := by
    have done := committed commits
    refine ⟨grants.committed known.1 (known.2 i s ending.live) vouched done, fun j t _ _ other => ?_⟩
    refine other.mono done.started ?_
    rw [done.shown]
    exact fun entry member => member
  aborts _ _ _ _ _ _ grants _ :=
    ⟨⟨grants.below, fun run member => (grants.runs run member).of_started rfl, grants.pending,
      grants.shown, fun call member => (grants.calls call member).mono (fun _ member => member)
        fun _ member => member⟩,
      fun _ _ _ _ other => other.mono rfl fun _ member => member⟩
  changes _ edit _ _ grants :=
    ⟨grants.edited edit, fun _ _ _ other => other.mono rfl fun _ member => member⟩

theorem authorised (ok : AgentSystem → AgentLabel → Prop) (registry : Registry)
    (system : AgentSystem) (reached : Reached ok registry system) :
    authorisation.Holds system := by
  have initially : authorisation.shared (idle registry).shared :=
    ⟨fun _ member => (nomatch member), fun _ member => (nomatch member),
      fun _ member => (nomatch member), fun _ member => (nomatch member),
      fun _ member => nomatch member⟩
  exact authorisation.reached (fun _ => rfl) initially
    (fun system reached => owned _ registry system reached) system
    (reached.weaken fun _ _ _ => trivial)

section Reads

variable {ok : AgentSystem → AgentLabel → Prop} {registry : Registry} {system next : AgentSystem}

/-- The registry had the row at some moment while the request was running. -/
def ReadFrom (ok : AgentSystem → AgentLabel → Prop) (registry : Registry) (system : AgentSystem)
    (i : Nat) (tool : Tool) : Prop :=
  ∃ earlier : AgentSystem, Reached ok registry earlier ∧ System.Reaches ok earlier system ∧
    (∃ session, earlier.Live i session) ∧ tool ∈ earlier.shared.registry.tools

theorem ReadFrom.later {i : Nat} {tool : Tool} {label : AgentLabel}
    (reads : ReadFrom ok registry system i tool) (meets : ok system label)
    (stepped : system.step label = some next) : ReadFrom ok registry next i tool := by
  obtain ⟨earlier, reached, goes, live, row⟩ := reads
  exact ⟨earlier, reached, .step label goes meets stepped, live, row⟩

theorem tools_after {i : Nat} {session : Session} {shared after : Shared} {op : Op}
    {answer : Answer} {reply : Reply op}
    (reacts : shared.react i session op answer = some (reply, after)) :
    ∀ tool ∈ (session.after op reply).tools,
      tool ∈ session.tools ∨ tool ∈ shared.registry.tools := by
  intro tool member
  cases op with
  | getCurrentVersion agentId =>
      cases reply with
      | none => exact .inl member
      | some version =>
          have found : shared.registry.getCurrent agentId = some version :=
            congrArg Prod.fst (Option.some.inj reacts)
          simp only [Registry.getCurrent, Option.bind_eq_bind, Option.bind_eq_some_iff,
            Option.pure_def, Option.some.injEq] at found
          obtain ⟨agent, _, row, _, rfl⟩ := found
          obtain ⟨id, _, listed⟩ := List.mem_filterMap.mp member
          exact .inr (List.mem_of_find?_eq_some listed)
  | getRun id =>
      refine .inl ?_
      cases reply with
      | none => exact member
      | some run =>
          simp only [Session.after] at member
          split at member <;> exact member
  | getToolByName name =>
      cases reply with
      | none => exact .inl member
      | some found =>
          rcases List.mem_append.mp member with kept | last
          · exact .inl (List.mem_of_mem_filter kept)
          · rw [List.mem_singleton.mp last]
            cases answer with
            | retained kept =>
                simp only [Shared.react] at reacts
                cases named : shared.registry.getByName name with
                | none =>
                    rw [named] at reacts
                    cases reacts
                | some row =>
                    have stored : row ∈ shared.registry.tools := List.mem_of_find?_eq_some named
                    simp only [named] at reacts
                    split at reacts
                    · rename_i loaded hit
                      cases reacts
                      split
                      · exact .inl (List.mem_of_find?_eq_some hit)
                      · exact .inr stored
                    · cases reacts
                      exact .inr stored
            | _ => cases reacts
  | raise error => cases reply
  | _ => exact .inl member

theorem mayExecute_read {session : Session} {executionId : Nat} {tool : Tool}
    {invocation : ToolInvocation} (may : session.MayExecute executionId tool invocation) :
    tool ∈ session.tools := by
  cases may with
  | direct run execution tracked streams member keyed inserted authorised read => exact read
  | approved run execution tracked streams only keyed loaded decided waiting held begun unexecuted
      approves read => exact read

structure ToolsRead (ok : AgentSystem → AgentLabel → Prop) (registry : Registry)
    (system : AgentSystem) : Prop where
  sessions : ∀ i session, system.Live i session →
    ∀ tool ∈ session.tools, ReadFrom ok registry system i tool
  calls : ∀ call ∈ system.shared.calls, ReadFrom ok registry system call.process call.tool

theorem toolsRead_step {label : AgentLabel} (reached : Reached ok registry system)
    (meets : ok system label) (stepped : system.step label = some next)
    (reads : ToolsRead ok registry system) : ToolsRead ok registry next := by
  have later : ∀ {i : Nat} {tool : Tool}, ReadFrom ok registry system i tool →
      ReadFrom ok registry next i tool := fun reads => reads.later meets stepped
  have transition := System.step_transition stepped
  constructor
  · intro j other live tool member
    cases transition with
    | begin i request fresh =>
        rcases Invariant.live_put live with ⟨_, rfl, _⟩ | ⟨_, before⟩
        · cases member
        · exact later (reads.sessions j other before tool member)
    | perform i answer op program session reply shared found reacts =>
        rcases Invariant.live_put live with ⟨rfl, rfl, _⟩ | ⟨_, before⟩
        · have own : system.Live j session := System.Performing.live ⟨program, found⟩
          rcases tools_after reacts tool member with known | stored
          · exact later (reads.sessions j session own tool known)
          · exact ⟨system, reached, .step _ .start meets stepped, ⟨session, own⟩, stored⟩
        · exact later (reads.sessions j other before tool member)
    | stop i op program session found awaits =>
        rcases Invariant.live_put live with ⟨rfl, rfl, _⟩ | ⟨_, before⟩
        · have own : system.Live j session := System.Performing.live ⟨program, found⟩
          exact later (reads.sessions j session own tool member)
        · exact later (reads.sessions j other before tool member)
    | commit i session shared ending commits =>
        rcases Invariant.live_put live with ⟨_, _, ended⟩ | ⟨_, before⟩
        · rcases ended with ended | ended <;> cases ended
        · exact later (reads.sessions j other before tool member)
    | abort i session own =>
        rcases Invariant.live_put live with ⟨_, _, ended⟩ | ⟨_, before⟩
        · rcases ended with ended | ended <;> cases ended
        · exact later (reads.sessions j other before tool member)
    | change edit => exact later (reads.sessions j other live tool member)
  · intro call member
    have kept := agentDiscipline.kept_reached (fun _ => rfl) system reached
    have step := effect transition
    generalize next.shared = after at step member
    cases step with
    | unchanged => exact later (reads.calls call member)
    | reacted i answer op session reply _ performing reacts =>
        rw [(reaction reacts).calls] at member
        rcases List.mem_append.mp member with before | now
        · exact later (reads.calls call before)
        · cases op with
          | execute executionId tool invocation =>
              rw [List.mem_singleton.mp now]
              have read := mayExecute_read (kept.allowed performing)
              exact later (reads.sessions i session performing.live tool read)
          | _ => cases now
    | committed i session _ ending done =>
        rw [done.calls] at member
        exact later (reads.calls call member)
    | released i session live => exact later (reads.calls call member)
    | edited change => exact later (reads.calls call member)

theorem toolsRead (reached : Reached ok registry system) : ToolsRead ok registry system := by
  induction reached with
  | start =>
      refine ⟨fun i session live => ?_, fun call member => by cases member⟩
      obtain ⟨process, found, _⟩ := live
      cases found
  | step label before meets stepped ih => exact toolsRead_step before meets stepped ih

end Reads

/-- Runs keep what they were started with, a direct call is authorised against
it by the tool row as the request has read it, and behind an approved call there
is one that was shown, and authorised, when the run was suspended. -/
structure CallsAuthorised (registry : Registry) (system : AgentSystem) : Prop where
  runs : ∀ run ∈ system.shared.runs, Granted system.shared run
  read : ∀ call ∈ system.shared.calls,
    ReadFrom anyStep registry system call.process call.tool
  direct : ∀ call ∈ system.shared.calls, call.direct = true →
    ∃ entry ∈ system.shared.started, entry.runId = call.runId ∧
      Authorised call.settings entry.permissions entry.granted call.tool
  approved : ∀ call ∈ system.shared.calls, call.direct = false →
    ∃ shown ∈ system.shared.shown, shown.executionId = call.executionId ∧
      shown.runId = call.runId ∧ shown.arguments = call.invocation.arguments ∧
      shown.tool.name = call.tool.name ∧
      ∃ entry ∈ system.shared.started, entry.runId = call.runId ∧
        Authorised shown.settings entry.permissions entry.granted shown.tool

def impostor : Tool :=
  { lookup with id := 200, requiredPermission := "tools:admin", enabled := false }

end AiPlatform.Agents
