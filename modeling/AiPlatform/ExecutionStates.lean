import AiPlatform.EventNumbers

/-!
The approval states of executions. A request never makes a row it loaded
pending, and the rows it inserted are pending exactly when they were marked. Of
two requests that read the same suspension at most one writes events: the other
one is overtaken, and what is left of it changes no row.
-/

namespace AiPlatform.Agents

def Pending (shared : Shared) (runId id : Nat) : Prop :=
  ∃ row ∈ shared.executions, row.id = id ∧ row.runId = runId ∧ row.approvalState = .pending

def Closes (assigned : List ExecutionAssignment) : Prop :=
  assigned = [] ∨ ∀ row,
    (Tracked.replay (T := executionTable) assigned row).approvalState ≠ .pending

/-- The rows a session loaded are closed, and the ones it inserted are pending
exactly when they are marked. -/
structure Decided (rows : List (Tracked executionTable)) (marks : List Nat) : Prop where
  closed : ∀ tracked ∈ rows, tracked.inserted = false → Closes tracked.assigned
  marked : ∀ tracked ∈ rows, tracked.inserted = true →
    tracked.row.approvalState = .pending → tracked.key ∈ marks
  pending : ∀ id ∈ marks, ∃ tracked ∈ rows,
    tracked.inserted = true ∧ tracked.key = id ∧ tracked.row.approvalState = .pending

def loadedKeys (rows : List (Tracked executionTable)) : List Nat :=
  (rows.filter fun tracked => !tracked.inserted).map (·.key)

/-- A stream that goes on with a run it loaded has taken over a pending call of it. -/
structure Taken (session : Session) : Prop where
  begun : session.streams = true → ∀ tracked, session.run = some tracked →
    tracked.inserted = false → tracked.assigned ≠ [] →
    session.events ≠ [] ∧ loadedKeys session.executions ≠ []
  waiting : session.streams = true → ∀ tracked, session.run = some tracked →
    tracked.inserted = false → loadedKeys session.executions ≠ [] →
    tracked.original.state = .waitingForApproval

structure Deciding (session : Session) : Prop where
  rows : Decided session.executions session.suspendedOn
  taken : Taken session

theorem mem_loadedKeys {rows : List (Tracked executionTable)} {id : Nat} :
    id ∈ loadedKeys rows ↔ ∃ tracked ∈ rows, tracked.inserted = false ∧ tracked.key = id := by
  simp [loadedKeys, and_assoc]

theorem loadedKeys_some {rows : List (Tracked executionTable)}
    (some : ∃ tracked ∈ rows, tracked.inserted = false) : loadedKeys rows ≠ [] := by
  obtain ⟨tracked, member, loaded⟩ := some
  exact List.ne_nil_of_mem (mem_loadedKeys.mpr ⟨tracked, member, loaded, rfl⟩)

@[simp] theorem loadedKeys_inserted (rows : List (Tracked executionTable)) (row : ToolExecution) :
    loadedKeys (rows ++ [.insert row]) = loadedKeys rows := by
  simp [loadedKeys]

@[simp] theorem loadedKeys_assigned (rows : List (Tracked executionTable)) (executionId : Nat)
    (assignment : ExecutionAssignment) :
    loadedKeys (rows.map fun tracked =>
      if tracked.key = executionId then tracked.assign assignment else tracked) =
      loadedKeys rows := by
  induction rows with
  | nil => rfl
  | cons tracked rest ih =>
      by_cases keyed : tracked.key = executionId <;> cases inserted : tracked.inserted <;>
        simp_all [loadedKeys]

@[simp] theorem loadedKeys_queried (found : List ToolExecution) :
    loadedKeys (found.map fun row => .load (T := executionTable) row) = found.map (·.id) := by
  have all : (found.map fun row => (Tracked.load row : Tracked executionTable)).filter
      (fun tracked => !tracked.inserted) = found.map fun row => .load row := by
    refine List.filter_eq_self.mpr fun tracked member => ?_
    obtain ⟨row, _, rfl⟩ := List.mem_map.mp member
    rfl
  rw [loadedKeys, all, List.map_map]
  rfl

theorem marked_mono {executionId id : Nat} {marks : List Nat} {assignment : ExecutionAssignment}
    (member : id ∈ marks) : id ∈ Session.marked executionId marks assignment := by
  unfold Session.marked
  split
  · exact List.mem_append_left _ member
  · exact member

theorem marked_other {executionId : Nat} {marks : List Nat} {assignment : ExecutionAssignment}
    (other : assignment ≠ .approval .pending) :
    Session.marked executionId marks assignment = marks := by
  unfold Session.marked
  split
  · exact absurd rfl other
  · rfl

section Assignments

variable {session : Session} {executionId : Nat} {assignment : ExecutionAssignment}
  {tracked : Tracked executionTable}

theorem mayAssign_loaded (may : session.MayAssignExecution executionId assignment)
    (distinct : (session.executions.map (·.key)).Nodup) (member : tracked ∈ session.executions)
    (keyed : tracked.key = executionId) (loaded : tracked.inserted = false) :
    (∀ row, (assignment.apply row).approvalState ≠ .pending) ∨
      (tracked.assigned ≠ [] ∧
        ∀ row, (assignment.apply row).approvalState = row.approvalState) := by
  have itself : ∀ other ∈ session.executions, other.key = executionId → other = tracked :=
    fun other listed same =>
      List.inj_on_of_nodup_map distinct listed member (same.trans keyed.symm)
  cases may with
  | suspend run execution tool _ _ listed same inserted =>
      rw [itself execution listed same, loaded] at inserted
      cases inserted
  | own execution _ _ listed same inserted =>
      rw [itself execution listed same, loaded] at inserted
      cases inserted
  | decide execution approver reason state _ _ _ _ _ decision =>
      refine .inl fun row pending => ?_
      have same : state = .pending := pending
      rcases decision with rfl | rfl <;> cases same
  | finish execution success result error truncated _ listed same _ decided =>
      rw [itself execution listed same] at decided
      exact .inr ⟨decided, fun _ => rfl⟩
  | expire execution reason =>
      refine .inl fun row pending => ?_
      have same : ApprovalState.expired = .pending := pending
      cases same

theorem mayAssign_inserted (may : session.MayAssignExecution executionId assignment)
    (distinct : (session.executions.map (·.key)).Nodup) (member : tracked ∈ session.executions)
    (keyed : tracked.key = executionId) (inserted : tracked.inserted = true) :
    session.suspendedOn = [] ∧ (assignment = .approval .pending ∨
      ∀ row, row.approvalState ≠ .pending → (assignment.apply row).approvalState ≠ .pending) := by
  have itself : ∀ other ∈ session.executions, other.key = executionId → other = tracked :=
    fun other listed same =>
      List.inj_on_of_nodup_map distinct listed member (same.trans keyed.symm)
  cases may with
  | suspend run execution tool _ _ _ _ _ free => exact ⟨free, .inl rfl⟩
  | own execution _ _ _ _ _ free plain =>
      refine ⟨free, .inr fun row before pending => ?_⟩
      rcases plain with rfl | ⟨error, reason, rfl⟩ | ⟨success, result, error, truncated, rfl⟩
      · have same : ApprovalState.notRequired = .pending := pending
        cases same
      · have same : ApprovalState.rejected = .pending := pending
        cases same
      · exact before pending
  | decide execution approver reason state _ only same loaded =>
      rw [itself execution (by simp [only]) same, inserted] at loaded
      cases loaded
  | finish execution success result error truncated _ listed same loaded =>
      rw [itself execution listed same, inserted] at loaded
      cases loaded
  | expire execution reason _ listed same loaded =>
      rw [itself execution listed same, inserted] at loaded
      cases loaded

theorem closes_append {assigned : List ExecutionAssignment} (closes : Closes assigned)
    (may : (∀ row, (assignment.apply row).approvalState ≠ .pending) ∨
      (assigned ≠ [] ∧ ∀ row, (assignment.apply row).approvalState = row.approvalState)) :
    Closes (assigned ++ [assignment]) := by
  refine .inr fun row => ?_
  rw [Tracked.replay_append]
  change (assignment.apply _).approvalState ≠ .pending
  rcases may with shut | ⟨some, same⟩
  · exact shut _
  · rw [same]
    exact closes.resolve_left some row

end Assignments

section Sessions

variable {i : Nat} {session : Session} {shared next : Shared}

theorem deciding_opened (request : AgentRequest) : Deciding (.opened request) :=
  ⟨⟨fun _ member => (nomatch member), fun _ member => (nomatch member),
    fun _ member => (nomatch member)⟩,
    ⟨fun _ _ same => (nomatch same), fun _ _ same => (nomatch same)⟩⟩

theorem decided_loaded {found : List ToolExecution} {marks : List Nat}
    (free : ∀ id, id ∉ marks) : Decided (found.map .load) marks := by
  refine ⟨?_, ?_, fun id marked => absurd marked (free id)⟩
  · intro tracked member _
    obtain ⟨row, _, rfl⟩ := List.mem_map.mp member
    exact .inl rfl
  · intro tracked member inserted
    obtain ⟨row, _, rfl⟩ := List.mem_map.mp member
    cases inserted

theorem Decided.performed (decided : Decided session.executions session.suspendedOn)
    (distinct : (session.executions.map (·.key)).Nodup) {op : Op} {reply : Reply op}
    (allowed : session.allowed op) (trusted : session.trusted op reply) :
    Decided (session.after op reply).executions (session.after op reply).suspendedOn := by
  have step := rows_step session op reply
  generalize (session.after op reply).executions = rows, (session.after op reply).suspendedOn = marks
    at step
  cases step with
  | same => exact decided
  | inserted run tool arguments row =>
      refine ⟨?_, ?_, ?_⟩
      · intro tracked member loaded
        rcases List.mem_append.mp member with before | last
        · exact decided.closed tracked before loaded
        · rw [List.mem_singleton.mp last] at loaded
          cases loaded
      · intro tracked member inserted pending
        rcases List.mem_append.mp member with before | last
        · exact decided.marked tracked before inserted pending
        · rw [List.mem_singleton.mp last, Tracked.insert_row, trusted.2.2.2] at pending
          cases pending
      · intro id marked
        obtain ⟨tracked, member, rest⟩ := decided.pending id marked
        exact ⟨tracked, List.mem_append_left _ member, rest⟩
  | assigned executionId assignment =>
      refine ⟨?_, ?_, ?_⟩
      · intro tracked member loaded
        obtain ⟨before, listed, rfl⟩ := List.mem_map.mp member
        by_cases keyed : before.key = executionId
        · rw [if_pos keyed] at loaded ⊢
          exact closes_append (decided.closed before listed loaded)
            (mayAssign_loaded allowed distinct listed keyed loaded)
        · rw [if_neg keyed] at loaded ⊢
          exact decided.closed before listed loaded
      · intro tracked member inserted pending
        obtain ⟨before, listed, rfl⟩ := List.mem_map.mp member
        by_cases keyed : before.key = executionId
        · rw [if_pos keyed] at inserted pending ⊢
          obtain ⟨free, suspends | keeps⟩ :=
            mayAssign_inserted allowed distinct listed keyed inserted
          · rw [suspends, Tracked.assign_key, keyed]
            exact List.mem_append_right _ (List.mem_singleton.mpr rfl)
          · rw [Tracked.assign_row] at pending
            refine absurd pending (keeps _ fun before' => ?_)
            have marked := decided.marked before listed inserted before'
            rw [free] at marked
            cases marked
        · rw [if_neg keyed] at inserted pending ⊢
          exact marked_mono (decided.marked before listed inserted pending)
      · intro id marked
        by_cases suspends : assignment = .approval .pending
        · subst suspends
          obtain ⟨run, execution, tool, _, listed, keyed, inserted, free, _⟩ :=
            Session.MayAssignExecution.suspends allowed
          rw [Session.marked, free, List.nil_append, List.mem_singleton] at marked
          refine ⟨_, List.mem_map.mpr ⟨execution, listed, rfl⟩, ?_⟩
          rw [if_pos keyed, marked]
          exact ⟨inserted, keyed, by rw [Tracked.assign_row]; rfl⟩
        · rw [marked_other suspends] at marked
          obtain ⟨tracked, member, inserted, keyed, pending⟩ := decided.pending id marked
          refine ⟨_, List.mem_map.mpr ⟨tracked, member, rfl⟩, ?_⟩
          by_cases same : tracked.key = executionId
          · have free := (mayAssign_inserted allowed distinct member same inserted).1
            rw [free] at marked
            cases marked
          · rw [if_neg same]
            exact ⟨inserted, keyed, pending⟩
  | pending runId found =>
      apply decided_loaded
      intro id marked
      obtain ⟨tracked, member, inserted, _⟩ := decided.pending id marked
      rw [(allowed.untouched tracked member).1] at inserted
      cases inserted
  | stale cutoff found =>
      apply decided_loaded
      intro id marked
      obtain ⟨tracked, member, _⟩ := decided.pending id marked
      rw [allowed.2.2] at member
      cases member

theorem mayAssignRun_taken {assignment : RunAssignment} (may : session.MayAssignRun assignment)
    (streams : session.streams = true) {tracked : Tracked runTable}
    (found : session.run = some tracked) (loaded : tracked.inserted = false) :
    session.events ≠ [] ∧ loadedKeys session.executions ≠ [] := by
  cases may with
  | step other _ same _ begun _ taken =>
      rw [found] at same
      cases same
      exact ⟨begun, loadedKeys_some (taken loaded)⟩
  | suspend other _ _ same _ begun _ taken =>
      rw [found] at same
      cases same
      exact ⟨begun, loadedKeys_some (taken loaded)⟩
  | finish other _ same _ begun _ taken =>
      rw [found] at same
      cases same
      exact ⟨begun, loadedKeys_some (taken loaded)⟩
  | cancel other same outside =>
      rw [streams] at outside
      cases outside

theorem Taken.frame {later : Session} (taken : Taken session)
    (request : later.request = session.request) (run : later.run = session.run)
    (keys : loadedKeys later.executions = loadedKeys session.executions)
    (events : session.events ≠ [] → later.events ≠ []) : Taken later := by
  have streams : later.streams = session.streams := by simp [Session.streams, request]
  constructor
  · rw [streams, run, keys]
    intro outside tracked found loaded some
    have before := taken.begun outside tracked found loaded some
    exact ⟨events before.1, before.2⟩
  · rw [streams, run, keys]
    exact taken.waiting

theorem Taken.assignedRun (taken : Taken session) {assignment : RunAssignment}
    (may : session.MayAssignRun assignment) :
    Taken (session.after (.assignRun assignment) ()) := by
  constructor
  · intro streams tracked same loaded _
    obtain ⟨before, found, rfl⟩ := Option.map_eq_some_iff.mp same
    have outside : session.streams = true := streams
    have before := mayAssignRun_taken may outside found loaded
    exact before
  · intro streams tracked same loaded some
    obtain ⟨before, found, rfl⟩ := Option.map_eq_some_iff.mp same
    exact taken.waiting streams before found loaded some

theorem Taken.performed (taken : Taken session) {op : Op} {reply : Reply op}
    (allowed : session.allowed op) : Taken (session.after op reply) := by
  cases op with
  | getCurrentVersion agentId =>
      cases reply with
      | none => exact taken
      | some version => exact taken.frame rfl rfl rfl id
  | getRun runId =>
      cases reply with
      | none => exact taken
      | some run =>
          cases found : session.run with
          | some tracked => simpa [Session.after, found] using taken
          | none =>
              have bare := (allowed found).1
              simp only [Session.after, found]
              constructor
              · intro _ tracked same _ assigned
                cases same
                exact absurd rfl assigned
              · intro _ tracked _ _ some
                rw [bare] at some
                exact absurd rfl some
  | addRun draft =>
      constructor <;> intro _ tracked same loaded <;> cases same <;> cases loaded
  | assignRun assignment => exact taken.assignedRun allowed
  | addExecution run tool arguments =>
      exact taken.frame rfl rfl (loadedKeys_inserted _ _) id
  | assignExecution executionId assignment =>
      exact taken.frame rfl rfl (loadedKeys_assigned _ _ _) id
  | pendingForRun runId =>
      obtain ⟨mine, held, _, _, waiting⟩ := allowed.tracked
      constructor
      · intro streams tracked found loaded assigned
        exact absurd allowed.first (taken.begun streams tracked found loaded assigned).1
      · intro streams tracked found _ _
        have same : session.run = some tracked := found
        rw [held] at same
        cases same
        exact waiting streams
  | pendingOlderThan cutoff =>
      constructor <;> intro streams <;> exact absurd (allowed.1.symm.trans streams) (by decide)
  | writeEvent event => exact taken.frame rfl rfl rfl fun _ => wrote_begun event session
  | getToolByName name =>
      cases reply with
      | none => exact taken
      | some tool => exact taken.frame rfl rfl rfl id
  | raise error => cases reply
  | _ => exact taken.frame rfl rfl rfl id

end Sessions

def decisions : Invariant agentDiscipline (fun _ _ => True) ownership.Holds where
  shared := fun _ => True
  session := fun _ session _ => Deciding session
  begins _ _ request _ _ _ := deciding_opened request
  performs _ i _ _ s _ _ owned _ performing allowed _ deciding reacts :=
    ⟨trivial, ⟨deciding.rows.performed (owned.2 i s performing.live).distinct allowed
      (react_trusted reacts), deciding.taken.performed allowed⟩, fun _ _ _ _ other => other⟩
  commits _ _ _ _ _ _ _ _ _ _ _ := ⟨trivial, fun _ _ _ _ other => other⟩
  aborts _ _ _ _ _ _ _ _ := ⟨trivial, fun _ _ _ _ other => other⟩
  changes _ _ _ _ _ := ⟨trivial, fun _ _ _ other => other⟩

theorem decided (ok : AgentSystem → AgentLabel → Prop) (registry : Registry)
    (system : AgentSystem) (reached : Reached ok registry system) : decisions.Holds system :=
  decisions.reached (fun _ => rfl) trivial (fun system reached => owned _ registry system reached)
    system (reached.weaken fun _ _ _ => trivial)

structure Known (system : AgentSystem) : Prop where
  kept : agentDiscipline.Kept system
  owned : ownership.Holds system
  counted : numbering.Holds system
  decided : decisions.Holds system

theorem known (ok : AgentSystem → AgentLabel → Prop) (registry : Registry)
    (system : AgentSystem) (reached : Reached ok registry system) : Known system :=
  ⟨agentDiscipline.kept_reached (fun _ => rfl) system reached, owned ok registry system reached,
    Agents.counted ok registry system reached, Agents.decided ok registry system reached⟩

section Commits

variable {i j : Nat} {session other : Session} {shared next : Shared} {runId id : Nat}

theorem pending_edit (change : Registry → Registry) :
    Pending (shared.edit change) runId id ↔ Pending shared runId id := by
  constructor
  · rintro ⟨row, member, keyed, owner, pending⟩
    obtain ⟨old, before, same, state⟩ := edit_execution member
    exact ⟨old, before, same.id.symm.trans keyed, same.runId.symm.trans owner, state ▸ pending⟩
  · rintro ⟨row, member, keyed, owner, pending⟩
    obtain ⟨later, now, same, state⟩ := execution_edit change member
    exact ⟨later, now, same.id.trans keyed, same.runId.trans owner, state.trans pending⟩

theorem Pending.stored (pending : Pending shared runId id)
    (executions : next.executions = shared.executions) : Pending next runId id := by
  unfold Pending
  rw [executions]
  exact pending

theorem pending_committed (owns : Owns i session shared)
    (decided : Decided session.executions session.suspendedOn)
    (done : Committed i session shared next) (pending : Pending next runId id) :
    (Pending shared runId id ∧ ∀ tracked ∈ session.executions,
      tracked.inserted = false → tracked.key = id → tracked.assigned = []) ∨
      (id ∈ session.suspendedOn ∧ session.streams = true ∧
        (∃ tracked ∈ session.executions, tracked.inserted = true) ∧
        ∃ run, session.run = some run ∧ run.key = runId) := by
  obtain ⟨row, member, keyed, owner, state⟩ := pending
  rw [done.executions] at member
  rcases (Tracked.mem_store (T := executionTable)).mp member with
    ⟨old, before, rfl⟩ | ⟨tracked, listed, inserted, rfl⟩
  · have same := sameCall_update session.executions old
    rcases Tracked.update_cases (T := executionTable) session.executions old with
      ⟨kept, none⟩ | ⟨tracked, listed, loaded, mine, written⟩
    · rw [kept] at keyed owner state
      refine .inl ⟨⟨old, before, keyed, owner, state⟩, fun other listed loaded theirs => ?_⟩
      exact absurd (theirs.trans keyed.symm) (none other listed loaded)
    · have clean : tracked.assigned = [] := by
        rcases decided.closed tracked listed loaded with clean | shut
        · exact clean
        · rw [written] at state
          exact absurd state (shut old)
      rw [written, clean] at keyed owner state
      refine .inl ⟨⟨old, before, keyed, owner, state⟩, fun other member loaded theirs => ?_⟩
      rw [List.inj_on_of_nodup_map owns.distinct member listed
        (theirs.trans (keyed.symm.trans mine.symm))]
      exact clean
  · have mine : tracked.row.id = tracked.key := Tracked.key_row tracked
    have marked := decided.marked tracked listed inserted state
    have streams := (owns.newRows tracked listed inserted).2.2.1
    rw [← mine, keyed] at marked
    refine .inr ⟨marked, streams, ⟨tracked, listed, inserted⟩, ?_⟩
    cases found : session.run with
    | none =>
        rw [owns.idle found streams] at listed
        cases listed
    | some run =>
        refine ⟨run, rfl, ?_⟩
        have same : tracked.row.runId = tracked.original.runId := (sameCall_replay _ _).runId
        rw [← owner, same, owns.belongs run found tracked listed]

theorem Owns.loaded_row (consistent : Consistent shared) (owns : Owns i session shared)
    {tracked : Tracked executionTable} (member : tracked ∈ session.executions)
    (loaded : tracked.inserted = false) {row : ToolExecution} (stored : row ∈ shared.executions)
    (keyed : row.id = tracked.key) : row.runId = tracked.original.runId := by
  obtain ⟨old, before, same⟩ := owns.oldRows tracked member loaded
  have one : old = row := List.inj_on_of_nodup_map consistent.executionsOnce before stored
    (same.id.trans keyed.symm)
  rw [← one, same.runId]

theorem pending_kept (done : Committed i session shared next) (pending : Pending shared runId id)
    (clean : ∀ tracked ∈ session.executions,
      tracked.inserted = false → tracked.key = id → tracked.assigned = []) :
    Pending next runId id := by
  obtain ⟨row, member, keyed, owner, state⟩ := pending
  refine ⟨row, ?_, keyed, owner, state⟩
  have same : Tracked.update session.executions row = row :=
    Tracked.update_clean (T := executionTable) fun tracked listed loaded mine =>
      clean tracked listed loaded (mine.trans keyed)
  rw [done.executions, ← same]
  exact Tracked.update_stored (T := executionTable) member

theorem pending_marked (owns : Owns i session shared)
    (decided : Decided session.executions session.suspendedOn)
    (done : Committed i session shared next) {run : Tracked runTable}
    (found : session.run = some run) (marked : id ∈ session.suspendedOn) :
    Pending next run.key id := by
  obtain ⟨tracked, listed, inserted, keyed, state⟩ := decided.pending id marked
  have same : SameCall tracked.row tracked.original := sameCall_replay _ _
  refine ⟨tracked.row, ?_, same.id.trans keyed,
    same.runId.trans (owns.belongs run found tracked listed), state⟩
  rw [done.executions]
  exact Tracked.inserted_stored (T := executionTable) _ listed inserted

theorem run_kept (done : Committed i session shared next) {run : AgentRun}
    (member : run ∈ shared.runs)
    (clean : ∀ tracked, session.run = some tracked → tracked.inserted = false →
      tracked.key = run.id → tracked.assigned = []) : run ∈ next.runs := by
  have same : Tracked.update session.run.toList run = run :=
    Tracked.update_clean (T := runTable) fun tracked listed loaded mine =>
      clean tracked (by simpa using listed) loaded mine
  rw [done.runs, ← same]
  exact Tracked.update_stored (T := runTable) member

theorem untouched_committed (untouched : session.Untouched)
    (done : Committed i session shared next) :
    next.runs = shared.runs ∧ next.executions = shared.executions := by
  constructor
  · rw [done.runs]
    exact Tracked.store_clean (T := runTable) _ fun tracked listed =>
      untouched.run tracked (by simpa using listed)
  · rw [done.executions]
    exact Tracked.store_clean (T := executionTable) _ untouched.executions

def Overtaken (session : Session) (shared : Shared) : Prop :=
  ∃ tracked, session.run = some tracked ∧ tracked.inserted = false ∧
    session.base ≤ shared.counted tracked.key

theorem Overtaken.silent (overtaken : Overtaken session shared)
    (counting : Counting session shared) : session.events = [] := by
  obtain ⟨tracked, found, loaded, behind⟩ := overtaken
  by_contra begun
  have current := counting.current tracked found loaded begun
  omega

theorem Overtaken.stored (overtaken : Overtaken session shared)
    (events : next.events = shared.events) : Overtaken session next := by
  obtain ⟨tracked, found, loaded, behind⟩ := overtaken
  refine ⟨tracked, found, loaded, ?_⟩
  unfold Shared.counted Shared.eventsOf at behind ⊢
  rw [events]
  exact behind

theorem Overtaken.committed (overtaken : Overtaken other shared) (owns : Owns i session shared)
    (done : Committed i session shared next) : Overtaken other next := by
  obtain ⟨tracked, found, loaded, behind⟩ := overtaken
  refine ⟨tracked, found, loaded, ?_⟩
  rw [counted_committed owns done]
  omega

theorem Overtaken.performed (overtaken : Overtaken session shared) {op : Op} {reply : Reply op}
    (allowed : session.allowed op) : Overtaken (session.after op reply) shared := by
  obtain ⟨tracked, found, loaded, behind⟩ := overtaken
  have step := run_step session op reply
  generalize same : (session.after op reply).run = row at step
  cases step with
  | same =>
      refine ⟨tracked, same.trans found, loaded, ?_⟩
      rw [Session.base, same]
      exact behind
  | loaded id run none =>
      rw [found] at none
      cases none
  | inserted draft run =>
      rw [allowed.first.1] at found
      cases found
  | assigned assignment before kept =>
      rw [found] at kept
      cases kept
      refine ⟨_, same, loaded, ?_⟩
      rw [base_assignRun]
      exact behind

theorem overtakes (different : j ≠ i) (theirs : Owns j other shared)
    (counting : Counting other shared) (owns : Owns i session shared)
    (mine : Counting session shared) (done : Committed i session shared next)
    (begun : session.events ≠ []) {own tracked : Tracked runTable} (held : session.run = some own)
    (found : other.run = some tracked) (same : own.key = tracked.key)
    (loaded : tracked.inserted = false)
    (waiting : tracked.original.state = .waitingForApproval) : Overtaken other next := by
  have more : next.counted tracked.key = shared.counted tracked.key + session.events.length := by
    rw [counted_committed owns done, if_pos (by simp [held, same])]
  have some := List.length_pos_iff.mpr begun
  refine ⟨tracked, found, loaded, ?_⟩
  by_cases bare : other.events = []
  · obtain ⟨suspension, saved, low, high⟩ := counting.taken tracked found loaded waiting
    have base : other.base = suspension.sequence := by simp [Session.base, found, saved]
    omega
  · have before := counting.current tracked found loaded bare
    have after := (counting.committed_other different theirs mine owns done).current tracked found
      loaded bare
    omega

end Commits

/-- Unless it is overtaken, a request that goes on with a run it read as waiting
relies on something about the run and the executions it loaded. -/
def Relies (on : Shared → Nat → List Nat → Prop) (session : Session) (shared : Shared) : Prop :=
  session.streams = true → ∀ tracked, session.run = some tracked → tracked.inserted = false →
    tracked.original.state = .waitingForApproval →
      Overtaken session shared ∨ on shared tracked.key (loadedKeys session.executions)

section Reliance

variable {i : Nat} {on : Shared → Nat → List Nat → Prop} {session : Session} {shared next : Shared}

theorem relies_opened (on : Shared → Nat → List Nat → Prop) (request : AgentRequest)
    (shared : Shared) : Relies on (.opened request) shared :=
  fun _ _ same => by cases same

theorem Relies.stored (relies : Relies on session shared) (events : next.events = shared.events)
    (kept : ∀ runId keys, on shared runId keys → on next runId keys) : Relies on session next := by
  intro streams tracked found loaded waiting
  rcases relies streams tracked found loaded waiting with overtaken | holds
  · exact .inl (overtaken.stored events)
  · exact .inr (kept _ _ holds)

theorem Relies.frame {later : Session} (relies : Relies on session shared)
    (request : later.request = session.request) (run : later.run = session.run)
    (keys : loadedKeys later.executions = loadedKeys session.executions) :
    Relies on later shared := by
  intro streams tracked found loaded waiting
  rw [Session.streams, request] at streams
  rw [run] at found
  rw [keys]
  rcases relies streams tracked found loaded waiting with overtaken | holds
  · left
    unfold Overtaken Session.base at *
    rw [run]
    exact overtaken
  · exact .inr holds

theorem Relies.performed (relies : Relies on session shared)
    (loads : ∀ run ∈ shared.runs, run.state = .waitingForApproval → on shared run.id [])
    (queries : ∀ runId keys (found : Option ToolExecution), on shared runId keys →
      (∀ row, found = some row → row ∈ shared.pendingOf runId) →
      on shared runId (found.toList.map (·.id)))
    {op : Op} {answer : Answer} {reply : Reply op} (allowed : session.allowed op)
    (reacts : shared.react i session op answer = some (reply, next)) :
    Relies on (session.after op reply) shared := by
  cases op with
  | getCurrentVersion agentId =>
      cases reply with
      | none => exact relies
      | some version => exact relies.frame rfl rfl rfl
  | getRun runId =>
      cases reply with
      | none => exact relies
      | some run =>
          cases found : session.run with
          | some tracked => simpa [Session.after, found] using relies
          | none =>
              have member := (react_getRun found reacts).1
              simp only [Session.after, found]
              intro _ tracked same _ waiting
              cases same
              rw [(allowed found).1]
              exact .inr (loads run member waiting)
  | addRun draft =>
      intro _ tracked same loaded
      cases same
      cases loaded
  | assignRun assignment =>
      intro streams tracked same loaded waiting
      obtain ⟨before, found, rfl⟩ := Option.map_eq_some_iff.mp same
      rcases relies streams before found loaded waiting with overtaken | holds
      · exact .inl (overtaken.performed allowed)
      · exact .inr holds
  | addExecution run tool arguments => exact relies.frame rfl rfl (loadedKeys_inserted _ _)
  | assignExecution executionId assignment =>
      exact relies.frame rfl rfl (loadedKeys_assigned _ _ _)
  | pendingForRun runId =>
      obtain ⟨mine, held, keyed, _⟩ := allowed.tracked
      intro streams tracked same loaded waiting
      have found : session.run = some tracked := same
      rw [held] at found
      cases found
      rcases relies streams mine held loaded waiting with overtaken | holds
      · exact .inl (overtaken.performed allowed)
      · right
        rw [keyed] at holds ⊢
        change on shared runId (loadedKeys (reply.toList.map fun row => .load row))
        rw [loadedKeys_queried]
        refine queries runId _ reply holds fun row same => ?_
        subst same
        exact react_pendingForRun reacts
  | pendingOlderThan cutoff =>
      intro streams
      exact absurd (allowed.1.symm.trans streams) (by decide)
  | writeEvent event => exact relies.frame rfl rfl rfl
  | getToolByName name =>
      cases reply with
      | none => exact relies
      | some tool => exact relies.frame rfl rfl rfl
  | raise error => cases reply
  | _ => exact relies.frame rfl rfl rfl

theorem Relies.committed {j : Nat} {other : Session} (relies : Relies on other shared)
    (different : j ≠ i) (theirs : Owns j other shared) (counting : Counting other shared)
    (owns : Owns i session shared) (mine : Counting session shared)
    (done : Committed i session shared next)
    (kept : other.streams = true → ∀ tracked, other.run = some tracked →
      tracked.inserted = false → tracked.original.state = .waitingForApproval →
      (session.events = [] ∨ ∀ own, session.run = some own → own.key ≠ tracked.key) →
      on shared tracked.key (loadedKeys other.executions) →
      on next tracked.key (loadedKeys other.executions)) :
    Relies on other next := by
  intro streams tracked found loaded waiting
  rcases relies streams tracked found loaded waiting with overtaken | holds
  · exact .inl (overtaken.committed owns done)
  by_cases begun : session.events = []
  · exact .inr (kept streams tracked found loaded waiting (.inl begun) holds)
  by_cases shares : ∃ own, session.run = some own ∧ own.key = tracked.key
  · obtain ⟨own, held, same⟩ := shares
    exact .inl (overtakes different theirs counting owns mine done begun held found same loaded
      waiting)
  · exact .inr (kept streams tracked found loaded waiting
      (.inr fun own held same => shares ⟨own, held, same⟩) holds)

end Reliance

end AiPlatform.Agents
