import AiPlatform.Dialogue
import Mathlib.Data.List.Induction

/-!
The discipline of the agent services: when each operation is used. It is
stated on the session alone, so it holds of a program whatever other requests
do, and the programs are shown to follow it once. What it says about the store
is drawn from it for whole schedules elsewhere.
-/

namespace AiPlatform.Agents

def RunAssignment.state? : RunAssignment → Option RunState
  | .state value => some value
  | .suspended _ => some .waitingForApproval
  | .completed _ => some .completed
  | .failed _ => some .failed
  | .iterations _ | .tokens _ _ => none

def RunAssignment.plain : RunAssignment → Bool
  | .state .running | .iterations _ | .tokens _ _ => true
  | .state _ | .suspended _ | .completed _ | .failed _ => false

theorem plain_checkpoint {assignment : RunAssignment} (plain : assignment.plain = true)
    (run : AgentRun) : (assignment.apply run).checkpoint = run.checkpoint := by
  cases assignment with
  | state value => rfl
  | iterations count => rfl
  | tokens prompt completion => rfl
  | suspended checkpoint => cases plain
  | completed output => cases plain
  | failed error => cases plain

def lastState (assigned : List RunAssignment) : Option RunState :=
  assigned.foldl (fun last assignment => assignment.state?.or last) none

theorem lastState_append (assigned : List RunAssignment) (assignment : RunAssignment) :
    lastState (assigned ++ [assignment]) = assignment.state?.or (lastState assigned) := by
  simp [lastState, List.foldl_append]

theorem apply_state (assignment : RunAssignment) (run : AgentRun) :
    (assignment.apply run).state = assignment.state?.getD run.state := by
  cases assignment <;> rfl

theorem replay_state (assigned : List RunAssignment) (run : AgentRun) :
    (Tracked.replay (T := runTable) assigned run).state =
      (lastState assigned).getD run.state := by
  induction assigned using List.reverseRecOn with
  | nil => rfl
  | append_singleton rest assignment ih =>
      rw [Tracked.replay_append, lastState_append]
      change (assignment.apply _).state = _
      rw [apply_state, ih]
      cases assignment.state? <;> rfl

def storedIds (checkpoint : Checkpoint) : List Nat :=
  grantedIds ((checkpoint.spec.map (·.tools)).getD [])

def Suspension.lastOpen (suspension : Suspension) : Prop :=
  unanswered suspension.conversation = some [callId suspension.pendingCall]

def Resumable (origin : AgentRun) (fresh : Bool) : Prop :=
  fresh = false →
    ∃ suspension, origin.checkpoint.suspension = some suspension ∧ suspension.lastOpen

def Action.approves : Action → Bool
  | .approve _ approved _ _ => approved
  | .start _ _ _ _ | .cancel _ | .expireOlderThan _ => false

namespace Session

def streams (session : Session) : Bool :=
  match session.request.action with
  | .start _ _ _ _ | .approve _ _ _ _ => true
  | .cancel _ | .expireOlderThan _ => false

/-- The session loaded rows and changed none. -/
structure Untouched (session : Session) : Prop where
  run : ∀ tracked, session.run = some tracked → tracked.inserted = false ∧ tracked.assigned = []
  executions : ∀ tracked ∈ session.executions, tracked.inserted = false ∧ tracked.assigned = []

structure Settled (session : Session) : Prop where
  sequenced : ∀ tracked checkpoint, session.run = some tracked →
    .suspended checkpoint ∈ tracked.assigned →
    ∃ suspension, checkpoint.suspension = some suspension ∧
      suspension.sequence = session.nextSequence
  quiet : session.streams = true → session.events = [] → session.Untouched

structure Concluded (session : Session) (tracked : Tracked runTable) : Prop where
  state : ∃ state, lastState tracked.assigned = some state ∧
    ((state.isTerminal = true ∧ session.suspendedOn = []) ∨
      (state = .waitingForApproval ∧ ∃ id, session.suspendedOn = [id]))
  decided : ∀ execution ∈ session.executions, execution.inserted = false → execution.assigned ≠ []

def Finished (session : Session) : Prop :=
  ∀ tracked, session.run = some tracked → session.Untouched ∨ session.Concluded tracked

inductive MayAssignRun (session : Session) : RunAssignment → Prop
  | step (tracked : Tracked runTable) (assignment : RunAssignment)
      (run : session.run = some tracked) (streams : session.streams = true)
      (begun : session.events ≠ [])
      (waiting : tracked.inserted = false → tracked.original.state = .waitingForApproval)
      (taken : tracked.inserted = false →
        ∃ execution ∈ session.executions, execution.inserted = false)
      (plain : assignment.plain = true) :
      MayAssignRun session assignment
  | suspend (tracked : Tracked runTable) (checkpoint : Checkpoint) (suspension : Suspension)
      (run : session.run = some tracked) (streams : session.streams = true)
      (begun : session.events ≠ [])
      (waiting : tracked.inserted = false → tracked.original.state = .waitingForApproval)
      (taken : tracked.inserted = false →
        ∃ execution ∈ session.executions, execution.inserted = false)
      (spec : checkpoint.spec = tracked.original.checkpoint.spec)
      (pending : ∃ id, session.suspendedOn = [id])
      (suspended : checkpoint.suspension = some suspension)
      (sequence : suspension.sequence = session.nextSequence + 1)
      (dialogue : Resumable tracked.original tracked.inserted →
        ∃ rest, unanswered suspension.conversation =
          some (callId suspension.pendingCall :: rest)) :
      MayAssignRun session (.suspended checkpoint)
  | finish (tracked : Tracked runTable) (assignment : RunAssignment)
      (run : session.run = some tracked) (streams : session.streams = true)
      (begun : session.events ≠ [])
      (waiting : tracked.inserted = false → tracked.original.state = .waitingForApproval)
      (taken : tracked.inserted = false →
        ∃ execution ∈ session.executions, execution.inserted = false)
      (final : (∃ output, assignment = .completed output) ∨ ∃ error, assignment = .failed error) :
      MayAssignRun session assignment
  | cancel (tracked : Tracked runTable) (run : session.run = some tracked)
      (streams : session.streams = false) (loaded : tracked.inserted = false)
      (clean : tracked.assigned = []) (live : tracked.original.isTerminal = false)
      (nothing : session.executions = []) :
      MayAssignRun session (.state .cancelled)

theorem MayAssignRun.spec {session : Session} {checkpoint : Checkpoint}
    (may : session.MayAssignRun (.suspended checkpoint)) {tracked : Tracked runTable}
    (found : session.run = some tracked) :
    checkpoint.spec = tracked.original.checkpoint.spec := by
  cases may with
  | step other _ run streams begun waiting taken plain => cases plain
  | suspend other _ suspension run streams begun waiting taken spec =>
      rw [found] at run
      cases run
      exact spec
  | finish other _ run streams begun waiting taken final =>
      rcases final with ⟨output, same⟩ | ⟨error, same⟩ <;> cases same

inductive MayAssignExecution (session : Session) (executionId : Nat) :
    ExecutionAssignment → Prop
  | suspend (run : Tracked runTable) (execution : Tracked executionTable) (tool : Tool)
      (tracked : session.run = some run) (streams : session.streams = true)
      (member : execution ∈ session.executions) (keyed : execution.key = executionId)
      (inserted : execution.inserted = true) (free : session.suspendedOn = [])
      (asked : (executionId, tool) ∈ session.asked)
      (authorised : Authorised session.request.settings run.original.userPermissions
        (storedIds run.original.checkpoint) tool) :
      MayAssignExecution session executionId (.approval .pending)
  | own (execution : Tracked executionTable) (assignment : ExecutionAssignment)
      (streams : session.streams = true) (member : execution ∈ session.executions)
      (keyed : execution.key = executionId) (inserted : execution.inserted = true)
      (free : session.suspendedOn = [])
      (plain : assignment = .approval .notRequired ∨
        (∃ error reason, assignment = .denied error reason) ∨
        ∃ success result error truncated,
          assignment = .finished success result error truncated) :
      MayAssignExecution session executionId assignment
  | decide (execution : Tracked executionTable) (approver : Nat) (reason : Option String)
      (state : ApprovalState) (streams : session.streams = true)
      (only : session.executions = [execution]) (keyed : execution.key = executionId)
      (loaded : execution.inserted = false) (clean : execution.assigned = [])
      (decision : state = .approved ∨ state = .rejected) (first : session.events = []) :
      MayAssignExecution session executionId (.decided approver reason state)
  | finish (execution : Tracked executionTable) (success : Bool) (result error : Option String)
      (truncated : Bool) (streams : session.streams = true)
      (member : execution ∈ session.executions) (keyed : execution.key = executionId)
      (loaded : execution.inserted = false) (decided : execution.assigned ≠ []) :
      MayAssignExecution session executionId (.finished success result error truncated)
  | expire (execution : Tracked executionTable) (reason : String)
      (streams : session.streams = false) (member : execution ∈ session.executions)
      (keyed : execution.key = executionId) (loaded : execution.inserted = false) :
      MayAssignExecution session executionId (.expired reason)

theorem MayAssignExecution.suspends {session : Session} {executionId : Nat}
    (may : session.MayAssignExecution executionId (.approval .pending)) :
    ∃ run execution tool, session.run = some run ∧ execution ∈ session.executions ∧
      execution.key = executionId ∧ execution.inserted = true ∧ session.suspendedOn = [] ∧
      (executionId, tool) ∈ session.asked ∧
      Authorised session.request.settings run.original.userPermissions
        (storedIds run.original.checkpoint) tool := by
  cases may with
  | suspend run execution tool tracked streams member keyed inserted free asked authorised =>
      exact ⟨run, execution, tool, tracked, member, keyed, inserted, free, asked, authorised⟩
  | own execution _ streams member keyed inserted free plain =>
      rcases plain with same | ⟨_, _, same⟩ | ⟨_, _, _, _, same⟩ <;> cases same

structure MayWriteEvent (session : Session) (event : AgentRunEvent) : Prop where
  streams : session.streams = true
  tracked : ∃ tracked, session.run = some tracked ∧ tracked.key = event.runId ∧
    (tracked.inserted = false → tracked.original.state = .waitingForApproval) ∧
    (tracked.inserted = true → session.events = [] → event.type = .runStarted)
  next : event.sequence = session.nextSequence

structure MayDeliver (session : Session) (event : RunEvent) : Prop where
  settled : session.Settled
  last : ∃ written, session.events.getLast? = some written ∧ written.runId = event.runId ∧
    written.sequence = event.sequence ∧ written.type = event.type
  suspended : event.type = .toolApprovalRequired → session.Finished ∧
    ∃ tracked suspension, session.run = some tracked ∧
      tracked.row.state = .waitingForApproval ∧
      tracked.row.checkpoint.suspension = some suspension ∧
      suspension.sequence = event.sequence + 1

inductive MayExecute (session : Session) (executionId : Nat) (tool : Tool)
    (invocation : ToolInvocation) : Prop
  | direct (run : Tracked runTable) (execution : Tracked executionTable)
      (tracked : session.run = some run) (streams : session.streams = true)
      (member : execution ∈ session.executions) (keyed : execution.key = executionId)
      (inserted : execution.inserted = true)
      (authorised : Authorised session.request.settings run.original.userPermissions
        (storedIds run.original.checkpoint) tool)
      (read : tool ∈ session.tools)
      (projected : invocation.tool = definition tool)
      (arguments : invocation.arguments = execution.original.arguments)
      (owner : invocation.runId = run.key)
  | approved (run : Tracked runTable) (execution : Tracked executionTable)
      (tracked : session.run = some run) (streams : session.streams = true)
      (only : session.executions = [execution]) (keyed : execution.key = executionId)
      (loaded : execution.inserted = false) (decided : execution.assigned ≠ [])
      (waiting : run.inserted = false ∧ run.original.state = .waitingForApproval)
      (held : .execution executionId ∈ session.held) (begun : session.events ≠ [])
      (unexecuted : session.executed = [])
      (approves : session.request.action.approves = true)
      (read : tool ∈ session.tools)
      (named : tool.name = execution.original.toolName)
      (projected : invocation.tool = definition tool)
      (arguments : invocation.arguments = execution.original.arguments)
      (owner : invocation.runId = run.key)

structure MayInsertRun (session : Session) (draft : AgentRun) : Prop where
  streams : session.streams = true
  first : session.run = none ∧ session.executions = [] ∧ session.events = [] ∧ session.held = []
  state : draft.state = .running
  checkpoint : draft.checkpoint.suspension = none
  granted : ∀ id ∈ storedIds draft.checkpoint,
    id ∈ (session.version.map fun version => version.tools.map (·.id)).getD []

structure MayQueryPending (session : Session) (runId : Nat) : Prop where
  tracked : ∃ tracked, session.run = some tracked ∧ tracked.key = runId ∧
    tracked.inserted = false ∧
    (session.streams = true → tracked.original.state = .waitingForApproval)
  first : session.events = []
  untouched : ∀ execution ∈ session.executions,
    execution.inserted = false ∧ execution.assigned = []

structure MayInsertExecution (session : Session) (runId : Nat) : Prop where
  streams : session.streams = true
  tracked : ∃ tracked, session.run = some tracked ∧ tracked.key = runId
  begun : session.events ≠ []

def allowed (session : Session) : Op → Prop
  | .getRun _ => session.run = none → session.executions = [] ∧ session.events = []
  | .addRun draft => session.MayInsertRun draft
  | .assignRun assignment => session.MayAssignRun assignment
  | .addExecution run _ _ => session.MayInsertExecution run.id
  | .assignExecution executionId assignment => session.MayAssignExecution executionId assignment
  | .pendingForRun runId => session.MayQueryPending runId
  | .pendingOlderThan _ => session.streams = false ∧ session.run = none ∧ session.executions = []
  | .writeEvent event => session.MayWriteEvent event
  | .deliver event => session.MayDeliver event
  | .chat messages _ _ _ => session.Settled ∧
      session.events.getLast?.map (·.type) = some .llmRequest ∧
      ∃ tracked, session.run = some tracked ∧
        (tracked.inserted = false → tracked.original.state = .waitingForApproval) ∧
        (Resumable tracked.original tracked.inserted → WellFormed messages)
  | .execute executionId tool invocation => session.MayExecute executionId tool invocation
  | .getAgent _ | .getCurrentVersion _ | .readRun | .flush | .getToolByName _
  | .audit _ | .auditIndependent _ | .gather _ _ _ | .providerFactory _ | .raise _ => True

def trusted (session : Session) : (op : Op) → Reply op → Prop
  | .getRun runId, reply =>
      match session.run with
      | some tracked => tracked.key = runId ∧ reply = some tracked.row
      | none => ∀ run, reply = some run → run.id = runId
  | .addRun draft, reply => ∃ id, reply = { draft with id := id }
  | .readRun, reply => ∃ tracked, session.run = some tracked ∧ reply = tracked.row
  | .addExecution run tool arguments, reply =>
      reply.runId = run.id ∧ reply.toolName = tool.name ∧ reply.arguments = arguments ∧
        reply.approvalState = .notRequired
  | .pendingForRun runId, reply =>
      ∀ execution, reply = some execution →
        execution.runId = runId ∧ execution.approvalState = .pending
  | .getToolByName name, reply =>
      session.tools = [] → ∀ tool, reply = some tool → tool.name = name
  | .getAgent _, _ | .getCurrentVersion _, _ | .assignRun _, _ | .assignExecution _ _, _
  | .flush, _ | .pendingOlderThan _, _ | .writeEvent _, _ | .deliver _, _ | .audit _, _
  | .auditIndependent _, _ | .gather _ _ _, _ | .providerFactory _, _ | .chat _ _ _ _, _
  | .execute _ _ _, _ | .raise _, _ => True

end Session

abbrev agentProtocol : Protocol agentSignature Session :=
  ⟨Session.allowed, Session.trusted, Session.after⟩

abbrev Follows {α : Type} (program : AgentProgram α) (session : Session)
    (post : α → Session → Prop) : Prop :=
  agentProtocol.Follows program session post

end AiPlatform.Agents
