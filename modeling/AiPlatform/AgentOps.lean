import AiPlatform.AgentModel
import AiPlatform.Processes

/-!
What the agent services ask of the database, the model, the retrieval and the
executors, as operations; the session one request keeps; and the shared store.
Statements are read committed: a query sees the committed rows, a write is
flushed under a row lock or a unique key and becomes visible at the commit.
Sessions neither expire on commit nor flush before a query.

`started`, `shown`, `calls` and `prompts` are histories that no program reads:
what a run was started with, which calls a run was suspended on, which calls
reached an executor and which messages reached the model. A rollback does not
undo them.
-/

namespace AiPlatform.Agents

structure AgentSettings where
  disabledToolTypes : List ToolType
  approvalRequiredRiskLevels : List RiskLevel
  permissionCatalogue : List String
  retrieval : Bool

inductive Action
  | start (agentId : Nat) (message : String) (actor : User) (conversationId : Option String)
  | approve (runId : Nat) (approved : Bool) (actor : User) (reason : Option String)
  | cancel (runId : Nat)
  | expireOlderThan (cutoff : Nat)

structure AgentRequest where
  settings : AgentSettings
  action : Action

inductive ServiceError
  | notFound (message : String)
  | conflict (message : String)
  | validation (message : String)
  | lookup (message : String)

inductive AuditAction
  | agentExecuted | toolApprovalGranted | toolApprovalDenied | toolApprovalRequested
  | toolExecuted | toolDenied

inductive AuditResult
  | success | failure | denied

structure AuditEntry where
  action : AuditAction
  userId : Option Nat
  resourceId : Option Nat
  result : AuditResult
  metadata : Dict

inductive Op
  | getAgent (agentId : Nat)
  | getCurrentVersion (agentId : Nat)
  | getRun (runId : Nat)
  | addRun (draft : AgentRun)
  | readRun
  | assignRun (assignment : RunAssignment)
  | addExecution (run : AgentRun) (tool : Tool) (arguments : Dict)
  | assignExecution (executionId : Nat) (assignment : ExecutionAssignment)
  | flush
  | pendingForRun (runId : Nat)
  | pendingOlderThan (cutoff : Nat)
  | getToolByName (name : String)
  | writeEvent (event : AgentRunEvent)
  | deliver (event : RunEvent)
  | audit (entry : AuditEntry)
  | auditIndependent (entry : AuditEntry)
  | gather (spec : AgentSpec) (context : RunContext) (question : String)
  | providerFactory (model : String)
  | chat (messages : List ChatMessage) (model : String) (temperature : Rat) (tools : List Dict)
  | execute (executionId : Nat) (tool : Tool) (invocation : ToolInvocation)
  | raise (error : ServiceError)

def Reply : Op → Type
  | .getAgent _ => Option Agent
  | .getCurrentVersion _ => Option AgentVersion
  | .getRun _ => Option AgentRun
  | .addRun _ => AgentRun
  | .readRun => AgentRun
  | .addExecution _ _ _ => ToolExecution
  | .pendingForRun _ => Option ToolExecution
  | .pendingOlderThan _ => List ToolExecution
  | .getToolByName _ => Option Tool
  | .gather _ _ _ => Except String Found
  | .providerFactory _ => Except String String
  | .chat _ _ _ _ => Except String ChatCompletion
  | .execute _ _ _ => Except Raised ToolResult
  | .raise _ => Empty
  | .assignRun _ | .assignExecution _ _ | .flush | .writeEvent _ | .deliver _ | .audit _
  | .auditIndependent _ => Unit

abbrev agentSignature : Signature := ⟨Op, Reply⟩

abbrev AgentProgram := Program agentSignature

inductive LockKey
  | run (id : Nat)
  | execution (id : Nat)
  | event (runId sequence : Nat)
  deriving DecidableEq

/-- `{uuid.UUID(t.config["_tool_id"]) for t in spec.tools if "_tool_id" in t.config}` -/
def grantedIds (tools : List ToolDefinition) : List Nat :=
  tools.filterMap fun tool =>
    match tool.config.get "_tool_id" with
    | some (.uuid id) => some id
    | _ => none

structure Session where
  request : AgentRequest
  version : Option AgentVersion
  tools : List Tool
  run : Option (Tracked runTable)
  executions : List (Tracked executionTable)
  events : List AgentRunEvent
  audit : List AuditEntry
  /-- The keys whose locks the transaction has taken. -/
  held : List LockKey
  /-- The tool row each execution of this session was recorded for. -/
  asked : List (Nat × Tool)
  /-- The executions this session marked as pending. -/
  suspendedOn : List Nat
  /-- The executions this session handed to an executor. -/
  executed : List Nat

namespace Session

def opened (request : AgentRequest) : Session where
  request := request
  version := none
  tools := []
  run := none
  executions := []
  events := []
  audit := []
  held := []
  asked := []
  suspendedOn := []
  executed := []

def dirty (session : Session) : List LockKey :=
  (session.run.toList.filter (·.dirty)).map (fun tracked => .run tracked.key) ++
    (session.executions.filter (·.dirty)).map fun tracked => .execution tracked.key

def flushed (session : Session) (keys : List LockKey) : Session :=
  { session with held := session.held ++ (session.dirty ++ keys) }

def base (session : Session) : Nat :=
  match session.run.bind fun tracked => tracked.original.checkpoint.suspension with
  | some suspension => suspension.sequence
  | none => 1

def nextSequence (session : Session) : Nat :=
  match session.events.getLast? with
  | some event => event.sequence + 1
  | none => session.base

def marked (executionId : Nat) (pending : List Nat) : ExecutionAssignment → List Nat
  | .approval .pending => pending ++ [executionId]
  | _ => pending

def after (session : Session) : (op : Op) → Reply op → Session
  | .getCurrentVersion _, some version =>
      { session with version := some version, tools := version.tools }
  | .getRun _, some run =>
      match session.run with
      | none => { session with run := some (.load run) }
      | some _ => session
  | .addRun _, run =>
      { session.flushed [.run run.id] with run := some (.insert run) }
  | .assignRun assignment, _ =>
      { session with run := session.run.map (·.assign assignment) }
  | .addExecution _ tool _, execution =>
      { session.flushed [.execution execution.id] with
        executions := session.executions ++ [.insert execution]
        asked := session.asked ++ [(execution.id, tool)] }
  | .assignExecution executionId assignment, _ =>
      { session with
        executions := session.executions.map fun tracked =>
          if tracked.key = executionId then tracked.assign assignment else tracked
        suspendedOn := marked executionId session.suspendedOn assignment }
  | .flush, _ => session.flushed []
  -- Instances that an earlier query loaded and nobody changed are gone by then.
  | .pendingForRun _, pending => { session with executions := pending.toList.map .load }
  | .pendingOlderThan _, stale => { session with executions := stale.map .load }
  | .getToolByName _, some tool =>
      { session with
        tools := (session.tools.filter fun loaded => loaded.id ≠ tool.id) ++ [tool] }
  | .writeEvent event, _ =>
      { session.flushed [.event event.runId event.sequence] with
        events := session.events ++ [event] }
  | .audit entry, _ => { session with audit := session.audit ++ [entry] }
  | .execute executionId _ _, _ => { session with executed := session.executed ++ [executionId] }
  | .getAgent _, _ | .getCurrentVersion _, none | .getRun _, none | .readRun, _
  | .getToolByName _, none | .deliver _, _ | .auditIndependent _, _ | .gather _ _ _, _
  | .providerFactory _, _ | .chat _ _ _ _, _ | .raise _, _ => session

end Session

structure Started where
  runId : Nat
  granted : List Nat
  permissions : List String

structure Shown where
  executionId : Nat
  runId : Nat
  tool : Tool
  arguments : Dict
  settings : AgentSettings

/-- A call that reached an executor. The last three fields are what was
committed at that moment. -/
structure Call where
  process : Nat
  runId : Nat
  executionId : Nat
  direct : Bool
  settings : AgentSettings
  tool : Tool
  invocation : ToolInvocation
  server : Option McpServer
  runState : Option RunState
  approvalState : Option ApprovalState

structure Shared where
  registry : Registry
  runs : List AgentRun
  executions : List ToolExecution
  events : List AgentRunEvent
  audit : List AuditEntry
  locks : Locks LockKey
  nextId : Nat
  started : List Started
  shown : List Shown
  calls : List Call
  prompts : List (List ChatMessage)

/-- What the surroundings contribute to the reaction to an operation. -/
inductive Answer
  | nothing
  | now (time : Nat)
  | retained (kept : Bool)
  | retrieved (result : Except String Found)
  | provider (result : Except String String)
  | completion (result : Except String ChatCompletion)
  | result (result : Except Raised ToolResult)

namespace Shared

def run (shared : Shared) (runId : Nat) : Option AgentRun :=
  shared.runs.find? fun run => run.id = runId

def execution (shared : Shared) (executionId : Nat) : Option ToolExecution :=
  shared.executions.find? fun execution => execution.id = executionId

def eventsOf (shared : Shared) (runId : Nat) : List AgentRunEvent :=
  shared.events.filter fun event => event.runId = runId

def pendingOf (shared : Shared) (runId : Nat) : List ToolExecution :=
  shared.executions.filter fun execution =>
    execution.runId = runId && execution.approvalState = .pending

/-- Whether process `i` may flush its session and write the further keys. -/
def admits (shared : Shared) (i : Nat) (session : Session) (keys : List LockKey) : Bool :=
  (session.dirty ++ keys).all (shared.locks.free i)

def flush (shared : Shared) (i : Nat) (session : Session) (keys : List LockKey) : Shared :=
  { shared with locks := shared.locks.acquire i (session.dirty ++ keys) }

/-- The unique constraint on `(run_id, sequence)`. -/
def numbered (events : List AgentRunEvent) (event : AgentRunEvent) : Bool :=
  events.any fun other => other.runId = event.runId && other.sequence = event.sequence

/-- `ORDER BY requested_at LIMIT 1` -/
def earliest : List ToolExecution → Option ToolExecution
  | [] => none
  | execution :: rest =>
      match earliest rest with
      | some other =>
          if execution.requestedAt ≤ other.requestedAt then some execution else some other
      | none => some execution

def shownAfter (shared : Shared) (session : Session) (executionId : Nat) :
    ExecutionAssignment → List Shown
  | .approval .pending =>
      match session.asked.find? fun pair => pair.1 = executionId,
          session.executions.find? fun tracked => tracked.key = executionId with
      | some (_, tool), some tracked =>
          shared.shown ++ [{
            executionId := executionId
            runId := tracked.original.runId
            tool := tool
            arguments := tracked.original.arguments
            settings := session.request.settings }]
      | _, _ => shared.shown
  | _ => shared.shown

def call (shared : Shared) (i : Nat) (session : Session) (executionId : Nat) (tool : Tool)
    (invocation : ToolInvocation) : Call where
  process := i
  runId := invocation.runId
  executionId := executionId
  direct := session.executions.any fun tracked => tracked.key = executionId && tracked.inserted
  settings := session.request.settings
  tool := tool
  invocation := invocation
  server := shared.registry.server tool
  runState := (shared.run invocation.runId).map (·.state)
  approvalState := (shared.execution executionId).map (·.approvalState)

/-- The reply to an operation of process `i` and the shared store after it.
`none` means that the operation cannot be done now: a lock is held by another
transaction, a unique key is taken, or the code raises. -/
def react (i : Nat) (session : Session) (shared : Shared) :
    (op : Op) → Answer → Option (Reply op × Shared)
  | .getAgent agentId, _ => some (shared.registry.getAgent agentId, shared)
  | .getCurrentVersion agentId, _ => some (shared.registry.getCurrent agentId, shared)
  | .getRun runId, _ =>
      match session.run with
      | some tracked => if tracked.key = runId then some (some tracked.row, shared) else none
      | none => some (shared.run runId, shared)
  | .addRun draft, _ =>
      if shared.admits i session [.run shared.nextId] then
        some ({ draft with id := shared.nextId },
          { shared.flush i session [.run shared.nextId] with
            nextId := shared.nextId + 1
            started := shared.started ++ [{
              runId := shared.nextId
              granted := (session.version.map fun version => version.tools.map (·.id)).getD []
              permissions := draft.userPermissions }] })
      else none
  | .readRun, _ => session.run.map fun tracked => (tracked.row, shared)
  | .addExecution run tool arguments, .now time =>
      if shared.admits i session [.execution shared.nextId] then
        some ({
            id := shared.nextId
            runId := run.id
            toolId := some tool.id
            toolName := tool.name
            arguments := arguments
            riskLevel := tool.riskLevel
            approvalState := .notRequired
            requestedAt := time
            approverId := none
            decisionReason := none
            success := none
            result := none
            error := none
            truncated := false },
          { shared.flush i session [.execution shared.nextId] with nextId := shared.nextId + 1 })
      else none
  | .assignRun _, _ => some ((), shared)
  | .assignExecution executionId assignment, _ =>
      some ((), { shared with shown := shared.shownAfter session executionId assignment })
  | .flush, _ =>
      if shared.admits i session [] then some ((), shared.flush i session []) else none
  | .pendingForRun runId, _ => some (earliest (shared.pendingOf runId), shared)
  | .pendingOlderThan cutoff, _ =>
      some (shared.executions.filter fun execution =>
        execution.approvalState = .pending && execution.requestedAt < cutoff, shared)
  -- A row already in the identity map is returned as it was loaded, if it is still alive.
  | .getToolByName name, .retained kept =>
      match shared.registry.getByName name with
      | none => some (none, shared)
      | some tool =>
          match session.tools.find? fun loaded => loaded.id = tool.id with
          | some loaded => some (some (if kept then loaded else tool), shared)
          | none => some (some tool, shared)
  | .writeEvent event, _ =>
      if shared.admits i session [.event event.runId event.sequence] &&
          !numbered (shared.events ++ session.events) event then
        some ((), shared.flush i session [.event event.runId event.sequence])
      else none
  | .deliver _, _ => some ((), shared)
  | .audit _, _ => some ((), shared)
  | .auditIndependent entry, _ => some ((), { shared with audit := shared.audit ++ [entry] })
  | .gather _ _ _, .retrieved result => some (result, shared)
  | .providerFactory _, .provider result => some (result, shared)
  | .chat messages _ _ _, .completion result =>
      some (result, { shared with prompts := shared.prompts ++ [messages] })
  | .execute executionId tool invocation, .result result =>
      some (result, { shared with
        calls := shared.calls ++ [shared.call i session executionId tool invocation] })
  | _, _ => none

def commit (i : Nat) (session : Session) (shared : Shared) : Option Shared :=
  if shared.admits i session [] then
    some { shared with
      runs := Tracked.store session.run.toList shared.runs
      executions := Tracked.store session.executions shared.executions
      events := shared.events ++ session.events
      audit := shared.audit ++ session.audit
      locks := shared.locks.release i }
  else none

def release (i : Nat) (shared : Shared) : Shared :=
  { shared with locks := shared.locks.release i }

/-- Registry operations may do anything to the registry. The foreign key of the
executions is set to null when the tool they refer to is deleted. -/
def edit (change : Registry → Registry) (shared : Shared) : Shared :=
  { shared with
    registry := change shared.registry
    executions := shared.executions.map fun execution =>
      { execution with
        toolId := execution.toolId.filter fun id =>
          (change shared.registry).tools.any fun tool => tool.id = id } }

def empty (registry : Registry) : Shared where
  registry := registry
  runs := []
  executions := []
  events := []
  audit := []
  locks := fun _ => none
  nextId := 0
  started := []
  shown := []
  calls := []
  prompts := []

end Shared

end AiPlatform.Agents
