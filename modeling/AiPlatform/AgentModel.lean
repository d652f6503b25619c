import AiPlatform.UnitOfWork
import Mathlib.Algebra.Group.Int.Defs
import Mathlib.Algebra.GroupWithZero.Nat
import Mathlib.Data.Rat.Defs
import Mathlib.Data.List.Sort

/-!
The rows and interface types of the agent subsystem: `app/models/agents.py`,
`app/core/interfaces/{agent,tools,llm}.py`. A UUID is a natural number, and
`str(id)` inside a JSON value is `Json.uuid id`. Columns that only hold a time
or a duration, and columns no modelled function reads, are left out.
-/

namespace AiPlatform.Agents

inductive Json
  | null
  | bool (value : Bool)
  | num (value : Rat)
  | str (value : String)
  | uuid (id : Nat)
  | arr (items : List Json)
  | obj (fields : List (String × Json))

abbrev Dict := List (String × Json)

namespace Dict

def get (dict : Dict) (key : String) : Option Json := dict.lookup key

/-- `dict[key] = value`: a new key goes to the end, an old one keeps its place. -/
def set (dict : Dict) (key : String) (value : Json) : Dict :=
  match dict with
  | [] => [(key, value)]
  | (other, old) :: rest =>
      if other = key then (key, value) :: rest else (other, old) :: set rest key value

@[simp] theorem get_set_same (dict : Dict) (key : String) (value : Json) :
    (dict.set key value).get key = some value := by
  induction dict with
  | nil => simp [set, get]
  | cons field rest ih =>
      obtain ⟨other, old⟩ := field
      by_cases same : other = key
      · simp [set, get, same]
      · have different : (key == other) = false := by simpa using Ne.symm same
        simpa [set, get, same, List.lookup_cons, different] using ih

theorem get_set_other (dict : Dict) {key other : String} (value : Json) (different : other ≠ key) :
    (dict.set key value).get other = dict.get other := by
  have skip : (other == key) = false := by simpa using different
  induction dict with
  | nil => simp [set, get, List.lookup_cons, skip]
  | cons field rest ih =>
      obtain ⟨first, old⟩ := field
      by_cases same : first = key
      · subst same
        simp [set, get, List.lookup_cons, skip]
      · by_cases hit : other = first
        · subst hit
          simp [set, get, same]
        · have miss : (other == first) = false := by simpa using hit
          simpa [set, get, same, List.lookup_cons, miss] using ih

theorem set_get (dict : Dict) {key : String} {value : Json} (found : dict.get key = some value) :
    dict.set key value = dict := by
  induction dict with
  | nil => cases found
  | cons field rest ih =>
      obtain ⟨other, old⟩ := field
      by_cases same : other = key
      · simp only [get, same, List.lookup_cons, beq_self_eq_true, Option.some.injEq] at found
        simp [set, same, found]
      · have miss : (key == other) = false := by simpa using Ne.symm same
        simp only [get, List.lookup_cons, miss] at found
        simp only [set, same, if_false]
        rw [ih found]

end Dict

def truthy (text : String) : Bool := text ≠ ""

def isSpace (c : Char) : Bool :=
  let code := c.toNat
  (9 ≤ code && code ≤ 13) || (28 ≤ code && code ≤ 32) || code == 133 || code == 160 ||
    code == 5760 || (8192 ≤ code && code ≤ 8202) || code == 8232 || code == 8233 ||
    code == 8239 || code == 8287 || code == 12288

/-- `str.strip()`. -/
def strip (text : String) : String :=
  String.ofList ((text.toList.dropWhile isSpace).reverse.dropWhile isSpace).reverse

/-- `text[:n]`. -/
def clip (text : String) (n : Nat) : String := String.ofList (text.toList.take n)

inductive ToolType
  | mcp | rest | openapi | internal | database | python | command
  deriving DecidableEq

inductive RiskLevel
  | low | medium | high | critical
  deriving DecidableEq

def ToolType.text : ToolType → String
  | .mcp => "MCP"
  | .rest => "REST"
  | .openapi => "OPENAPI"
  | .internal => "INTERNAL"
  | .database => "DATABASE"
  | .python => "PYTHON"
  | .command => "COMMAND"

def RiskLevel.text : RiskLevel → String
  | .low => "LOW"
  | .medium => "MEDIUM"
  | .high => "HIGH"
  | .critical => "CRITICAL"

structure McpServer where
  id : Nat
  name : String
  endpoint : String
  credentialsEncrypted : Option String
  enabled : Bool

structure Tool where
  id : Nat
  name : String
  description : String
  type : ToolType
  parametersSchema : Dict
  requiredPermission : String
  riskLevel : RiskLevel
  endpoint : Option String
  config : Dict
  credentialsEncrypted : Option String
  enabled : Bool
  timeoutSeconds : Nat
  mcpServerId : Option Nat

structure ToolDefinition where
  name : String
  description : String
  type : ToolType
  parametersSchema : Dict
  requiredPermission : String
  riskLevel : RiskLevel
  endpoint : Option String
  enabled : Bool
  config : Dict

structure ToolInvocation where
  tool : ToolDefinition
  arguments : Dict
  runId : Nat
  agentId : Nat
  userId : Option Nat
  timeoutSeconds : Nat

structure ToolResult where
  success : Bool
  content : String
  error : Option String
  truncated : Bool

/-- An exception raised by an executor: `type(exc).__name__` and `str(exc)`. -/
structure Raised where
  kind : String
  message : String

structure Skill where
  id : Nat
  displayName : String
  description : String
  instructions : String
  enabled : Bool

structure Agent where
  id : Nat
  slug : String
  displayName : String
  description : Option String
  enabled : Bool
  currentVersion : Nat

structure AgentVersionRow where
  id : Nat
  agentId : Nat
  version : Nat
  systemPrompt : String
  model : String
  temperature : Rat
  maxIterations : Nat
  knowledgeBaseIds : List String
  memoryEnabled : Bool
  toolIds : List Nat
  skillIds : List Nat

/-- The revision with its tools and skills eagerly loaded. -/
structure AgentVersion where
  id : Nat
  agentId : Nat
  version : Nat
  systemPrompt : String
  model : String
  temperature : Rat
  maxIterations : Nat
  knowledgeBaseIds : List String
  memoryEnabled : Bool
  tools : List Tool
  skills : List Skill

structure Registry where
  tools : List Tool
  servers : List McpServer
  skills : List Skill
  agents : List Agent
  versions : List AgentVersionRow

namespace Registry

def getByName (registry : Registry) (name : String) : Option Tool :=
  registry.tools.find? fun tool => tool.name = name

def server (registry : Registry) (tool : Tool) : Option McpServer :=
  tool.mcpServerId.bind fun id => registry.servers.find? fun server => server.id = id

def getAgent (registry : Registry) (agentId : Nat) : Option Agent :=
  registry.agents.find? fun agent => agent.id = agentId

/-- `AgentVersionRepository.get_current`. The association rows of a deleted tool
are deleted with it, so a missing id is a tool that is no longer granted. -/
def getCurrent (registry : Registry) (agentId : Nat) : Option AgentVersion := do
  let agent ← registry.getAgent agentId
  let row ← registry.versions.find? fun row =>
    row.agentId = agentId && row.version = agent.currentVersion
  return {
    id := row.id
    agentId := row.agentId
    version := row.version
    systemPrompt := row.systemPrompt
    model := row.model
    temperature := row.temperature
    maxIterations := row.maxIterations
    knowledgeBaseIds := row.knowledgeBaseIds
    memoryEnabled := row.memoryEnabled
    tools := row.toolIds.filterMap fun id => registry.tools.find? fun tool => tool.id = id
    skills := row.skillIds.filterMap fun id => registry.skills.find? fun skill => skill.id = id }

theorem getByName_name {registry : Registry} {name : String} {tool : Tool}
    (found : registry.getByName name = some tool) : tool.name = name := by
  simpa using List.find?_some found

end Registry

structure AgentSpec where
  agentId : Option Nat
  version : Nat
  name : String
  model : String
  systemPrompt : String
  tools : List ToolDefinition
  knowledgeBaseIds : List String
  memoryEnabled : Bool
  maxIterations : Nat
  temperature : Rat

structure RunContext where
  runId : Nat
  userId : Option Nat
  conversationId : Option String
  userPermissions : List String

structure User where
  id : Nat
  username : String
  isSuperuser : Bool
  effectivePermissions : List String

inductive Role
  | system | user | assistant | tool
  deriving DecidableEq

/-- The arguments of a tool call as the model sent them. A text comes with what
`json.loads` makes of it, `none` where that raises. -/
inductive RawArguments
  | missing
  | dict (fields : Dict)
  | text (raw : String) (parsed : Option Json)

structure ToolCall where
  id : Option String
  name : Option String
  arguments : RawArguments

structure Entry where
  role : Role
  content : String
  name : Option String
  toolCallId : Option String
  toolCalls : List ToolCall

structure ChatMessage where
  role : Role
  content : String
  name : Option String
  toolCallId : Option String
  toolCalls : List ToolCall

structure ChatCompletion where
  content : Option String
  toolCalls : List ToolCall
  promptTokens : Nat
  completionTokens : Nat

/-- What `retrieval.gather` returns. The top score is given as it is rounded. -/
structure Found where
  searchedBases : List Json
  hits : Nat
  citations : List Json
  topScore : Option Rat
  memories : Nat
  memoryKinds : List Json
  contextBlock : String

inductive RunState
  | created | running | waitingForApproval | completed | failed | cancelled
  deriving DecidableEq

def RunState.text : RunState → String
  | .created => "CREATED"
  | .running => "RUNNING"
  | .waitingForApproval => "WAITING_FOR_APPROVAL"
  | .completed => "COMPLETED"
  | .failed => "FAILED"
  | .cancelled => "CANCELLED"

/-- `TERMINAL_RUN_STATES` -/
def RunState.isTerminal : RunState → Bool
  | .completed | .failed | .cancelled => true
  | .created | .running | .waitingForApproval => false

inductive ApprovalState
  | notRequired | pending | approved | rejected | expired
  deriving DecidableEq

inductive RunEventType
  | runStarted | llmRequest | llmResponse | toolRequested | toolApprovalRequired
  | toolApproved | toolRejected | toolExecuted | ragSearch | memoryRead | memoryWrite
  | runCompleted | runFailed
  deriving DecidableEq

structure RunEvent where
  runId : Nat
  type : RunEventType
  sequence : Nat
  payload : Dict

structure AgentRunEvent where
  runId : Nat
  sequence : Nat
  type : RunEventType
  payload : Dict

/-- What `_spec_to_json` keeps of a spec. -/
structure StoredSpec where
  agentId : Option Nat
  version : Nat
  name : String
  model : String
  systemPrompt : String
  maxIterations : Nat
  temperature : Rat
  tools : List ToolDefinition

/-- The keys that `_suspend` adds to the checkpoint. -/
structure Suspension where
  conversation : List Entry
  pendingCall : ToolCall
  iteration : Nat
  sequence : Nat

structure Checkpoint where
  spec : Option StoredSpec
  suspension : Option Suspension

def Checkpoint.empty : Checkpoint := ⟨none, none⟩

def Checkpoint.isEmpty (checkpoint : Checkpoint) : Bool :=
  checkpoint.spec.isNone && checkpoint.suspension.isNone

structure AgentRun where
  id : Nat
  agentId : Nat
  agentVersionId : Nat
  userId : Option Nat
  conversationId : Option String
  state : RunState
  input : String
  output : Option String
  error : Option String
  iterations : Nat
  promptTokens : Nat
  completionTokens : Nat
  checkpoint : Checkpoint
  userPermissions : List String

def AgentRun.isTerminal (run : AgentRun) : Bool := run.state.isTerminal

structure ToolExecution where
  id : Nat
  runId : Nat
  toolId : Option Nat
  toolName : String
  arguments : Dict
  riskLevel : RiskLevel
  approvalState : ApprovalState
  requestedAt : Nat
  approverId : Option Nat
  decisionReason : Option String
  success : Option Bool
  result : Option String
  error : Option String
  truncated : Bool

/-- The assignments the services make to an `AgentRun` instance. -/
inductive RunAssignment
  | state (state : RunState)
  | iterations (iterations : Nat)
  | tokens (promptTokens completionTokens : Nat)
  | suspended (checkpoint : Checkpoint)
  | completed (output : String)
  | failed (error : String)

def RunAssignment.apply : RunAssignment → AgentRun → AgentRun
  | .state value, run => { run with state := value }
  | .iterations count, run => { run with iterations := count }
  | .tokens prompt completion, run =>
      { run with promptTokens := prompt, completionTokens := completion }
  | .suspended saved, run => { run with state := .waitingForApproval, checkpoint := saved }
  | .completed text, run =>
      { run with state := .completed, output := some text, checkpoint := .empty }
  | .failed text, run => { run with state := .failed, error := some text }

/-- The assignments the services make to a `ToolExecution` instance. -/
inductive ExecutionAssignment
  | approval (state : ApprovalState)
  | decided (approverId : Nat) (reason : Option String) (state : ApprovalState)
  | expired (reason : String)
  | denied (error reason : String)
  | finished (success : Bool) (result error : Option String) (truncated : Bool)

def ExecutionAssignment.apply : ExecutionAssignment → ToolExecution → ToolExecution
  | .approval value, execution => { execution with approvalState := value }
  | .decided approver text value, execution =>
      { execution with
        approverId := some approver, decisionReason := text, approvalState := value }
  | .expired text, execution =>
      { execution with approvalState := .expired, decisionReason := some text }
  | .denied detail text, execution =>
      { execution with
        approvalState := .rejected, success := some false, error := some detail
        decisionReason := some text }
  | .finished ok content detail cut, execution =>
      { execution with success := some ok, result := content, error := detail, truncated := cut }

abbrev runTable : Table where
  Row := AgentRun
  Assignment := RunAssignment
  key := AgentRun.id
  apply := RunAssignment.apply
  key_apply assignment run := by cases assignment <;> rfl

abbrev executionTable : Table where
  Row := ToolExecution
  Assignment := ExecutionAssignment
  key := ToolExecution.id
  apply := ExecutionAssignment.apply
  key_apply assignment execution := by cases assignment <;> rfl

/-! No assignment touches who a run belongs to, what it was started with or
what a tool call was asked for. -/

@[simp] theorem apply_userPermissions (assignment : RunAssignment) (run : AgentRun) :
    (assignment.apply run).userPermissions = run.userPermissions := by
  cases assignment <;> rfl

@[simp] theorem apply_runId (assignment : ExecutionAssignment) (execution : ToolExecution) :
    (assignment.apply execution).runId = execution.runId := by
  cases assignment <;> rfl

@[simp] theorem apply_arguments (assignment : ExecutionAssignment) (execution : ToolExecution) :
    (assignment.apply execution).arguments = execution.arguments := by
  cases assignment <;> rfl

@[simp] theorem apply_toolName (assignment : ExecutionAssignment) (execution : ToolExecution) :
    (assignment.apply execution).toolName = execution.toolName := by
  cases assignment <;> rfl

end AiPlatform.Agents
