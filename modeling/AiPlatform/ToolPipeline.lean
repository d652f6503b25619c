import AiPlatform.AgentOps
import AiPlatform.ToolDefinitions

/-!
`app/services/tool_pipeline.py`: permission check, risk check, approval check,
execution, audit. The operations get the names of the methods they stand for.
Metrics and log lines are left out.
-/

namespace AiPlatform.Agents

def getAgent (agentId : Nat) : AgentProgram (Option Agent) := .perform (.getAgent agentId) .done

def getCurrentVersion (agentId : Nat) : AgentProgram (Option AgentVersion) :=
  .perform (.getCurrentVersion agentId) .done

def getRun (runId : Nat) : AgentProgram (Option AgentRun) := .perform (.getRun runId) .done

def addRun (draft : AgentRun) : AgentProgram AgentRun := .perform (.addRun draft) .done

def readRun : AgentProgram AgentRun := .perform .readRun .done

def assignRun (assignment : RunAssignment) : AgentProgram Unit :=
  .perform (.assignRun assignment) .done

def addExecution (run : AgentRun) (tool : Tool) (arguments : Dict) : AgentProgram ToolExecution :=
  .perform (.addExecution run tool arguments) .done

def assignExecution (executionId : Nat) (assignment : ExecutionAssignment) : AgentProgram Unit :=
  .perform (.assignExecution executionId assignment) .done

def flush : AgentProgram Unit := .perform .flush .done

def pendingForRun (runId : Nat) : AgentProgram (Option ToolExecution) :=
  .perform (.pendingForRun runId) .done

def pendingOlderThan (cutoff : Nat) : AgentProgram (List ToolExecution) :=
  .perform (.pendingOlderThan cutoff) .done

def getByName (name : String) : AgentProgram (Option Tool) := .perform (.getToolByName name) .done

def record (entry : AuditEntry) : AgentProgram Unit := .perform (.audit entry) .done

def recordIndependent (entry : AuditEntry) : AgentProgram Unit :=
  .perform (.auditIndependent entry) .done

def gather (spec : AgentSpec) (context : RunContext) (question : String) :
    AgentProgram (Except String Found) :=
  .perform (.gather spec context question) .done

def providerFactory (model : String) : AgentProgram (Except String String) :=
  .perform (.providerFactory model) .done

/-- `provider.chat`, where `.error` is a `ProviderError`. -/
def chat (messages : List ChatMessage) (model : String) (temperature : Rat) (tools : List Dict) :
    AgentProgram (Except String ChatCompletion) :=
  .perform (.chat messages model temperature tools) .done

def execute (executionId : Nat) (tool : Tool) (invocation : ToolInvocation) :
    AgentProgram (Except Raised ToolResult) :=
  .perform (.execute executionId tool invocation) .done

def raise {α : Type} (error : ServiceError) : AgentProgram α :=
  .perform (.raise error) fun nothing => nomatch nothing

def num (n : Nat) : Json := .num n

def text (content : Option String) : Json :=
  match content with
  | some content => .str content
  | none => .null

/-- `MAX_RESULT_CHARS` -/
def maxResultChars : Nat := 8000

structure Denial where
  reason : String
  auditDetail : String

inductive PipelineOutcome
  | result (executionId : Nat) (result : ToolResult)
  | denial (executionId : Nat) (denial : Denial)
  | pending (executionId : Nat) (execution : ToolExecution)

/-- The keys of the table `build_executors` returns. -/
def buildExecutors : List ToolType := [.rest, .mcp, .internal, .database, .openapi]

def authorise (settings : AgentSettings) (run : AgentRun) (tool : Tool) (granted : List Nat) :
    Option Denial :=
  if tool.enabled = false then
    some { reason := s!"The tool '{tool.name}' is disabled.", auditDetail := "tool_disabled" }
  else if tool.type ∈ settings.disabledToolTypes then
    some {
      reason := s!"Tools of type {tool.type.text} are disabled on this platform and cannot " ++
        "be executed."
      auditDetail := "tool_type_disabled" }
  else if tool.id ∉ granted then
    some {
      reason := s!"This agent has not been granted the tool '{tool.name}'."
      auditDetail := "not_granted_to_agent" }
  else if tool.requiredPermission ∉ run.userPermissions then
    some {
      reason := s!"You do not have permission to use '{tool.name}'. It requires " ++
        s!"'{tool.requiredPermission}'."
      auditDetail := "user_lacks_permission" }
  else none

def needsApproval (settings : AgentSettings) (tool : Tool) : Bool :=
  tool.riskLevel ∈ settings.approvalRequiredRiskLevels

def truncate (result : ToolResult) : ToolResult :=
  if result.content.length ≤ maxResultChars then result
  else { result with
    content := clip result.content maxResultChars ++ "\n… [truncated]", truncated := true }

def finish (execution : ToolExecution) (run : AgentRun) (tool : Tool) (result : ToolResult) :
    AgentProgram Unit := do
  assignExecution execution.id (.finished result.success
    (if truthy result.content then some (clip result.content maxResultChars) else none)
    result.error result.truncated)
  flush
  record {
    action := .toolExecuted
    userId := run.userId
    resourceId := some tool.id
    result := if result.success then .success else .failure
    metadata := [("run_id", .uuid run.id), ("tool", .str tool.name),
      ("risk_level", .str tool.riskLevel.text)] }

def raisedResult (tool : Tool) (raised : Raised) : ToolResult where
  success := false
  content := s!"The tool '{tool.name}' failed: {raised.kind}."
  error := some (clip raised.message 500)
  truncated := false

def invocationOf (execution : ToolExecution) (tool : Tool) (run : AgentRun) : ToolInvocation where
  tool := definition tool
  arguments := execution.arguments
  runId := run.id
  agentId := run.agentId
  userId := run.userId
  timeoutSeconds := tool.timeoutSeconds

def executeApproved (execution : ToolExecution) (tool : Tool) (run : AgentRun) :
    AgentProgram ToolResult := do
  if tool.type ∈ buildExecutors then
    let reply ← execute execution.id tool (invocationOf execution tool run)
    let result := truncate (match reply with
      | .ok result => result
      | .error raised => raisedResult tool raised)
    finish execution run tool result
    return result
  else
    let result := {
      success := false
      content := s!"No executor is available for tool type {tool.type.text}."
      error := some "no_executor"
      truncated := false }
    finish execution run tool result
    return result

def deny (execution : ToolExecution) (run : AgentRun) (tool : Tool) (denial : Denial) :
    AgentProgram PipelineOutcome := do
  assignExecution execution.id (.denied denial.auditDetail denial.reason)
  flush
  recordIndependent {
    action := .toolDenied
    userId := run.userId
    resourceId := some tool.id
    result := .denied
    metadata := [("run_id", .uuid run.id), ("tool", .str tool.name),
      ("reason", .str denial.auditDetail)] }
  return .denial execution.id denial

def invoke (settings : AgentSettings) (run : AgentRun) (tool : Tool) (arguments : Dict)
    (granted : List Nat) : AgentProgram PipelineOutcome := do
  let execution ← addExecution run tool arguments
  match authorise settings run tool granted with
  | some denial => deny execution run tool denial
  | none =>
      if needsApproval settings tool then
        assignExecution execution.id (.approval .pending)
        flush
        record {
          action := .toolApprovalRequested
          userId := run.userId
          resourceId := some tool.id
          result := .success
          metadata := [("run_id", .uuid run.id), ("tool", .str tool.name),
            ("risk_level", .str tool.riskLevel.text)] }
        return .pending execution.id execution
      else
        assignExecution execution.id (.approval .notRequired)
        let result ← executeApproved execution tool run
        return .result execution.id result

/-- The conjunction `_authorise` checks. -/
structure Authorised (settings : AgentSettings) (permissions : List String) (granted : List Nat)
    (tool : Tool) : Prop where
  enabled : tool.enabled = true
  typed : tool.type ∉ settings.disabledToolTypes
  granted : tool.id ∈ granted
  permitted : tool.requiredPermission ∈ permissions

theorem authorise_none_iff (settings : AgentSettings) (run : AgentRun) (tool : Tool)
    (granted : List Nat) :
    authorise settings run tool granted = none ↔
      Authorised settings run.userPermissions granted tool := by
  unfold authorise
  constructor
  · intro passed
    split at passed
    · cases passed
    · split at passed
      · cases passed
      · split at passed
        · cases passed
        · split at passed
          · cases passed
          · rename_i enabled typed member permitted
            exact ⟨by simpa using enabled, typed, by simpa using member, by simpa using permitted⟩
  · intro authorised
    rw [if_neg (by simp [authorised.enabled]), if_neg authorised.typed,
      if_neg (by simp [authorised.granted]), if_neg (by simp [authorised.permitted])]

end AiPlatform.Agents
