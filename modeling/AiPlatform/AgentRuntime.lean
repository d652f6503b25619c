import AiPlatform.ToolPipeline

/-!
`app/services/agent_runtime.py` and `app/services/agent_runs.py`: the loop of
`_run` with its nested retrieval, suspension and resumption through the
checkpoint, and the services around it. The runtime's generator and
`_persisting` are composed: an event that is yielded is first written and
flushed and then delivered to the consumer of the stream, who may abandon it
there. A `while` loop on `iteration < max_iterations` is a recursion on the
iterations that are left.
-/

namespace AiPlatform.Agents

def redactedKeys : List String := ["_credentials_encrypted", "credentials", "password", "token"]

mutual

/-- `_redact` -/
def scrub : Json → Json
  | .obj fields => .obj (redact fields)
  | .arr items => .arr (scrubItems items)
  | .null => .null
  | .bool value => .bool value
  | .num value => .num value
  | .str value => .str value
  | .uuid id => .uuid id

def redact : List (String × Json) → List (String × Json)
  | [] => []
  | (key, value) :: rest =>
      (key, if key ∈ redactedKeys then .str "[redacted]" else scrub value) :: redact rest

def scrubItems : List Json → List Json
  | [] => []
  | item :: rest => scrub item :: scrubItems rest

end

def openaiToolSpec (tool : ToolDefinition) : Dict :=
  [("type", .str "function"),
    ("function", .obj [("name", .str tool.name), ("description", .str tool.description),
      ("parameters", .obj
        (if tool.parametersSchema.isEmpty then
          [("type", .str "object"), ("properties", .obj []), ("required", .arr [])]
        else tool.parametersSchema))])]

def chatMessage (entry : Entry) : ChatMessage where
  role := entry.role
  content := entry.content
  name := entry.name
  toolCallId := entry.toolCallId
  toolCalls := entry.toolCalls

def toChatMessages (systemPrompt : String) (conversation : List Entry) : List ChatMessage :=
  { role := .system, content := systemPrompt, name := none, toolCallId := none, toolCalls := [] } ::
    conversation.map chatMessage

/-- `call.get("id", "")` -/
def callId (call : ToolCall) : String := call.id.getD ""

/-- `call.get("function", {}).get("name", "")` -/
def callName (call : ToolCall) : String := call.name.getD ""

def toolMessage (call : ToolCall) (content : String) : Entry where
  role := .tool
  content := content
  name := some (callName call)
  toolCallId := some (callId call)
  toolCalls := []

def plainMessage (role : Role) (content : String) : Entry where
  role := role
  content := content
  name := none
  toolCallId := none
  toolCalls := []

def assistantMessage (completion : ChatCompletion) : Entry where
  role := .assistant
  content := completion.content.getD ""
  name := none
  toolCallId := none
  toolCalls := completion.toolCalls

def parseArguments : RawArguments → Dict
  | .dict fields => fields
  | .missing => []
  | .text raw parsed =>
      if truthy raw then
        match parsed with
        | some (.obj fields) => fields
        | _ => []
      else []

def specToJson (spec : AgentSpec) : StoredSpec where
  agentId := spec.agentId
  version := spec.version
  name := spec.name
  model := spec.model
  systemPrompt := spec.systemPrompt
  maxIterations := spec.maxIterations
  temperature := spec.temperature
  tools := spec.tools

/-- `_spec_from_checkpoint`. The knowledge bases and the memory switch are not
stored, and a stored tool comes back enabled. -/
def specFromCheckpoint (checkpoint : Checkpoint) : AgentSpec :=
  match checkpoint.spec with
  | some stored => {
      agentId := stored.agentId
      version := stored.version
      name := stored.name
      model := stored.model
      systemPrompt := stored.systemPrompt
      tools := stored.tools.map fun tool => { tool with enabled := true }
      knowledgeBaseIds := []
      memoryEnabled := false
      maxIterations := stored.maxIterations
      temperature := stored.temperature }
  | none => {
      agentId := none
      version := 1
      name := "agent"
      model := ""
      systemPrompt := ""
      tools := []
      knowledgeBaseIds := []
      memoryEnabled := false
      maxIterations := 25
      temperature := 1 / 5 }

def question (conversation : List Entry) : String :=
  match conversation.reverse.find? fun entry => entry.role = .user with
  | some entry => entry.content
  | none => ""

/-- A `yield` of the runtime passing through `_persisting`. -/
def emit (event : RunEvent) : AgentProgram Unit := do
  .perform (.writeEvent {
    runId := event.runId
    sequence := event.sequence
    type := event.type
    payload := redact event.payload }) .done
  .perform (.deliver event) .done

def requireRun (runId : Nat) : AgentProgram AgentRun := do
  match ← getRun runId with
  | some run => return run
  | none => raise (.lookup s!"No run with id {runId}.")

def suspend (conversation : List Entry) (pendingCall : ToolCall) (iteration sequence : Nat) :
    AgentProgram Unit := do
  let run ← readRun
  assignRun (.suspended {
    spec := run.checkpoint.spec
    suspension := some {
      conversation := conversation
      pendingCall := pendingCall
      iteration := iteration
      sequence := sequence } })

/-- `if condition: yield event; sequence += 1`, with the number of events. -/
def emitIf (condition : Bool) (event : RunEvent) : AgentProgram Nat := do
  if condition then
    emit event
    return 1
  else
    return 0

/-- `_retrieve`, with the number of events it yielded. -/
def retrieve (spec : AgentSpec) (context : RunContext) (conversation : List Entry)
    (sequence : Nat) : AgentProgram (List Entry × Nat) := do
  if strip (question conversation) = "" then
    return (conversation, 0)
  else
    match ← gather spec context (question conversation) with
    | .error _ => return (conversation, 0)
    | .ok found =>
        let searched ← emitIf (!found.searchedBases.isEmpty) {
          runId := context.runId
          type := .ragSearch
          sequence := sequence
          payload := [("query", .str (clip (question conversation) 200)),
            ("knowledge_bases", .arr found.searchedBases), ("hits", num found.hits),
            ("citations", .arr found.citations),
            ("top_score", match found.topScore with
              | some score => .num score
              | none => .null)] }
        let recalled ← emitIf (found.memories ≠ 0) {
          runId := context.runId
          type := .memoryRead
          sequence := sequence + searched
          payload := [("recalled", num found.memories), ("kinds", .arr found.memoryKinds)] }
        return (if truthy found.contextBlock then
            plainMessage .system found.contextBlock :: conversation
          else conversation, searched + recalled)

/-- The loop over the tool calls of one assistant message. `none` means that
the run was suspended. -/
def handleCalls (settings : AgentSettings) (run : AgentRun) (granted : List Nat)
    (iteration : Nat) :
    List ToolCall → List Entry → Nat → AgentProgram (Option (List Entry × Nat))
  | [], conversation, sequence => return some (conversation, sequence)
  | call :: rest, conversation, sequence => do
      emit {
        runId := run.id
        type := .toolRequested
        sequence := sequence
        payload := [("tool", .str (callName call)),
          ("arguments", .obj (parseArguments call.arguments))] }
      match ← getByName (callName call) with
      | none =>
          handleCalls settings run granted iteration rest
            (conversation ++ [toolMessage call s!"There is no tool named '{callName call}'."])
            (sequence + 1)
      | some tool =>
          match ← invoke settings run tool (parseArguments call.arguments) granted with
          | .denial _ denial =>
              emit {
                runId := run.id
                type := .toolRejected
                sequence := sequence + 1
                payload := [("tool", .str (callName call)), ("reason", .str denial.reason)] }
              handleCalls settings run granted iteration rest
                (conversation ++ [toolMessage call denial.reason]) (sequence + 2)
          | .pending executionId _ =>
              suspend conversation call iteration (sequence + 2)
              emit {
                runId := run.id
                type := .toolApprovalRequired
                sequence := sequence + 1
                payload := [("tool", .str (callName call)),
                  ("arguments", .obj (parseArguments call.arguments)),
                  ("risk_level", .str tool.riskLevel.text),
                  ("execution_id", .uuid executionId)] }
              return none
          | .result _ result =>
              emit {
                runId := run.id
                type := .toolExecuted
                sequence := sequence + 1
                payload := [("tool", .str (callName call)), ("success", .bool result.success),
                  ("truncated", .bool result.truncated)] }
              handleCalls settings run granted iteration rest
                (conversation ++ [toolMessage call result.content]) (sequence + 2)

/-- The `while` loop of `_run`. -/
def iterate (settings : AgentSettings) (spec : AgentSpec) (run : AgentRun)
    (servedModel : String) : Nat → List Entry → Nat → Nat → AgentProgram Unit
  | 0, _, _, sequence => do
      emit {
        runId := run.id
        type := .runFailed
        sequence := sequence
        payload := [("error", .str s!"Stopped after {spec.maxIterations} iterations.")] }
      assignRun (.failed s!"Exceeded max_iterations ({spec.maxIterations}).")
  | left + 1, conversation, iteration, sequence => do
      assignRun (.iterations (iteration + 1))
      emit {
        runId := run.id
        type := .llmRequest
        sequence := sequence
        payload := [("iteration", num (iteration + 1)), ("messages", num conversation.length)] }
      match ← chat (toChatMessages spec.systemPrompt conversation) servedModel spec.temperature
          (spec.tools.map openaiToolSpec) with
      | .error reason =>
          emit {
            runId := run.id
            type := .runFailed
            sequence := sequence + 1
            payload := [("error", .str s!"The model could not be reached: {reason}")] }
          assignRun (.failed reason)
      | .ok completion =>
          let row ← readRun
          assignRun (.tokens (row.promptTokens + completion.promptTokens)
            (row.completionTokens + completion.completionTokens))
          emit {
            runId := run.id
            type := .llmResponse
            sequence := sequence + 1
            payload := [("iteration", num (iteration + 1)), ("content", text completion.content),
              ("tool_calls", .arr (completion.toolCalls.map fun call => text call.name)),
              ("prompt_tokens", num completion.promptTokens),
              ("completion_tokens", num completion.completionTokens)] }
          if completion.toolCalls.isEmpty then
            emit {
              runId := run.id
              type := .runCompleted
              sequence := sequence + 2
              payload := [("output", text completion.content),
                ("iterations", num (iteration + 1))] }
            assignRun (.completed (completion.content.getD ""))
          else
            match ← handleCalls settings run (grantedIds spec.tools) (iteration + 1)
                completion.toolCalls (conversation ++ [assistantMessage completion])
                (sequence + 2) with
            | none => return ()
            | some (conversation, sequence) =>
                iterate settings spec run servedModel left conversation (iteration + 1) sequence

/-- `_run` from the point where the provider is looked up. -/
def converse (settings : AgentSettings) (spec : AgentSpec) (run : AgentRun)
    (conversation : List Entry) (iteration sequence : Nat) : AgentProgram Unit := do
  match ← providerFactory spec.model with
  | .error reason =>
      emit {
        runId := run.id
        type := .runFailed
        sequence := sequence
        payload := [("error",
          .str s!"The agent's model '{spec.model}' is unavailable: {reason}")] }
      assignRun (.failed s!"Model unavailable: {reason}")
  | .ok servedModel =>
      iterate settings spec run servedModel (spec.maxIterations - iteration) conversation iteration
        sequence

/-- `_run` -/
def runLoop (settings : AgentSettings) (spec : AgentSpec) (context : RunContext)
    (conversation : List Entry) (startingSequence startingIteration : Nat) :
    AgentProgram Unit := do
  let run ← requireRun context.runId
  if startingSequence = 1 then
    emit {
      runId := context.runId
      type := .runStarted
      sequence := startingSequence
      payload := [("agent", .str spec.name), ("version", num spec.version),
        ("model", .str spec.model)] }
    if settings.retrieval then
      let (conversation, yielded) ← retrieve spec context conversation (startingSequence + 1)
      converse settings spec run conversation startingIteration (startingSequence + 1 + yielded)
    else
      converse settings spec run conversation startingIteration (startingSequence + 1)
  else
    converse settings spec run conversation startingIteration startingSequence

/-- `_resume` after the decision was taken: the spec comes from the checkpoint. -/
def proceed (settings : AgentSettings) (run : AgentRun) (conversation : List Entry)
    (sequence iteration : Nat) : AgentProgram Unit := do
  let context := {
    runId := run.id
    userId := run.userId
    conversationId := none
    userPermissions := run.userPermissions }
  assignRun (.state .running)
  runLoop settings (specFromCheckpoint run.checkpoint) context conversation sequence iteration

/-- The default of `checkpoint.get("pending_call") or {}`. -/
def noCall : ToolCall := ⟨none, none, .missing⟩

def announce (pending : ToolExecution) (decision : ExecutionAssignment) (event : RunEvent) :
    AgentProgram Unit := do
  assignExecution pending.id decision
  emit event

def resume (settings : AgentSettings) (runId : Nat) (approved : Bool) (approverId : Nat)
    (reason : Option String) : AgentProgram Unit := do
  let run ← requireRun runId
  let checkpoint := run.checkpoint
  let sequence := (checkpoint.suspension.map (·.sequence)).getD 1
  let conversation := (checkpoint.suspension.map (·.conversation)).getD []
  let call := (checkpoint.suspension.map (·.pendingCall)).getD noCall
  let iteration := (checkpoint.suspension.map (·.iteration)).getD 0
  match ← pendingForRun run.id with
  | none =>
      emit {
        runId := runId
        type := .runFailed
        sequence := sequence
        payload := [("error", .str "This run is not waiting for an approval.")] }
  | some pending =>
      if checkpoint.isEmpty then
        emit {
          runId := runId
          type := .runFailed
          sequence := sequence
          payload := [("error", .str "This run is not waiting for an approval.")] }
      else if approved = false then
        announce pending (.decided approverId reason .rejected) {
          runId := runId
          type := .toolRejected
          sequence := sequence
          payload := [("tool", .str pending.toolName),
            ("reason", .str ((reason.filter truthy).getD "Refused by approver."))] }
        proceed settings run
          (conversation ++ [toolMessage call
            (s!"A human refused permission to run '{pending.toolName}'." ++
              (match reason.filter truthy with
              | some reason => s!" Reason: {reason}"
              | none => ""))])
          (sequence + 1) iteration
      else
        announce pending (.decided approverId reason .approved) {
          runId := runId
          type := .toolApproved
          sequence := sequence
          payload := [("tool", .str pending.toolName), ("approver", .uuid approverId)] }
        match ← getByName pending.toolName with
        | none =>
            proceed settings run
              (conversation ++ [toolMessage call s!"'{pending.toolName}' no longer exists."])
              (sequence + 1) iteration
        | some tool =>
            let result ← executeApproved pending tool run
            emit {
              runId := runId
              type := .toolExecuted
              sequence := sequence + 1
              payload := [("tool", .str pending.toolName), ("success", .bool result.success)] }
            proceed settings run (conversation ++ [toolMessage call result.content])
              (sequence + 2) iteration

def permissionsOf (settings : AgentSettings) (user : User) : List String :=
  if user.isSuperuser then settings.permissionCatalogue else user.effectivePermissions

/-- `sorted(set)` -/
def sorted (permissions : List String) : List String :=
  permissions.dedup.insertionSort (· ≤ ·)

/-- The `AgentRun` that `start` creates. Its id is assigned by the flush. -/
def newRun (settings : AgentSettings) (agent : Agent) (version : AgentVersion) (message : String)
    (actor : User) (conversationId : Option String) : AgentRun where
  id := 0
  agentId := agent.id
  agentVersionId := version.id
  userId := some actor.id
  conversationId := conversationId
  state := .running
  input := message
  output := none
  error := none
  iterations := 0
  promptTokens := 0
  completionTokens := 0
  checkpoint := ⟨some (specToJson (buildSpec agent version)), none⟩
  userPermissions := sorted (permissionsOf settings actor)

def start (settings : AgentSettings) (agentId : Nat) (message : String) (actor : User)
    (conversationId : Option String) : AgentProgram Unit := do
  match ← getAgent agentId with
  | none => raise (.notFound s!"No agent with id {agentId}.")
  | some agent =>
      if agent.enabled = false then
        raise (.conflict s!"The agent '{agent.slug}' is disabled.")
      else
        match ← getCurrentVersion agent.id with
        | none => raise (.notFound s!"Agent '{agent.slug}' has no current version.")
        | some version =>
            let run ← addRun (newRun settings agent version message actor conversationId)
            record {
              action := .agentExecuted
              userId := some actor.id
              resourceId := some agent.id
              result := .success
              metadata := [("run_id", .uuid run.id), ("slug", .str agent.slug),
                ("version", num version.version), ("model", .str version.model)] }
            runLoop settings (buildSpec agent version) {
                runId := run.id
                userId := some actor.id
                conversationId := conversationId
                userPermissions := run.userPermissions }
              [plainMessage .user message] 1 0

def approve (settings : AgentSettings) (runId : Nat) (approved : Bool) (actor : User)
    (reason : Option String) : AgentProgram Unit := do
  match ← getRun runId with
  | none => raise (.notFound s!"No run with id {runId}.")
  | some run =>
      if run.state ≠ .waitingForApproval then
        raise (.conflict s!"Run {runId} is {run.state.text}, not waiting for an approval.")
      else
        match ← pendingForRun run.id with
        | none => raise (.conflict "This run has no pending tool call.")
        | some pending =>
            if run.userId = some actor.id && !actor.isSuperuser then
              raise (.validation ("You cannot approve a tool call from a run you started. " ++
                "Approval must come from someone else."))
            else
              record {
                action := if approved then .toolApprovalGranted else .toolApprovalDenied
                userId := some actor.id
                resourceId := pending.toolId
                result := if approved then .success else .denied
                metadata := [("run_id", .uuid run.id), ("tool", .str pending.toolName),
                  ("risk_level", .str pending.riskLevel.text), ("reason", text reason)] }
              resume settings run.id approved actor.id reason

def cancel (runId : Nat) : AgentProgram Unit := do
  match ← getRun runId with
  | none => raise (.notFound s!"No run with id {runId}.")
  | some run =>
      if run.isTerminal then
        return ()
      else
        assignRun (.state .cancelled)
        match ← pendingForRun run.id with
        | none => return ()
        | some pending =>
            assignExecution pending.id
              (.expired "The run was cancelled before a decision was made.")

def expireAll : List ToolExecution → AgentProgram Unit
  | [] => return ()
  | execution :: rest => do
      assignExecution execution.id (.expired "No approver responded within the timeout.")
      expireAll rest

def expireOlderThan (cutoff : Nat) : AgentProgram Unit := do
  expireAll (← pendingOlderThan cutoff)

def program (request : AgentRequest) : AgentProgram Unit :=
  match request.action with
  | .start agentId message actor conversationId =>
      start request.settings agentId message actor conversationId
  | .approve runId approved actor reason => approve request.settings runId approved actor reason
  | .cancel runId => cancel runId
  | .expireOlderThan cutoff => expireOlderThan cutoff

/-- The requests of the agent subsystem over one database. A process can be
abandoned where its consumer or an exception that is not a provider error can
end the stream and still let the session commit. Everywhere else an exception
is caught by the code, or it leaves the transaction unable to commit. -/
abbrev agentMachine : Machine agentSignature where
  Request := AgentRequest
  Session := Session
  Shared := Shared
  Answer := Answer
  Change := Registry → Registry
  program := program
  opened := Session.opened
  after := Session.after
  react := Shared.react
  awaits
    | .deliver _ => true
    | .chat _ _ _ _ => true
    | _ => false
  commit := Shared.commit
  release := Shared.release
  change := Shared.edit

end AiPlatform.Agents
