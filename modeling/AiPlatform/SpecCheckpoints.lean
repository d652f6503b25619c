import AiPlatform.AgentRuntime

/-!
The checkpoint of a run as the JSON column holds it: `_spec_to_json` of
`app/services/agent_runs.py`, `_suspend` and `_spec_from_checkpoint` of
`app/services/agent_runtime.py`, with their keys, defaults and conversions.
`AgentRuntime` has the same checkpoint as a record. The column returns what was
stored in it, but for the order of keys, in which Python sees no difference.
-/

namespace AiPlatform.Agents

/-- `ToolType(value)`, which raises for any other text. -/
def ToolType.ofText (text : String) : Option ToolType :=
  [.mcp, .rest, .openapi, .internal, .database, .python, .command].find? fun type =>
    type.text = text

/-- `RiskLevel(value)` -/
def RiskLevel.ofText (text : String) : Option RiskLevel :=
  [.low, .medium, .high, .critical].find? fun level => level.text = text

theorem ToolType.ofText_text (type : ToolType) : ofText type.text = some type := by
  cases type <;> decide

theorem RiskLevel.ofText_text (level : RiskLevel) : ofText level.text = some level := by
  cases level <;> decide

namespace Json

def asText : Json → Option String
  | .str text => some text
  | _ => none

def asEndpoint : Json → Option (Option String)
  | .null => some none
  | .str text => some (some text)
  | _ => none

/-- `str(agent.id)`, or the empty text that stands for none. -/
def asAgent : Json → Option (Option Nat)
  | .uuid id => some (some id)
  | .str "" => some none
  | _ => none

def asDict : Json → Option Dict
  | .obj fields => some fields
  | _ => none

def asItems : Json → Option (List Json)
  | .arr items => some items
  | _ => none

/-- `int(value)` of the numbers that are stored, none of which is negative. -/
def asInt : Json → Option Nat
  | .num value => some value.floor.toNat
  | _ => none

/-- `float(value)` -/
def asFloat : Json → Option Rat
  | .num value => some value
  | _ => none

end Json

/-- `dict.get(key, default)` -/
def Dict.getOr (dict : Dict) (key : String) (default : Json) : Json := (dict.get key).getD default

/-- A tool in `_spec_to_json`. -/
def toolToJson (tool : ToolDefinition) : Json :=
  .obj [("name", .str tool.name), ("description", .str tool.description),
    ("type", .str tool.type.text), ("parameters_schema", .obj tool.parametersSchema),
    ("required_permission", .str tool.requiredPermission),
    ("risk_level", .str tool.riskLevel.text),
    ("endpoint", match tool.endpoint with
      | some endpoint => .str endpoint
      | none => .null),
    ("config", .obj tool.config)]

/-- `_spec_to_json` -/
def specToDict (spec : AgentSpec) : Dict :=
  [("agent_id", match spec.agentId with
      | some id => .uuid id
      | none => .str ""),
    ("version", num spec.version), ("name", .str spec.name), ("model", .str spec.model),
    ("system_prompt", .str spec.systemPrompt), ("max_iterations", num spec.maxIterations),
    ("temperature", .num spec.temperature), ("tools", .arr (spec.tools.map toolToJson))]

/-- The checkpoint that `start` stores. -/
def startCheckpoint (spec : AgentSpec) : Dict := [("spec", .obj (specToDict spec))]

/-- What `_suspend` stores beside the spec. -/
structure Pause where
  conversation : Json
  pendingCall : Json
  iteration : Json
  sequence : Json

/-- `_suspend` -/
def pausedCheckpoint (checkpoint : Dict) (pause : Pause) : Dict :=
  [("conversation", pause.conversation), ("pending_call", pause.pendingCall),
    ("iteration", pause.iteration), ("sequence", pause.sequence),
    ("spec", checkpoint.getOr "spec" (.obj []))]

/-- A tool in `_spec_from_checkpoint`; `none` where reading it raises. -/
def toolFromJson (value : Json) : Option ToolDefinition := do
  let t ← value.asDict
  return {
    name := ← (← t.get "name").asText
    description := ← (t.getOr "description" (.str "")).asText
    type := ← ToolType.ofText (← (t.getOr "type" (.str "REST")).asText)
    parametersSchema := ← (t.getOr "parameters_schema" (.obj [])).asDict
    requiredPermission := ← (t.getOr "required_permission" (.str "")).asText
    riskLevel := ← RiskLevel.ofText (← (t.getOr "risk_level" (.str "LOW")).asText)
    endpoint := ← (t.getOr "endpoint" .null).asEndpoint
    enabled := true
    config := ← (t.getOr "config" (.obj [])).asDict }

/-- `_spec_from_checkpoint`. The fields it does not name have their defaults. -/
def rebuiltSpec (checkpoint : Dict) : Option AgentSpec := do
  let stored ← (checkpoint.getOr "spec" (.obj [])).asDict
  return {
    agentId := ← (stored.getOr "agent_id" (.str "")).asAgent
    version := ← (stored.getOr "version" (num 1)).asInt
    name := ← (stored.getOr "name" (.str "agent")).asText
    model := ← (stored.getOr "model" (.str "")).asText
    systemPrompt := ← (stored.getOr "system_prompt" (.str "")).asText
    tools := ← (← (stored.getOr "tools" (.arr [])).asItems).mapM toolFromJson
    knowledgeBaseIds := []
    memoryEnabled := false
    maxIterations := ← (stored.getOr "max_iterations" (num 25)).asInt
    temperature := ← (stored.getOr "temperature" (.num (1 / 5))).asFloat }

theorem asInt_num (n : Nat) : (num n).asInt = some n := by
  have whole : ((n : Int) : Rat).floor = n := Rat.floor_intCast n
  rw [Rat.intCast_natCast] at whole
  simp [num, Json.asInt, whole]

theorem toolFromJson_toolToJson (tool : ToolDefinition) :
    toolFromJson (toolToJson tool) = some { tool with enabled := true } := by
  obtain ⟨name, description, type, schema, permission, level, endpoint, enabled, config⟩ := tool
  cases endpoint with
  | none =>
      simp [toolFromJson, toolToJson, Dict.getOr, Dict.get, List.lookup_cons, Json.asDict,
        Json.asText, Json.asEndpoint, ToolType.ofText_text, RiskLevel.ofText_text]
  | some endpoint =>
      simp [toolFromJson, toolToJson, Dict.getOr, Dict.get, List.lookup_cons, Json.asDict,
        Json.asText, Json.asEndpoint, ToolType.ofText_text, RiskLevel.ofText_text]

theorem mapM_toolFromJson (tools : List ToolDefinition) :
    (tools.map toolToJson).mapM toolFromJson =
      some (tools.map fun tool => { tool with enabled := true }) := by
  induction tools with
  | nil => rfl
  | cons tool rest ih => simp [toolFromJson_toolToJson, ih]

theorem rebuiltSpec_start (spec : AgentSpec) :
    rebuiltSpec (startCheckpoint spec) = some (specFromCheckpoint ⟨some (specToJson spec), none⟩) := by
  obtain ⟨agentId, version, name, model, prompt, tools, bases, memory, iterations, temperature⟩ := spec
  have read := mapM_toolFromJson tools
  cases agentId with
  | none =>
      simp [rebuiltSpec, startCheckpoint, specToDict, Dict.getOr, Dict.get, List.lookup_cons,
        Json.asDict, Json.asText, Json.asAgent, Json.asItems, Json.asFloat, asInt_num, read,
        specFromCheckpoint, specToJson]
  | some id =>
      simp [rebuiltSpec, startCheckpoint, specToDict, Dict.getOr, Dict.get, List.lookup_cons,
        Json.asDict, Json.asText, Json.asAgent, Json.asItems, Json.asFloat, asInt_num, read,
        specFromCheckpoint, specToJson]

theorem rebuiltSpec_paused (checkpoint : Dict) (pause : Pause) :
    rebuiltSpec (pausedCheckpoint checkpoint pause) = rebuiltSpec checkpoint := by
  have kept : (pausedCheckpoint checkpoint pause).getOr "spec" (.obj []) =
      checkpoint.getOr "spec" (.obj []) := rfl
  simp only [rebuiltSpec, kept]

theorem rebuiltSpec_pauses (pauses : List Pause) (checkpoint : Dict) :
    rebuiltSpec (pauses.foldl pausedCheckpoint checkpoint) = rebuiltSpec checkpoint := by
  induction pauses generalizing checkpoint with
  | nil => rfl
  | cons pause rest ih => exact (ih _).trans (rebuiltSpec_paused checkpoint pause)

theorem specDefinition_enabled {tool : Tool} (enabled : tool.enabled = true) :
    { specDefinition tool with enabled := true } = specDefinition tool := by
  simp [specDefinition, definition, enabled]

theorem specFromCheckpoint_buildSpec (agent : Agent) (version : AgentVersion) :
    specFromCheckpoint ⟨some (specToJson (buildSpec agent version)), none⟩ =
      { buildSpec agent version with knowledgeBaseIds := [], memoryEnabled := false } := by
  have tools : ((version.tools.filter (·.enabled)).map specDefinition).map
      (fun tool => { tool with enabled := true }) =
        (version.tools.filter (·.enabled)).map specDefinition := by
    rw [List.map_map]
    apply List.map_congr_left
    intro tool member
    exact specDefinition_enabled (List.mem_filter.mp member).2
  simp only [specFromCheckpoint, specToJson, buildSpec, tools]

/-- After any number of suspensions the spec that is rebuilt is the one that the run
started on if and only if that names no knowledge base and remembers nothing. -/
theorem rebuilt_spec_is_started_iff (agent : Agent) (version : AgentVersion) (pauses : List Pause) :
    rebuiltSpec (pauses.foldl pausedCheckpoint (startCheckpoint (buildSpec agent version))) =
        some (buildSpec agent version) ↔
      version.knowledgeBaseIds = [] ∧ version.memoryEnabled = false := by
  rw [rebuiltSpec_pauses, rebuiltSpec_start, specFromCheckpoint_buildSpec, Option.some.injEq]
  constructor
  · intro same
    exact ⟨(congrArg AgentSpec.knowledgeBaseIds same).symm,
      (congrArg AgentSpec.memoryEnabled same).symm⟩
  · rintro ⟨bases, memory⟩
    simp [buildSpec, bases, memory]

def handbookAgent : Agent where
  id := 1
  slug := "helper"
  displayName := "Helper"
  description := none
  enabled := true
  currentVersion := 1

def handbookVersion : AgentVersion where
  id := 2
  agentId := 1
  version := 1
  systemPrompt := "Answer."
  model := "fast"
  temperature := 1 / 5
  maxIterations := 5
  knowledgeBaseIds := ["handbook"]
  memoryEnabled := true
  tools := []
  skills := []

theorem handbook_is_not_rebuilt :
    (rebuiltSpec (startCheckpoint (buildSpec handbookAgent handbookVersion))).map
        (fun spec => (spec.knowledgeBaseIds, spec.memoryEnabled)) = some ([], false) ∧
      (buildSpec handbookAgent handbookVersion).knowledgeBaseIds = ["handbook"] ∧
      (buildSpec handbookAgent handbookVersion).memoryEnabled = true ∧
      rebuiltSpec (startCheckpoint (buildSpec handbookAgent handbookVersion)) ≠
        some (buildSpec handbookAgent handbookVersion) := by
  rw [rebuiltSpec_start, specFromCheckpoint_buildSpec]
  refine ⟨rfl, rfl, rfl, ?_⟩
  intro same
  have memory := congrArg (Option.map AgentSpec.memoryEnabled) same
  cases memory

end AiPlatform.Agents
