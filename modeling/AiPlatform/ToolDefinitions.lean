import AiPlatform.AgentModel

/-!
The projections of a tool row to a `ToolDefinition`: `_definition` of
`tool_pipeline.py`, `_with_credentials` and `build_spec` of
`agent_registry.py`, and the two `_auth_headers` of `tool_executors.py` that
read the credential back out of `config`. The cipher and Python's `str` of a
JSON value are parameters.
-/

namespace AiPlatform.Agents

def credentialKey : String := "_credentials_encrypted"

def toolIdKey : String := "_tool_id"

def definition (tool : Tool) : ToolDefinition where
  name := tool.name
  description := tool.description
  type := tool.type
  parametersSchema := tool.parametersSchema
  requiredPermission := tool.requiredPermission
  riskLevel := tool.riskLevel
  endpoint := tool.endpoint
  enabled := tool.enabled
  config := tool.config

/-- `if credentials: config["_credentials_encrypted"] = credentials` -/
def setCredential (credentials : Option String) (config : Dict) : Dict :=
  match credentials with
  | some text => if truthy text then config.set credentialKey (.str text) else config
  | none => config

def withCredentials (tool : Tool) : ToolDefinition :=
  { definition tool with config := setCredential tool.credentialsEncrypted tool.config }

/-- The definition `build_spec` makes of a granted tool. -/
def specDefinition (tool : Tool) : ToolDefinition :=
  { definition tool with
    config := setCredential tool.credentialsEncrypted (tool.config.set toolIdKey (.uuid tool.id)) }

def composePrompt (version : AgentVersion) : String :=
  "\n".intercalate (strip version.systemPrompt ::
    (version.skills.filter (·.enabled)).map fun skill =>
      s!"\n## Skill: {skill.displayName}\n{strip skill.description}\n\n{strip skill.instructions}")

def buildSpec (agent : Agent) (version : AgentVersion) : AgentSpec where
  agentId := some agent.id
  version := version.version
  name := agent.displayName
  model := version.model
  systemPrompt := composePrompt version
  tools := (version.tools.filter (·.enabled)).map specDefinition
  knowledgeBaseIds := version.knowledgeBaseIds
  memoryEnabled := version.memoryEnabled
  maxIterations := version.maxIterations
  temperature := version.temperature

def Json.truthy : Json → Bool
  | .null => false
  | .bool value => value
  | .num value => value ≠ 0
  | .str text => Agents.truthy text
  | .uuid _ => true
  | .arr items => !items.isEmpty
  | .obj fields => !fields.isEmpty

def carriedCredential (tool : ToolDefinition) : Option Json :=
  (tool.config.get credentialKey).filter Json.truthy

section Headers

variable (str : Json → String) (decrypt : String → Option String)

/-- `RestToolExecutor._auth_headers` -/
def restAuthHeaders (tool : ToolDefinition) : List (String × String) :=
  match carriedCredential tool with
  | none => []
  | some encrypted =>
      match decrypt (str encrypted) with
      | none => []
      | some secret =>
          let scheme := str ((tool.config.get "auth_scheme").getD (.str "Bearer"))
          let header := str ((tool.config.get "auth_header").getD (.str "Authorization"))
          [(header, strip (scheme ++ " " ++ secret))]

/-- `McpToolExecutor._auth_headers` -/
def mcpAuthHeaders (tool : ToolDefinition) : List (String × String) :=
  match carriedCredential tool with
  | none => []
  | some encrypted =>
      match decrypt (str encrypted) with
      | none => []
      | some secret => [("Authorization", "Bearer " ++ secret)]

theorem rest_authenticated (tool : ToolDefinition)
    (decrypts : ∀ encrypted, carriedCredential tool = some encrypted →
      (decrypt (str encrypted)).isSome = true) :
    restAuthHeaders str decrypt tool ≠ [] ↔ (carriedCredential tool).isSome = true := by
  unfold restAuthHeaders
  cases carried : carriedCredential tool with
  | none => simp
  | some encrypted =>
      obtain ⟨secret, same⟩ := Option.isSome_iff_exists.mp (decrypts encrypted carried)
      simp [same]

theorem mcp_authenticated (tool : ToolDefinition)
    (decrypts : ∀ encrypted, carriedCredential tool = some encrypted →
      (decrypt (str encrypted)).isSome = true) :
    mcpAuthHeaders str decrypt tool ≠ [] ↔ (carriedCredential tool).isSome = true := by
  unfold mcpAuthHeaders
  cases carried : carriedCredential tool with
  | none => simp
  | some encrypted =>
      obtain ⟨secret, same⟩ := Option.isSome_iff_exists.mp (decrypts encrypted carried)
      simp [same]

end Headers

theorem setCredential_other (credentials : Option String) (config : Dict) {key : String}
    (different : key ≠ credentialKey) :
    (setCredential credentials config).get key = config.get key := by
  unfold setCredential
  split
  · split
    · exact Dict.get_set_other config _ different
    · rfl
  · rfl

theorem setCredential_same (credentials : Option String) (config : Dict) :
    (setCredential credentials config).get credentialKey =
      match credentials with
      | some text => if truthy text then some (.str text) else config.get credentialKey
      | none => config.get credentialKey := by
  unfold setCredential
  split
  · split
    · exact Dict.get_set_same config _ _
    · rfl
  · rfl

theorem specDefinition_toolId (tool : Tool) :
    (specDefinition tool).config.get toolIdKey = some (.uuid tool.id) := by
  have different : toolIdKey ≠ credentialKey := by decide
  simp only [specDefinition]
  rw [setCredential_other _ _ different, Dict.get_set_same]

def storedCredential (tool : Tool) (server : Option McpServer) : Option String :=
  (tool.credentialsEncrypted.filter truthy).or
    ((server.bind (·.credentialsEncrypted)).filter truthy)

theorem setCredential_congr (credentials : Option String) {left right : Dict} {key : String}
    (same : left.get key = right.get key) :
    (setCredential credentials left).get key = (setCredential credentials right).get key := by
  by_cases private' : key = credentialKey
  · subst private'
    rw [setCredential_same, setCredential_same, same]
  · rw [setCredential_other _ _ private', setCredential_other _ _ private', same]

theorem setCredential_eq (credentials : Option String) (config : Dict) :
    setCredential credentials config =
      match credentials.filter truthy with
      | some text => config.set credentialKey (.str text)
      | none => config := by
  cases credentials with
  | none => rfl
  | some text => by_cases full : truthy text = true <;> simp [setCredential, Option.filter, full]

end AiPlatform.Agents
