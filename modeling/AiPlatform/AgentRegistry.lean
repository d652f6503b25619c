import AiPlatform.RegistryModel

/-!
The tool, skill and agent registries of `app/services/agent_registry.py`. A
call returns the state it leaves, also where it fails: a request that fails is
rolled back, but the importer of definitions goes on with it. Audit records are
left out.
-/

namespace AiPlatform.Registries

open Agents (Json Dict ToolType RiskLevel McpServer Skill Agent AgentVersionRow truthy strip)

abbrev Attempt (Result : Type) := Except (Failure × Catalogue) (Result × Catalogue)

structure ToolArguments where
  name : String
  displayName : String
  description : String
  toolType : String
  parametersSchema : Dict
  requiredPermission : String
  riskLevel : String
  endpoint : Option String
  config : Dict
  credentials : Option String
  timeoutSeconds : Nat
  /-- What is stored as it comes is text. -/
  typed : Bool

/-- The columns of `tools` take the values. -/
def ToolArguments.fits (arguments : ToolArguments) : Bool :=
  arguments.typed && within 128 arguments.name && within 255 arguments.displayName &&
    within 64 arguments.requiredPermission && arguments.endpoint.all (within 512) &&
    decide (arguments.timeoutSeconds < 2 ^ 31)

structure ToolChanges where
  displayName : Option String
  description : Option String
  requiredPermission : Option String
  riskLevel : Option String
  endpoint : Option String
  config : Option Dict
  enabled : Option Bool
  timeoutSeconds : Option Nat
  credentials : Option String

/-- `value is not None` decides, and a value that is not true is not encrypted. -/
def credential (platform : Platform) (credentials : Option String) : Option String :=
  (credentials.filter truthy).map platform.encrypt

def registerTool (platform : Platform) (catalogue : Catalogue) (arguments : ToolArguments) :
    Attempt ToolRow :=
  if (catalogue.toolByName arguments.name).isSome then
    .error (.app (conflictError s!"A tool named '{arguments.name}' already exists." []), catalogue)
  else
    match ToolType.ofText arguments.toolType, RiskLevel.ofText arguments.riskLevel with
    | none, _ =>
        .error (.app (validationError s!"Unknown tool type '{arguments.toolType}'."
          [("allowed", "COMMAND,DATABASE,INTERNAL,MCP,OPENAPI,PYTHON,REST")]), catalogue)
    | some _, none => .error (.integrity "risk_level_valid", catalogue)
    | some type, some riskLevel =>
        if !arguments.fits then .error (.integrity "tools", catalogue)
        else
          let tool : ToolRow :=
            { id := catalogue.nextId, name := arguments.name, displayName := arguments.displayName
              description := arguments.description, type := type
              parametersSchema := .obj arguments.parametersSchema
              requiredPermission := arguments.requiredPermission, riskLevel := riskLevel
              endpoint := arguments.endpoint, config := arguments.config
              credentialsEncrypted := credential platform arguments.credentials
              enabled := true, timeoutSeconds := arguments.timeoutSeconds, mcpServerId := none }
          .ok (tool, { catalogue with
            tools := catalogue.tools ++ [tool], nextId := catalogue.nextId + 1 })

def getTool (catalogue : Catalogue) (toolId : Nat) : Except Failure ToolRow :=
  match catalogue.toolById toolId with
  | some tool => .ok tool
  | none => .error (.app (notFoundError s!"No tool with id {toolId}."))

/-- The assignments of `update_tool`; type and schema are not among them. -/
def ToolChanges.apply (platform : Platform) (changes : ToolChanges) (riskLevel : RiskLevel)
    (tool : ToolRow) : ToolRow :=
  { tool with
    displayName := changes.displayName.getD tool.displayName
    description := changes.description.getD tool.description
    requiredPermission := changes.requiredPermission.getD tool.requiredPermission
    riskLevel := riskLevel
    endpoint := changes.endpoint.or tool.endpoint
    config := changes.config.getD tool.config
    enabled := changes.enabled.getD tool.enabled
    timeoutSeconds := changes.timeoutSeconds.getD tool.timeoutSeconds
    credentialsEncrypted :=
      (credential platform changes.credentials).or tool.credentialsEncrypted }

def updateTool (platform : Platform) (catalogue : Catalogue) (toolId : Nat)
    (changes : ToolChanges) : Attempt ToolRow :=
  match getTool catalogue toolId with
  | .error failure => .error (failure, catalogue)
  | .ok tool =>
      match RiskLevel.ofText (changes.riskLevel.getD tool.riskLevel.text) with
      | none => .error (.integrity "risk_level_valid", catalogue)
      | some riskLevel =>
          .ok (changes.apply platform riskLevel tool, { catalogue with
            tools := catalogue.tools.map fun other =>
              if other.id = toolId then changes.apply platform riskLevel other else other })

def deleteTool (catalogue : Catalogue) (toolId : Nat) : Attempt Unit :=
  match getTool catalogue toolId with
  | .error failure => .error (failure, catalogue)
  | .ok _ => .ok ((), catalogue.dropTools fun tool => tool.id = toolId)

structure SkillArguments where
  name : String
  displayName : String
  description : String
  instructions : String
  version : String
  requiredTools : List String
  requiredKnowledge : List String
  parameters : Dict
  requiredPermission : Option String
  /-- What is stored as it comes is text. -/
  typed : Bool

/-- The columns of `skills` take the values. -/
def SkillArguments.fits (arguments : SkillArguments) : Bool :=
  arguments.typed && within 128 arguments.name && within 255 arguments.displayName &&
    within 32 arguments.version && arguments.requiredPermission.all (within 64)

def createSkill (catalogue : Catalogue) (arguments : SkillArguments) : Attempt SkillRow :=
  if (catalogue.skillByName arguments.name).isSome then
    .error (.app (conflictError s!"A skill named '{arguments.name}' already exists." []), catalogue)
  else if !arguments.fits then .error (.integrity "skills", catalogue)
  else
    let skill : SkillRow :=
      { id := catalogue.nextId, name := arguments.name, displayName := arguments.displayName
        description := arguments.description, instructions := arguments.instructions
        version := arguments.version, requiredTools := arguments.requiredTools
        requiredKnowledge := arguments.requiredKnowledge, parameters := arguments.parameters
        requiredPermission := arguments.requiredPermission, enabled := true }
    .ok (skill, { catalogue with
      skills := catalogue.skills ++ [skill], nextId := catalogue.nextId + 1 })

def deleteSkill (catalogue : Catalogue) (skillId : Nat) : Attempt Unit :=
  match catalogue.skillById skillId with
  | none => .error (.app (notFoundError s!"No skill with id {skillId}."), catalogue)
  | some _ => .ok ((), catalogue.dropSkill skillId)

structure VersionArguments where
  systemPrompt : String
  model : String
  temperature : Rat
  maxIterations : Int
  toolIds : List Nat
  skillIds : List Nat
  knowledgeBaseIds : List String
  memoryEnabled : Bool

structure AgentArguments extends VersionArguments where
  slug : String
  displayName : String
  description : Option String
  /-- The description is text, or there is none. -/
  typed : Bool

/-- The fields of a partial update; an omitted one inherits. -/
structure VersionChanges where
  systemPrompt : Option String
  model : Option String
  temperature : Option Rat
  maxIterations : Option Int
  toolIds : Option (List Nat)
  skillIds : Option (List Nat)
  knowledgeBaseIds : Option (List String)
  memoryEnabled : Option Bool

def isSlugLetter (c : Char) : Bool := ('a' ≤ c && c ≤ 'z') || ('0' ≤ c && c ≤ '9')

/-- `SLUG_PATTERN.match(slug)`. A final newline is allowed by `$`. -/
def slugMatches (slug : String) : Bool :=
  let letters := slug.toList
  let body := if letters.getLast? = some '\n' then letters.dropLast else letters
  3 ≤ body.length && body.length ≤ 64 && body.all (fun c => isSlugLetter c || c = '-') &&
    body.head?.any isSlugLetter && body.getLast?.any isSlugLetter

/-- `_create_version`: every referenced tool and skill must exist now. -/
def createVersionRow (platform : Platform) (catalogue : Catalogue) (agentId version : Nat)
    (arguments : VersionArguments) : Except Failure (AgentVersionRow × Catalogue) :=
  match arguments.toolIds.find? fun id => (catalogue.toolById id).isNone with
  | some id => .error (.app (validationError s!"No tool with id {id}." []))
  | none =>
      match arguments.skillIds.find? fun id => (catalogue.skillById id).isNone with
      | some id => .error (.app (validationError s!"No skill with id {id}." []))
      | none =>
          let maxIterations := min arguments.maxIterations platform.maxIterations
          if ¬(0 < maxIterations ∧ maxIterations ≤ 100) then .error (.integrity "iterations_sane")
          else if !within 128 arguments.model then .error (.integrity "agent_versions")
          else if catalogue.versions.any fun row => row.agentId = agentId && row.version = version
            then .error (.integrity "agent_version")
          else if ¬arguments.toolIds.Nodup then .error (.integrity "agent_tool")
          else if ¬arguments.skillIds.Nodup then .error (.integrity "agent_skill")
          else
            let row : AgentVersionRow :=
              { id := catalogue.nextId, agentId := agentId, version := version
                systemPrompt := arguments.systemPrompt, model := arguments.model
                temperature := arguments.temperature, maxIterations := maxIterations.toNat
                knowledgeBaseIds := arguments.knowledgeBaseIds
                memoryEnabled := arguments.memoryEnabled, toolIds := arguments.toolIds
                skillIds := arguments.skillIds }
            .ok (row, { catalogue with
              versions := catalogue.versions ++ [row], nextId := catalogue.nextId + 1 })

def createAgent (platform : Platform) (catalogue : Catalogue) (arguments : AgentArguments) :
    Attempt (Agent × AgentVersionRow) :=
  if !slugMatches arguments.slug then
    .error (.app (validationError
      "A slug must be lowercase letters, digits and hyphens, 3-64 characters."
      [("field", "slug")]), catalogue)
  else if (catalogue.agentBySlug arguments.slug).isSome then
    .error (.app (conflictError s!"An agent with slug '{arguments.slug}' already exists." []),
      catalogue)
  else if !(arguments.typed && within 255 arguments.displayName) then
    .error (.integrity "agents", catalogue)
  else
    let agent : Agent :=
      { id := catalogue.nextId, slug := arguments.slug, displayName := arguments.displayName
        description := arguments.description, enabled := true, currentVersion := 1 }
    -- The agent is flushed before the version is checked.
    let flushed := { catalogue with
      agents := catalogue.agents ++ [agent], nextId := catalogue.nextId + 1 }
    match createVersionRow platform flushed agent.id 1 arguments.toVersionArguments with
    | .error failure => .error (failure, flushed)
    | .ok (version, after) => .ok ((agent, version), after)

def getAgent (catalogue : Catalogue) (agentId : Nat) : Except Failure Agent :=
  match catalogue.agentById agentId with
  | some agent => .ok agent
  | none => .error (.app (notFoundError s!"No agent with id {agentId}."))

/-- `AgentVersionRepository.get_current` -/
def currentVersion (catalogue : Catalogue) (agent : Agent) : Option AgentVersionRow :=
  catalogue.versions.find? fun row => row.agentId = agent.id && row.version = agent.currentVersion

def nextVersion (catalogue : Catalogue) (agentId : Nat) : Nat :=
  (catalogue.versionsOf agentId).foldl (fun highest row => max highest row.version) 0 + 1

def VersionChanges.inherit (changes : VersionChanges) (current : AgentVersionRow) :
    VersionArguments where
  systemPrompt := changes.systemPrompt.getD current.systemPrompt
  model := (changes.model.filter truthy).getD current.model
  temperature := changes.temperature.getD current.temperature
  maxIterations := (changes.maxIterations.filter (· ≠ 0)).getD current.maxIterations
  toolIds := changes.toolIds.getD current.toolIds
  skillIds := changes.skillIds.getD current.skillIds
  knowledgeBaseIds := changes.knowledgeBaseIds.getD current.knowledgeBaseIds
  memoryEnabled := changes.memoryEnabled.getD current.memoryEnabled

def createVersion (platform : Platform) (catalogue : Catalogue) (agentId : Nat)
    (changes : VersionChanges) : Attempt AgentVersionRow :=
  match getAgent catalogue agentId with
  | .error failure => .error (failure, catalogue)
  | .ok agent =>
      match currentVersion catalogue agent with
      | none =>
          .error (.app (notFoundError s!"Agent {agent.slug} has no current version."), catalogue)
      | some current =>
          let number := nextVersion catalogue agentId
          match createVersionRow platform catalogue agentId number (changes.inherit current) with
          | .error failure => .error (failure, catalogue)
          | .ok (version, after) =>
              .ok (version, { after with
                agents := after.agents.map fun other =>
                  if other.id = agentId then { other with currentVersion := number } else other })

structure IdentityChanges where
  displayName : Option String
  description : Option String
  enabled : Option Bool

def IdentityChanges.apply (changes : IdentityChanges) (agent : Agent) : Agent :=
  { agent with
    displayName := changes.displayName.getD agent.displayName
    description := changes.description.or agent.description
    enabled := changes.enabled.getD agent.enabled }

/-- `update_agent`: the identity is updated in place, the rest publishes a version. -/
def updateAgent (platform : Platform) (catalogue : Catalogue) (agentId : Nat)
    (identity : IdentityChanges) (changes : VersionChanges) : Attempt AgentVersionRow :=
  match getAgent catalogue agentId with
  | .error failure => .error (failure, catalogue)
  | .ok _ =>
      let renamed := { catalogue with
        agents := catalogue.agents.map fun other =>
          if other.id = agentId then identity.apply other else other }
      createVersion platform renamed agentId changes

end AiPlatform.Registries
