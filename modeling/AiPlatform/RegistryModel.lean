import AiPlatform.Errors
import AiPlatform.ToolDefinitions

/-!
The tables behind the agent, skill, tool and MCP registries, and the
constraints the database keeps on them. Association rows are the id lists of a
version, as in the agent subsystem; deleting a tool or a skill deletes the
association rows that refer to it. Ids are drawn in order, so an id never comes
back.
-/

namespace AiPlatform.Registries

open Agents (Json Dict ToolType RiskLevel McpServer Skill Agent AgentVersionRow truthy strip)

structure ToolRow where
  id : Nat
  name : String
  displayName : String
  description : String
  type : ToolType
  parametersSchema : Json
  requiredPermission : String
  riskLevel : RiskLevel
  endpoint : Option String
  config : Dict
  credentialsEncrypted : Option String
  enabled : Bool
  timeoutSeconds : Nat
  mcpServerId : Option Nat

structure SkillRow extends Skill where
  name : String
  version : String
  requiredTools : List String
  requiredKnowledge : List String
  parameters : Dict
  requiredPermission : Option String

structure Catalogue where
  tools : List ToolRow
  servers : List McpServer
  skills : List SkillRow
  agents : List Agent
  versions : List AgentVersionRow
  nextId : Nat

def Catalogue.empty : Catalogue := ⟨[], [], [], [], [], 0⟩

/-- What the services take from their surroundings: `str` of a value that is
not text, the cipher, and the settings they read. -/
structure Platform where
  str : Json → String
  encrypt : String → String
  maxIterations : Nat
  defaultTemperature : Rat

/-- Why a service call did not return. A statement the database refuses leaves
the session of the request unusable. -/
inductive Failure
  | app (error : AppError)
  | integrity (constraint : String)
  | raised (kind : String)

def within (width : Nat) (text : String) : Bool := text.length ≤ width

def ToolType.ofText (text : String) : Option ToolType :=
  [ToolType.mcp, .rest, .openapi, .internal, .database, .python, .command].find?
    fun type => type.text = text

def RiskLevel.ofText (text : String) : Option RiskLevel :=
  [RiskLevel.low, .medium, .high, .critical].find? fun level => level.text = text

namespace Catalogue

def toolByName (catalogue : Catalogue) (name : String) : Option ToolRow :=
  catalogue.tools.find? fun tool => tool.name = name

def toolById (catalogue : Catalogue) (id : Nat) : Option ToolRow :=
  catalogue.tools.find? fun tool => tool.id = id

def skillByName (catalogue : Catalogue) (name : String) : Option SkillRow :=
  catalogue.skills.find? fun skill => skill.name = name

def skillById (catalogue : Catalogue) (id : Nat) : Option SkillRow :=
  catalogue.skills.find? fun skill => skill.id = id

def serverByName (catalogue : Catalogue) (name : String) : Option McpServer :=
  catalogue.servers.find? fun server => server.name = name

def serverById (catalogue : Catalogue) (id : Nat) : Option McpServer :=
  catalogue.servers.find? fun server => server.id = id

def agentBySlug (catalogue : Catalogue) (slug : String) : Option Agent :=
  catalogue.agents.find? fun agent => agent.slug = slug

def agentById (catalogue : Catalogue) (id : Nat) : Option Agent :=
  catalogue.agents.find? fun agent => agent.id = id

def versionsOf (catalogue : Catalogue) (agentId : Nat) : List AgentVersionRow :=
  catalogue.versions.filter fun version => version.agentId = agentId

def dropTools (catalogue : Catalogue) (gone : ToolRow → Bool) : Catalogue :=
  let ids := (catalogue.tools.filter gone).map (·.id)
  { catalogue with
    tools := catalogue.tools.filter fun tool => !gone tool
    versions := catalogue.versions.map fun version =>
      { version with toolIds := version.toolIds.filter fun id => !ids.contains id } }

def dropSkill (catalogue : Catalogue) (skillId : Nat) : Catalogue :=
  { catalogue with
    skills := catalogue.skills.filter fun skill => skill.id ≠ skillId
    versions := catalogue.versions.map fun version =>
      { version with skillIds := version.skillIds.filter fun id => id ≠ skillId } }

end Catalogue

structure Sound (catalogue : Catalogue) : Prop where
  toolIds : (catalogue.tools.map (·.id)).Nodup
  toolNames : (catalogue.tools.map (·.name)).Nodup
  agentIds : (catalogue.agents.map (·.id)).Nodup
  toolsBelow : ∀ tool ∈ catalogue.tools, tool.id < catalogue.nextId
  agentsBelow : ∀ agent ∈ catalogue.agents, agent.id < catalogue.nextId

end AiPlatform.Registries
