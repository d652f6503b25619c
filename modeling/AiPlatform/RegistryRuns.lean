import AiPlatform.RegistryEvolution
import AiPlatform.Histories

/-!
Runs of registry requests. A request that fails is rolled back, so it has no
step.
-/

namespace AiPlatform.Registries

open Agents (Json Dict ToolType RiskLevel McpServer Skill Agent AgentVersionRow truthy strip)

inductive Op
  | registerTool (arguments : ToolArguments)
  | updateTool (toolId : Nat) (changes : ToolChanges)
  | deleteTool (toolId : Nat)
  | createSkill (arguments : SkillArguments)
  | deleteSkill (skillId : Nat)
  | registerServer (arguments : ServerArguments)
  | deleteServer (serverId : Nat)
  | discover (serverId : Nat) (reply : McpReply)
  | importManifests (manifests : List (Dict × McpReply))
  | createAgent (arguments : AgentArguments)
  | createVersion (agentId : Nat) (changes : VersionChanges)
  | updateAgent (agentId : Nat) (identity : IdentityChanges) (changes : VersionChanges)
  | importAll (manifests : Manifests)

def committed {Result : Type} : Attempt Result → Option Catalogue
  | .ok (_, after) => some after
  | .error _ => none

def step (platform : Platform) (catalogue : Catalogue) : Op → Option Catalogue
  | .registerTool arguments => committed (registerTool platform catalogue arguments)
  | .updateTool toolId changes => committed (updateTool platform catalogue toolId changes)
  | .deleteTool toolId => committed (deleteTool catalogue toolId)
  | .createSkill arguments => committed (createSkill catalogue arguments)
  | .deleteSkill skillId => committed (deleteSkill catalogue skillId)
  | .registerServer arguments => committed (registerServer platform catalogue arguments)
  | .deleteServer serverId => committed (deleteServer catalogue serverId)
  | .discover serverId reply => committed (discover platform catalogue serverId reply)
  | .importManifests manifests => committed (importManifests platform manifests catalogue)
  | .createAgent arguments => committed (createAgent platform catalogue arguments)
  | .createVersion agentId changes => committed (createVersion platform catalogue agentId changes)
  | .updateAgent agentId identity changes =>
      committed (updateAgent platform catalogue agentId identity changes)
  | .importAll manifests => committed (importAll platform catalogue manifests)

theorem committed_some {Result : Type} {attempt : Attempt Result} {after : Catalogue}
    (done : committed attempt = some after) : ∃ result, attempt = .ok (result, after) := by
  cases attempt with
  | error failed => cases done
  | ok outcome =>
      cases done
      exact ⟨_, rfl⟩

def Op.discovers : Op → Nat → Prop
  | .discover serverId _, server => server = serverId
  | .importManifests _, _ => True
  | _, _ => False

def Op.retargets : Op → Nat → Prop
  | .updateTool toolId changes, tool => tool = toolId ∧ changes.retargets = true
  | _, _ => False

def Op.drops : Op → ToolRow → Bool
  | .deleteTool toolId, tool => tool.id = toolId
  | .deleteServer serverId, tool => tool.mcpServerId = some serverId
  | _, _ => false

theorem step_cases {platform : Platform} {catalogue after : Catalogue} {op : Op}
    (stepped : step platform catalogue op = some after) :
    Evolves op.discovers op.retargets catalogue after ∨
      (∃ servers, (∃ id, op = .deleteTool id ∨ op = .deleteServer id) ∧
        after = { catalogue.dropTools op.drops with servers := servers }) ∨
      ∃ skillId, op = .deleteSkill skillId ∧ after = catalogue.dropSkill skillId := by
  cases op with
  | registerTool arguments =>
      obtain ⟨_, registered⟩ := committed_some stepped
      exact .inl (registerTool_evolves registered)
  | updateTool toolId changes =>
      obtain ⟨_, updated⟩ := committed_some stepped
      exact .inl (updateTool_evolves updated fun targeted => ⟨rfl, targeted⟩)
  | deleteTool toolId =>
      obtain ⟨_, deleted⟩ := committed_some stepped
      unfold deleteTool at deleted
      split at deleted
      · cases deleted
      · cases deleted
        exact .inr (.inl ⟨catalogue.servers, ⟨toolId, .inl rfl⟩, rfl⟩)
  | createSkill arguments =>
      obtain ⟨_, created⟩ := committed_some stepped
      exact .inl (createSkill_evolves created)
  | deleteSkill skillId =>
      obtain ⟨_, deleted⟩ := committed_some stepped
      unfold deleteSkill at deleted
      split at deleted
      · cases deleted
      · cases deleted
        exact .inr (.inr ⟨skillId, rfl, rfl⟩)
  | registerServer arguments =>
      obtain ⟨_, registered⟩ := committed_some stepped
      exact .inl (registerServer_evolves registered)
  | deleteServer serverId =>
      obtain ⟨_, deleted⟩ := committed_some stepped
      unfold deleteServer at deleted
      split at deleted
      · cases deleted
      · cases deleted
        exact .inr (.inl ⟨_, ⟨serverId, .inr rfl⟩, rfl⟩)
  | discover serverId reply =>
      obtain ⟨_, found⟩ := committed_some stepped
      exact .inl ((discover_evolves found).weaken (fun _ same => same) fun _ never => never.elim)
  | importManifests manifests =>
      obtain ⟨_, imported⟩ := committed_some stepped
      exact .inl (importManifests_evolves imported)
  | createAgent arguments =>
      obtain ⟨_, created⟩ := committed_some stepped
      exact .inl (createAgent_evolves created)
  | createVersion agentId changes =>
      obtain ⟨_, created⟩ := committed_some stepped
      exact .inl (createVersion_evolves created)
  | updateAgent agentId identity changes =>
      obtain ⟨_, updated⟩ := committed_some stepped
      exact .inl (updateAgent_evolves updated)
  | importAll manifests =>
      obtain ⟨_, imported⟩ := committed_some stepped
      exact .inl (importAll_evolves imported)

theorem orderly_step {platform : Platform} {catalogue after : Catalogue} {op : Op}
    (stepped : step platform catalogue op = some after) (orderly : Orderly catalogue) :
    Orderly after := by
  rcases step_cases stepped with evolves | ⟨servers, _, rfl⟩ | ⟨skillId, _, rfl⟩
  · exact evolves.orderly orderly
  · have dropped := orderly_dropTools orderly op.drops
    exact ⟨⟨dropped.toolIds, dropped.toolNames, dropped.agentIds, dropped.toolsBelow,
      dropped.agentsBelow⟩, dropped.versionsBelow, dropped.numbered⟩
  · exact orderly_dropSkill orderly skillId

theorem orderly_reached {platform : Platform} {ok : Catalogue → Op → Prop}
    {catalogue : Catalogue}
    (history : History (step platform) ok Catalogue.empty catalogue) : Orderly catalogue := by
  refine history.keeps Orderly ?_ fun _ _ _ _ stepped => orderly_step stepped
  constructor
  · exact ⟨List.nodup_nil, List.nodup_nil, List.nodup_nil, (fun _ member => nomatch member),
      (fun _ member => nomatch member)⟩
  · exact fun _ member => nomatch member
  · exact fun _ member => nomatch member

end AiPlatform.Registries
