import AiPlatform.Definitions

/-!
What a registry request does to the tables, said once: the steps that add and
rewrite tools and publish versions (`Evolves`), and the deletions. The invariant
`Orderly` says that the keys of the tables are distinct and that the versions of
an agent are numbered from one to its current version.
-/

namespace AiPlatform.Registries

open Agents (Json Dict ToolType RiskLevel McpServer Skill Agent AgentVersionRow truthy strip)

/-- How a tool row may be rewritten by requests that discover the servers
`discovered` and give the tools `retargeted` an endpoint or a configuration. -/
structure Rewritten (discovered retargeted : Nat → Prop) (old new : ToolRow) : Prop where
  id : new.id = old.id
  name : new.name = old.name
  type : new.type = old.type
  server : new.mcpServerId = old.mcpServerId
  schema : new.parametersSchema = old.parametersSchema ∨
    ∃ server, old.mcpServerId = some server ∧ discovered server
  endpoint : new.endpoint = old.endpoint ∨ retargeted old.id ∨
    ∃ server, old.mcpServerId = some server ∧ discovered server
  config : new.config = old.config ∨ retargeted old.id

namespace Rewritten

variable {discovered retargeted : Nat → Prop}

theorem refl (tool : ToolRow) : Rewritten discovered retargeted tool tool :=
  ⟨rfl, rfl, rfl, rfl, .inl rfl, .inl rfl, .inl rfl⟩

theorem trans {first second third : ToolRow} (one : Rewritten discovered retargeted first second)
    (two : Rewritten discovered retargeted second third) :
    Rewritten discovered retargeted first third := by
  constructor
  · exact two.id.trans one.id
  · exact two.name.trans one.name
  · exact two.type.trans one.type
  · exact two.server.trans one.server
  · rcases two.schema with same | found
    · exact one.schema.imp_left same.trans
    · exact .inr (one.server ▸ found)
  · rcases two.endpoint with same | targeted | found
    · exact one.endpoint.imp_left same.trans
    · exact .inr (.inl (one.id ▸ targeted))
    · exact .inr (.inr (one.server ▸ found))
  · rcases two.config with same | targeted
    · exact one.config.imp_left same.trans
    · exact .inr (one.id ▸ targeted)

theorem weaken {discovered' retargeted' : Nat → Prop} {old new : ToolRow}
    (rewritten : Rewritten discovered retargeted old new)
    (more : ∀ server, discovered server → discovered' server)
    (more' : ∀ tool, retargeted tool → retargeted' tool) :
    Rewritten discovered' retargeted' old new where
  id := rewritten.id
  name := rewritten.name
  type := rewritten.type
  server := rewritten.server
  schema := rewritten.schema.imp_right fun ⟨server, own, found⟩ => ⟨server, own, more server found⟩
  endpoint := rewritten.endpoint.imp_right fun changed =>
    changed.imp (more' _) fun ⟨server, own, found⟩ => ⟨server, own, more server found⟩
  config := rewritten.config.imp_right (more' _)

end Rewritten

/-- The steps a request takes on the tools, agents and versions. Nothing is
deleted. -/
inductive Evolves (discovered retargeted : Nat → Prop) (before : Catalogue) : Catalogue → Prop
  | refl : Evolves discovered retargeted before before
  | elsewhere {middle after : Catalogue} (earlier : Evolves discovered retargeted before middle)
      (tools : after.tools = middle.tools) (agents : after.agents = middle.agents)
      (versions : after.versions = middle.versions) (grown : middle.nextId ≤ after.nextId) :
      Evolves discovered retargeted before after
  | toolAdded {middle : Catalogue} (tool : ToolRow)
      (earlier : Evolves discovered retargeted before middle)
      (keyed : tool.id = middle.nextId) (fresh : ∀ other ∈ middle.tools, other.name ≠ tool.name) :
      Evolves discovered retargeted before
        { middle with tools := middle.tools ++ [tool], nextId := middle.nextId + 1 }
  | toolsRewritten {middle : Catalogue} (rewrite : ToolRow → ToolRow)
      (earlier : Evolves discovered retargeted before middle)
      (allowed : ∀ tool ∈ middle.tools, Rewritten discovered retargeted tool (rewrite tool)) :
      Evolves discovered retargeted before { middle with tools := middle.tools.map rewrite }
  | agentOpened {middle : Catalogue} (agent : Agent) (row : AgentVersionRow)
      (earlier : Evolves discovered retargeted before middle) (keyed : agent.id = middle.nextId)
      (first : agent.currentVersion = 1) (own : row.agentId = agent.id)
      (numbered : row.version = 1) :
      Evolves discovered retargeted before
        { middle with
          agents := middle.agents ++ [agent], versions := middle.versions ++ [row]
          nextId := middle.nextId + 2 }
  | versionPublished {middle : Catalogue} (row : AgentVersionRow)
      (earlier : Evolves discovered retargeted before middle)
      (numbered : row.version = nextVersion middle row.agentId)
      (known : ∃ agent ∈ middle.agents, agent.id = row.agentId) :
      Evolves discovered retargeted before
        { middle with
          agents := middle.agents.map fun agent =>
            if agent.id = row.agentId then { agent with currentVersion := row.version } else agent
          versions := middle.versions ++ [row], nextId := middle.nextId + 1 }
  | agentsRenamed {middle : Catalogue} (rename : Agent → Agent)
      (earlier : Evolves discovered retargeted before middle)
      (kept : ∀ agent, (rename agent).id = agent.id ∧
        (rename agent).currentVersion = agent.currentVersion) :
      Evolves discovered retargeted before { middle with agents := middle.agents.map rename }

structure Orderly (catalogue : Catalogue) : Prop extends Sound catalogue where
  versionsBelow : ∀ version ∈ catalogue.versions, version.agentId < catalogue.nextId
  numbered : ∀ agent ∈ catalogue.agents,
    (catalogue.versionsOf agent.id).map (·.version) = List.range' 1 agent.currentVersion

theorem nextVersion_range {catalogue : Catalogue} {agentId current : Nat}
    (numbered : (catalogue.versionsOf agentId).map (·.version) = List.range' 1 current) :
    nextVersion catalogue agentId = current + 1 := by
  have folded (start : Nat) (rows : List AgentVersionRow) :
      rows.foldl (fun highest row => max highest row.version) start =
        (rows.map (·.version)).foldl max start := (List.foldl_map ..).symm
  have highest (count : Nat) : (List.range' 1 count).foldl max 0 = count := by
    induction count with
    | zero => rfl
    | succ count ih =>
        rw [List.range'_1_concat, List.foldl_append, ih]
        simp only [List.foldl_cons, List.foldl_nil]
        omega
  rw [nextVersion, folded, numbered, highest]

section Steps

variable {catalogue : Catalogue}

theorem below_concat {α : Type} {key : α → Nat} {rows : List α} {row : α} {bound next : Nat}
    (below : ∀ other ∈ rows, key other < bound) (keyed : key row = bound) (grown : bound < next) :
    ∀ other ∈ rows ++ [row], key other < next := by
  intro other member
  rcases List.mem_append.mp member with old | new
  · exact Nat.lt_trans (below other old) grown
  · rw [List.mem_singleton.mp new, keyed]
    exact grown

theorem keys_concat {α : Type} {key : α → Nat} {rows : List α} {row : α} {bound : Nat}
    (keys : (rows.map key).Nodup) (below : ∀ other ∈ rows, key other < bound)
    (keyed : key row = bound) : ((rows ++ [row]).map key).Nodup :=
  distinct_concat _ keys fun other member =>
    Nat.ne_of_lt (lt_of_lt_of_eq (below other member) keyed.symm)

theorem versionsOf_concat (agents : List Agent) (row : AgentVersionRow) (nextId agentId : Nat) :
    Catalogue.versionsOf { catalogue with
      agents := agents, versions := catalogue.versions ++ [row], nextId := nextId } agentId =
      catalogue.versionsOf agentId ++ if row.agentId = agentId then [row] else [] := by
  simp [Catalogue.versionsOf, List.filter_append, List.filter_singleton]

theorem sound_grown {nextId : Nat} (sound : Sound catalogue) (grown : catalogue.nextId ≤ nextId) :
    Sound { catalogue with nextId := nextId } :=
  { sound with
    toolsBelow := fun tool member => Nat.lt_of_lt_of_le (sound.toolsBelow tool member) grown
    agentsBelow := fun agent member => Nat.lt_of_lt_of_le (sound.agentsBelow agent member) grown }

theorem sound_renamed {rename : Agent → Agent} (sound : Sound catalogue)
    (kept : ∀ agent, (rename agent).id = agent.id) :
    Sound { catalogue with agents := catalogue.agents.map rename } := by
  refine { sound with agentIds := ?_, agentsBelow := fun agent member => ?_ }
  · have ids : (catalogue.agents.map rename).map (·.id) = catalogue.agents.map (·.id) := by
      rw [List.map_map]
      exact List.map_congr_left fun agent _ => kept agent
    rw [ids]
    exact sound.agentIds
  · obtain ⟨old, listed, rfl⟩ := List.mem_map.mp member
    rw [kept old]
    exact sound.agentsBelow old listed

theorem orderly_elsewhere {next : Catalogue} (orderly : Orderly catalogue)
    (tools : next.tools = catalogue.tools) (agents : next.agents = catalogue.agents)
    (versions : next.versions = catalogue.versions) (grown : catalogue.nextId ≤ next.nextId) :
    Orderly next := by
  obtain ⟨sound, versionsBelow, numbered⟩ := orderly
  have sound := sound_grown sound grown
  obtain ⟨toolIds, toolNames, agentIds, toolsBelow, agentsBelow⟩ := sound
  unfold Catalogue.versionsOf at numbered
  rw [← tools] at toolIds toolNames toolsBelow
  rw [← agents] at agentIds agentsBelow numbered
  rw [← versions] at versionsBelow numbered
  exact ⟨⟨toolIds, toolNames, agentIds, toolsBelow, agentsBelow⟩,
    fun version member => Nat.lt_of_lt_of_le (versionsBelow version member) grown, numbered⟩

theorem orderly_toolAdded {tool : ToolRow} (orderly : Orderly catalogue)
    (keyed : tool.id = catalogue.nextId)
    (fresh : ∀ other ∈ catalogue.tools, other.name ≠ tool.name) :
    Orderly { catalogue with
      tools := catalogue.tools ++ [tool], nextId := catalogue.nextId + 1 } :=
  { sound_grown orderly.toSound (Nat.le_succ _) with
    toolIds := keys_concat orderly.toolIds orderly.toolsBelow keyed
    toolNames := distinct_concat _ orderly.toolNames fresh
    toolsBelow := below_concat orderly.toolsBelow keyed (Nat.lt_succ_self _)
    versionsBelow := fun version member => Nat.lt_succ_of_lt (orderly.versionsBelow version member)
    numbered := orderly.numbered }

theorem orderly_toolsRewritten {discovered retargeted : Nat → Prop} {rewrite : ToolRow → ToolRow}
    (orderly : Orderly catalogue)
    (allowed : ∀ tool ∈ catalogue.tools, Rewritten discovered retargeted tool (rewrite tool)) :
    Orderly { catalogue with tools := catalogue.tools.map rewrite } := by
  have same {α : Type} {field : ToolRow → α}
      (kept : ∀ tool ∈ catalogue.tools, field (rewrite tool) = field tool) :
      (catalogue.tools.map rewrite).map field = catalogue.tools.map field := by
    rw [List.map_map]
    exact List.map_congr_left kept
  refine { orderly with toolIds := ?_, toolNames := ?_, toolsBelow := fun tool member => ?_ }
  · rw [same fun tool member => (allowed tool member).id]
    exact orderly.toolIds
  · rw [same fun tool member => (allowed tool member).name]
    exact orderly.toolNames
  · obtain ⟨old, listed, rfl⟩ := List.mem_map.mp member
    rw [(allowed old listed).id]
    exact orderly.toolsBelow old listed

theorem orderly_agentOpened {agent : Agent} {row : AgentVersionRow} (orderly : Orderly catalogue)
    (keyed : agent.id = catalogue.nextId) (first : agent.currentVersion = 1)
    (own : row.agentId = agent.id) (numbered : row.version = 1) :
    Orderly { catalogue with
      agents := catalogue.agents ++ [agent], versions := catalogue.versions ++ [row]
      nextId := catalogue.nextId + 2 } := by
  have more : catalogue.nextId < catalogue.nextId + 2 := Nat.lt_add_of_pos_right (by decide)
  refine { sound_grown orderly.toSound (Nat.le_of_lt more) with
    agentIds := keys_concat orderly.agentIds orderly.agentsBelow keyed
    agentsBelow := below_concat orderly.agentsBelow keyed more
    versionsBelow := below_concat orderly.versionsBelow (own.trans keyed) more
    numbered := fun other member => ?_ }
  rw [versionsOf_concat]
  rcases List.mem_append.mp member with old | new
  · have apart : row.agentId ≠ other.id := by
      rw [own, keyed]
      exact Nat.ne_of_gt (orderly.agentsBelow other old)
    rw [if_neg apart, List.append_nil]
    exact orderly.numbered other old
  · have unversioned : catalogue.versionsOf agent.id = [] := by
      refine List.filter_eq_nil_iff.mpr fun version stored taken => ?_
      have less := orderly.versionsBelow version stored
      rw [of_decide_eq_true taken, keyed] at less
      exact Nat.lt_irrefl _ less
    rw [List.mem_singleton.mp new, if_pos own, unversioned, first]
    simp [numbered]

theorem orderly_versionPublished {row : AgentVersionRow} (orderly : Orderly catalogue)
    (numbered : row.version = nextVersion catalogue row.agentId)
    (known : ∃ agent ∈ catalogue.agents, agent.id = row.agentId) :
    Orderly { catalogue with
      agents := catalogue.agents.map fun agent =>
        if agent.id = row.agentId then { agent with currentVersion := row.version } else agent
      versions := catalogue.versions ++ [row], nextId := catalogue.nextId + 1 } := by
  have renamed := @sound_renamed catalogue (fun agent =>
    if agent.id = row.agentId then { agent with currentVersion := row.version } else agent)
    orderly.toSound fun agent => by split <;> rfl
  refine { sound_grown renamed (Nat.le_succ _) with
    versionsBelow := fun version member => ?_, numbered := fun agent member => ?_ }
  · obtain ⟨agent, listed, own⟩ := known
    rcases List.mem_append.mp member with old | new
    · exact Nat.lt_succ_of_lt (orderly.versionsBelow version old)
    · rw [List.mem_singleton.mp new, ← own]
      exact Nat.lt_succ_of_lt (orderly.agentsBelow agent listed)
  · obtain ⟨old, listed, rfl⟩ := List.mem_map.mp member
    have before := orderly.numbered old listed
    rw [versionsOf_concat]
    split
    · rename_i own
      rw [own] at before
      have next := nextVersion_range before
      rw [if_pos own.symm, List.map_append, own, before, numbered, next, List.range'_1_concat]
      simp [numbered, next, Nat.add_comm]
    · rename_i other
      rw [if_neg (Ne.symm other), List.append_nil]
      exact before

theorem orderly_agentsRenamed {rename : Agent → Agent} (orderly : Orderly catalogue)
    (kept : ∀ agent, (rename agent).id = agent.id ∧
      (rename agent).currentVersion = agent.currentVersion) :
    Orderly { catalogue with agents := catalogue.agents.map rename } := by
  refine { sound_renamed orderly.toSound fun agent => (kept agent).1 with
    versionsBelow := orderly.versionsBelow, numbered := fun agent member => ?_ }
  obtain ⟨old, listed, rfl⟩ := List.mem_map.mp member
  rw [(kept old).1, (kept old).2]
  exact orderly.numbered old listed

end Steps

namespace Evolves

variable {discovered retargeted : Nat → Prop} {before middle after : Catalogue}

theorem trans (first : Evolves discovered retargeted before middle)
    (second : Evolves discovered retargeted middle after) :
    Evolves discovered retargeted before after := by
  induction second with
  | refl => exact first
  | elsewhere _ tools agents versions grown ih =>
      exact .elsewhere ih tools agents versions grown
  | toolAdded tool _ keyed fresh ih => exact .toolAdded tool ih keyed fresh
  | toolsRewritten rewrite _ allowed ih => exact .toolsRewritten rewrite ih allowed
  | agentOpened agent row _ keyed first own numbered ih =>
      exact .agentOpened agent row ih keyed first own numbered
  | versionPublished row _ numbered known ih => exact .versionPublished row ih numbered known
  | agentsRenamed rename _ kept ih => exact .agentsRenamed rename ih kept

theorem nextId_le (evolves : Evolves discovered retargeted before after) :
    before.nextId ≤ after.nextId := by
  induction evolves with
  | refl => exact Nat.le_refl _
  | elsewhere _ _ _ _ grown ih => exact Nat.le_trans ih grown
  | toolsRewritten _ _ _ ih => exact ih
  | agentsRenamed _ _ _ ih => exact ih
  | toolAdded _ _ _ _ ih => exact Nat.le_trans ih (Nat.le_add_right _ _)
  | agentOpened _ _ _ _ _ _ _ ih => exact Nat.le_trans ih (Nat.le_add_right _ _)
  | versionPublished _ _ _ _ ih => exact Nat.le_trans ih (Nat.le_add_right _ _)

theorem versions_kept (evolves : Evolves discovered retargeted before after) :
    ∀ version ∈ before.versions, version ∈ after.versions := by
  induction evolves with
  | refl => exact fun _ member => member
  | elsewhere _ _ _ versions _ ih =>
      rw [versions]
      exact ih
  | toolAdded _ _ _ _ ih => exact ih
  | toolsRewritten _ _ _ ih => exact ih
  | agentsRenamed _ _ _ ih => exact ih
  | agentOpened _ _ _ _ _ _ _ ih =>
      exact fun version member => List.mem_append_left _ (ih version member)
  | versionPublished _ _ _ _ ih =>
      exact fun version member => List.mem_append_left _ (ih version member)

theorem rows (evolves : Evolves discovered retargeted before after) :
    ∀ tool ∈ after.tools, before.nextId ≤ tool.id ∨
      ∃ old ∈ before.tools, Rewritten discovered retargeted old tool := by
  induction evolves with
  | refl => exact fun tool member => .inr ⟨tool, member, .refl tool⟩
  | elsewhere _ tools _ _ _ ih =>
      rw [tools]
      exact ih
  | toolAdded added earlier keyed _ ih =>
      intro tool member
      rcases List.mem_append.mp member with old | new
      · exact ih tool old
      · rw [List.mem_singleton.mp new, keyed]
        exact .inl earlier.nextId_le
  | toolsRewritten rewrite _ allowed ih =>
      intro tool member
      obtain ⟨old, listed, rfl⟩ := List.mem_map.mp member
      rcases ih old listed with new | ⟨first, stored, rewritten⟩
      · exact .inl ((allowed old listed).id ▸ new)
      · exact .inr ⟨first, stored, rewritten.trans (allowed old listed)⟩
  | agentsRenamed _ _ _ ih => exact ih
  | agentOpened _ _ _ _ _ _ _ ih => exact ih
  | versionPublished _ _ _ _ ih => exact ih

theorem orderly (evolves : Evolves discovered retargeted before after) (start : Orderly before) :
    Orderly after := by
  induction evolves with
  | refl => exact start
  | elsewhere _ tools agents versions grown ih =>
      exact orderly_elsewhere ih tools agents versions grown
  | toolAdded tool _ keyed fresh ih => exact orderly_toolAdded ih keyed fresh
  | toolsRewritten rewrite _ allowed ih => exact orderly_toolsRewritten ih allowed
  | agentOpened agent row _ keyed first own numbered ih =>
      exact orderly_agentOpened ih keyed first own numbered
  | versionPublished row _ numbered known ih => exact orderly_versionPublished ih numbered known
  | agentsRenamed rename _ kept ih => exact orderly_agentsRenamed ih kept

end Evolves

theorem versionsOf_map {catalogue : Catalogue} {strip : AgentVersionRow → AgentVersionRow}
    (kept : ∀ version, (strip version).agentId = version.agentId ∧
      (strip version).version = version.version) (agentId : Nat) :
    ((catalogue.versions.map strip).filter fun version => version.agentId = agentId).map
        (·.version) = (catalogue.versionsOf agentId).map (·.version) := by
  rw [List.filter_map, List.map_map]
  have own : ((fun version : AgentVersionRow => decide (version.agentId = agentId)) ∘ strip) =
      fun version => decide (version.agentId = agentId) :=
    funext fun version => by simp [(kept version).1]
  rw [own]
  exact List.map_congr_left fun version _ => (kept version).2

theorem orderly_dropTools {catalogue : Catalogue} (orderly : Orderly catalogue)
    (gone : ToolRow → Bool) : Orderly (catalogue.dropTools gone) := by
  constructor
  · constructor
    · exact orderly.toolIds.sublist (List.filter_sublist.map _)
    · exact orderly.toolNames.sublist (List.filter_sublist.map _)
    · exact orderly.agentIds
    · exact fun tool member => orderly.toolsBelow tool (List.mem_filter.mp member).1
    · exact orderly.agentsBelow
  · intro version member
    obtain ⟨old, listed, rfl⟩ := List.mem_map.mp member
    exact orderly.versionsBelow old listed
  · intro agent member
    have same := @versionsOf_map catalogue (fun version =>
      { version with toolIds := version.toolIds.filter fun id =>
          !((catalogue.tools.filter gone).map (·.id)).contains id })
      (fun _ => ⟨rfl, rfl⟩) agent.id
    exact same.trans (orderly.numbered agent member)

theorem orderly_dropSkill {catalogue : Catalogue} (orderly : Orderly catalogue) (skillId : Nat) :
    Orderly (catalogue.dropSkill skillId) := by
  constructor
  · exact ⟨orderly.toolIds, orderly.toolNames, orderly.agentIds, orderly.toolsBelow,
      orderly.agentsBelow⟩
  · intro version member
    obtain ⟨old, listed, rfl⟩ := List.mem_map.mp member
    exact orderly.versionsBelow old listed
  · intro agent member
    have same := @versionsOf_map catalogue (fun version =>
      { version with skillIds := version.skillIds.filter fun id => id ≠ skillId })
      (fun _ => ⟨rfl, rfl⟩) agent.id
    exact same.trans (orderly.numbered agent member)

section Services

variable {discovered retargeted : Nat → Prop} {platform : Platform} {catalogue after : Catalogue}

theorem unnamed {name : String} (missing : (catalogue.toolByName name).isSome = false) :
    ∀ tool ∈ catalogue.tools, tool.name ≠ name := by
  intro tool member same
  have found : catalogue.toolByName name = none := by simpa using missing
  have miss := List.find?_eq_none.mp found tool member
  simp [same] at miss

theorem registerTool_evolves {arguments : ToolArguments} {tool : ToolRow}
    (registered : registerTool platform catalogue arguments = .ok (tool, after)) :
    Evolves discovered retargeted catalogue after := by
  unfold registerTool at registered
  split at registered
  · cases registered
  · rename_i free
    split at registered
    · cases registered
    · cases registered
    · split at registered
      · cases registered
      · cases registered
        exact .toolAdded _ .refl rfl (unnamed (by simpa using free))

def ToolChanges.retargets (changes : ToolChanges) : Bool :=
  changes.endpoint.isSome || changes.config.isSome

theorem rewritten_apply (changes : ToolChanges) (riskLevel : RiskLevel) (tool : ToolRow)
    (targeted : changes.retargets = true → retargeted tool.id) :
    Rewritten discovered retargeted tool (changes.apply platform riskLevel tool) := by
  refine ⟨rfl, rfl, rfl, rfl, .inl rfl, ?_, ?_⟩
  · cases given : changes.endpoint with
    | none => exact .inl (by simp [ToolChanges.apply, given])
    | some endpoint => exact .inr (.inl (targeted (by simp [ToolChanges.retargets, given])))
  · cases given : changes.config with
    | none => exact .inl (by simp [ToolChanges.apply, given])
    | some config => exact .inr (targeted (by simp [ToolChanges.retargets, given]))

theorem updateTool_evolves {toolId : Nat} {changes : ToolChanges} {tool : ToolRow}
    (updated : updateTool platform catalogue toolId changes = .ok (tool, after))
    (targeted : changes.retargets = true → retargeted toolId) :
    Evolves discovered retargeted catalogue after := by
  unfold updateTool at updated
  split at updated
  · cases updated
  · split at updated
    · cases updated
    · cases updated
      refine .toolsRewritten _ .refl fun other _ => ?_
      split
      · rename_i same
        exact rewritten_apply changes _ other (by rwa [same])
      · exact .refl other

/-- What the loop of `discover` keeps: the rows in view evolved from those of the
database, and a name that no row of the database has is one of the server's. -/
structure Discovers (catalogue : Catalogue) (server : McpServer) (state : Discovering) : Prop where
  evolves : Evolves (· = server.id) (fun _ => False) catalogue
    { catalogue with tools := state.rows, nextId := state.nextId }
  names : ∀ tool ∈ state.rows, (∃ old ∈ catalogue.tools, old.name = tool.name) ∨
    tool.mcpServerId = some server.id

theorem rewritten_refresh {server : McpServer} (entry : Dict) (schema : Json) {tool : ToolRow}
    (own : tool.mcpServerId = some server.id) :
    Rewritten (· = server.id) (fun _ => False) tool
      (refresh platform server entry schema tool) :=
  ⟨rfl, rfl, rfl, rfl, .inr ⟨_, own, rfl⟩, .inr (.inr ⟨_, own, rfl⟩), .inl rfl⟩

theorem discovers_entry {server : McpServer} {state : Discovering}
    (discovers : Discovers catalogue server state) (entry : Dict) :
    Discovers catalogue server (discoverEntry platform catalogue server state entry) := by
  unfold discoverEntry
  simp only
  split
  · exact discovers
  · split
    · exact ⟨discovers.evolves, discovers.names⟩
    · rename_i unnamed' free
      split
      · refine ⟨.toolsRewritten _ discovers.evolves fun tool _ => ?_, fun tool member => ?_⟩
        · split
          · rename_i owned
            exact rewritten_refresh entry _ (of_decide_eq_true (Bool.and_eq_true_iff.mp owned).1)
          · exact .refl tool
        · obtain ⟨old, listed, rfl⟩ := List.mem_map.mp member
          have before := discovers.names old listed
          split
          · exact before
          · exact before
      · rename_i missing
        have none : (catalogue.toolByName
            (let remoteName := strip (textOr platform entry "name" "")
            s!"{server.name}.{remoteName}")).isSome = false := by
          simpa [missing] using free
        refine ⟨.toolAdded _ discovers.evolves rfl fun tool member same => ?_,
          fun tool member => ?_⟩
        -- A row in view that has the name would be the server's own, which was looked for.
        · rcases discovers.names tool member with ⟨old, stored, named⟩ | own
          · exact unnamed none old stored (named.trans same)
          · refine missing (List.any_eq_true.mpr ⟨tool, member, ?_⟩)
            simp only [owns, Bool.and_eq_true, decide_eq_true_eq]
            exact ⟨own, same⟩
        · rcases List.mem_append.mp member with old | new
          · exact discovers.names tool old
          · rw [List.mem_singleton.mp new]
            exact .inr rfl

theorem discovers_entries {server : McpServer} {entries : List Json} {state final : Discovering}
    (discovers : Discovers catalogue server state)
    (walked : discoverEntries platform catalogue server entries state = .ok final) :
    Discovers catalogue server final := by
  induction entries generalizing state with
  | nil =>
      cases walked
      exact discovers
  | cons entry rest ih =>
      cases entry with
      | obj fields => exact ih (discovers_entry discovers fields) walked
      | null => cases walked
      | bool value => cases walked
      | num value => cases walked
      | str value => cases walked
      | uuid value => cases walked
      | arr items => cases walked

theorem discovers_start (server : McpServer) :
    Discovers catalogue server ⟨catalogue.tools, catalogue.nextId, 0, 0, [], []⟩ :=
  ⟨.refl, fun tool member => .inl ⟨tool, member, rfl⟩⟩

theorem discover_spec {serverId : Nat} {reply : McpReply} {result : DiscoveryResult}
    (found : discover platform catalogue serverId reply = .ok (result, after)) :
    after = catalogue ∨ ∃ server offered state, catalogue.serverById serverId = some server ∧
      server.id = serverId ∧
      discoverEntries platform catalogue server offered
        ⟨catalogue.tools, catalogue.nextId, 0, 0, [], []⟩ = .ok state ∧
      after = { catalogue with tools := state.rows, nextId := state.nextId } := by
  unfold discover at found
  split at found
  · cases found
  · rename_i server stored
    have keyed : server.id = serverId := by simpa using List.find?_some stored
    split at found
    · cases found
      exact .inl rfl
    · split at found
      · cases found
      · rename_i offered _
        split at found
        · cases found
        · rename_i state walked
          cases found
          exact .inr ⟨server, offered, state, stored, keyed, walked, rfl⟩

theorem discover_evolves {serverId : Nat} {reply : McpReply} {result : DiscoveryResult}
    (found : discover platform catalogue serverId reply = .ok (result, after)) :
    Evolves (· = serverId) (fun _ => False) catalogue after := by
  rcases discover_spec found with rfl | ⟨server, _, _, _, rfl, walked, rfl⟩
  · exact .refl
  · exact (discovers_entries (discovers_start server) walked).evolves

theorem createSkill_evolves {arguments : SkillArguments} {skill : SkillRow}
    (created : createSkill catalogue arguments = .ok (skill, after)) :
    Evolves discovered retargeted catalogue after := by
  unfold createSkill at created
  split at created
  · cases created
  · split at created
    · cases created
    · cases created
      exact .elsewhere .refl rfl rfl rfl (Nat.le_add_right _ _)

theorem registerServer_evolves {arguments : ServerArguments} {server : McpServer}
    (registered : registerServer platform catalogue arguments = .ok (server, after)) :
    Evolves discovered retargeted catalogue after := by
  unfold registerServer at registered
  split at registered
  · cases registered
  · cases registered
    exact .elsewhere .refl rfl rfl rfl (Nat.le_add_right _ _)

theorem manifestServer_evolves (name : String) :
    Evolves discovered retargeted catalogue (manifestServer catalogue name).2 := by
  unfold manifestServer
  split
  · exact .elsewhere .refl rfl rfl rfl (Nat.le_refl _)
  · exact .elsewhere .refl rfl rfl rfl (Nat.le_add_right _ _)

theorem Evolves.weaken {discovered' retargeted' : Nat → Prop}
    (evolves : Evolves discovered retargeted catalogue after)
    (more : ∀ server, discovered server → discovered' server)
    (more' : ∀ tool, retargeted tool → retargeted' tool) :
    Evolves discovered' retargeted' catalogue after := by
  induction evolves with
  | refl => exact .refl
  | elsewhere _ tools agents versions grown ih =>
      exact .elsewhere ih tools agents versions grown
  | toolAdded tool _ keyed fresh ih => exact .toolAdded tool ih keyed fresh
  | toolsRewritten rewrite _ allowed ih =>
      exact .toolsRewritten rewrite ih fun tool member => (allowed tool member).weaken more more'
  | agentOpened agent row _ keyed first own numbered ih =>
      exact .agentOpened agent row ih keyed first own numbered
  | versionPublished row _ numbered known ih => exact .versionPublished row ih numbered known
  | agentsRenamed rename _ kept ih => exact .agentsRenamed rename ih kept

theorem importManifests_evolves {manifests : List (Dict × McpReply)}
    {results : List DiscoveryResult}
    (imported : importManifests platform manifests catalogue = .ok (results, after)) :
    Evolves (fun _ => True) retargeted catalogue after := by
  induction manifests generalizing catalogue results with
  | nil =>
      cases imported
      exact .refl
  | cons manifest rest ih =>
      obtain ⟨spec, reply⟩ := manifest
      simp only [importManifests] at imported
      split at imported
      · exact ih imported
      · split at imported
        · cases imported
        · rename_i found
          split at imported
          · cases imported
          · rename_i later
            cases imported
            have one : Evolves (fun _ => True) retargeted _ _ :=
              (discover_evolves found).weaken (fun _ _ => trivial) (fun _ never => never.elim)
            exact ((manifestServer_evolves _).trans one).trans (ih later)

theorem createVersionRow_spec {agentId version : Nat} {arguments : VersionArguments}
    {row : AgentVersionRow}
    (created : createVersionRow platform catalogue agentId version arguments = .ok (row, after)) :
    row.agentId = agentId ∧ row.version = version ∧
      after = { catalogue with
        versions := catalogue.versions ++ [row], nextId := catalogue.nextId + 1 } := by
  unfold createVersionRow at created
  split at created
  · cases created
  · split at created
    · cases created
    · simp only at created
      split at created
      · cases created
      · split at created
        · cases created
        · split at created
          · cases created
          · split at created
            · cases created
            · split at created
              · cases created
              · cases created
                exact ⟨rfl, rfl, rfl⟩

theorem createVersionRow_refused {agentId version : Nat} {arguments : VersionArguments}
    {failure : Failure}
    (refused : createVersionRow platform catalogue agentId version arguments = .error failure)
    (tools : ∀ id ∈ arguments.toolIds, (catalogue.toolById id).isSome = true)
    (skills : ∀ id ∈ arguments.skillIds, (catalogue.skillById id).isSome = true) :
    ∃ constraint, failure = .integrity constraint := by
  unfold createVersionRow at refused
  split at refused
  · rename_i id missing
    have known := tools id (List.mem_of_find?_eq_some missing)
    have unknown := List.find?_some missing
    simp only [Option.isNone_iff_eq_none] at unknown
    simp [unknown] at known
  · split at refused
    · rename_i id missing
      have known := skills id (List.mem_of_find?_eq_some missing)
      have unknown := List.find?_some missing
      simp only [Option.isNone_iff_eq_none] at unknown
      simp [unknown] at known
    · simp only at refused
      split at refused
      · cases refused
        exact ⟨_, rfl⟩
      · split at refused
        · cases refused
          exact ⟨_, rfl⟩
        · split at refused
          · cases refused
            exact ⟨_, rfl⟩
          · split at refused
            · cases refused
              exact ⟨_, rfl⟩
            · split at refused
              · cases refused
                exact ⟨_, rfl⟩
              · cases refused

theorem createAgent_evolves {arguments : AgentArguments} {result : Agent × AgentVersionRow}
    (created : createAgent platform catalogue arguments = .ok (result, after)) :
    Evolves discovered retargeted catalogue after := by
  unfold createAgent at created
  split at created
  · cases created
  · split at created
    · cases created
    · split at created
      · cases created
      · simp only at created
        split at created
        · cases created
        · rename_i version next made
          cases created
          obtain ⟨own, numbered, rfl⟩ := createVersionRow_spec made
          exact .agentOpened _ version .refl rfl rfl own numbered

theorem createAgent_failed {arguments : AgentArguments} {failure : Failure}
    (failed : createAgent platform catalogue arguments = .error (failure, after))
    (tools : ∀ id ∈ arguments.toolIds, (catalogue.toolById id).isSome = true)
    (skills : ∀ id ∈ arguments.skillIds, (catalogue.skillById id).isSome = true) :
    after = catalogue ∨ ∃ constraint, failure = .integrity constraint := by
  unfold createAgent at failed
  split at failed
  · cases failed
    exact .inl rfl
  · split at failed
    · cases failed
      exact .inl rfl
    · split at failed
      · cases failed
        exact .inl rfl
      · simp only at failed
        split at failed
        · rename_i refused
          cases failed
          exact .inr (createVersionRow_refused refused tools skills)
        · cases failed

theorem getAgent_found {agentId : Nat} {agent : Agent}
    (found : getAgent catalogue agentId = .ok agent) :
    agent ∈ catalogue.agents ∧ agent.id = agentId := by
  unfold getAgent at found
  split at found
  · rename_i stored
    cases found
    exact ⟨List.mem_of_find?_eq_some stored, by simpa using List.find?_some stored⟩
  · cases found

theorem createVersion_evolves {agentId : Nat} {changes : VersionChanges} {row : AgentVersionRow}
    (created : createVersion platform catalogue agentId changes = .ok (row, after)) :
    Evolves discovered retargeted catalogue after := by
  unfold createVersion at created
  split at created
  · cases created
  · rename_i agent found
    split at created
    · cases created
    · simp only at created
      split at created
      · cases created
      · rename_i version next made
        cases created
        obtain ⟨own, numbered, rfl⟩ := createVersionRow_spec made
        obtain ⟨listed, keyed⟩ := getAgent_found found
        have start : Evolves discovered retargeted catalogue catalogue := .refl
        have published := start.versionPublished row (by rw [own, numbered])
          ⟨agent, listed, keyed.trans own.symm⟩
        rw [own, numbered] at published
        exact published

theorem createVersion_failed {agentId : Nat} {changes : VersionChanges} {failure : Failure}
    (failed : createVersion platform catalogue agentId changes = .error (failure, after)) :
    after = catalogue := by
  unfold createVersion at failed
  split at failed
  · cases failed
    rfl
  · split at failed
    · cases failed
      rfl
    · simp only at failed
      split at failed
      · cases failed
        rfl
      · cases failed

theorem updateAgent_evolves {agentId : Nat} {identity : IdentityChanges}
    {changes : VersionChanges} {row : AgentVersionRow}
    (updated : updateAgent platform catalogue agentId identity changes = .ok (row, after)) :
    Evolves discovered retargeted catalogue after := by
  unfold updateAgent at updated
  split at updated
  · cases updated
  · refine .trans (.agentsRenamed _ .refl fun agent => ?_) (createVersion_evolves updated)
    split
    · exact ⟨rfl, rfl⟩
    · exact ⟨rfl, rfl⟩

theorem concluded_evolves {Result : Type} {kind name : String} {action : ImportAction}
    {detail : Option String} {attempt : Attempt Result} {result : DefinitionResult}
    (done : concluded kind name action detail attempt = .ok (result, after))
    (succeeded : ∀ outcome next, attempt = .ok (outcome, next) →
      Evolves discovered retargeted catalogue next)
    (failed : ∀ failure next, attempt = .error (failure, next) →
      next = catalogue ∨ ∃ constraint, failure = .integrity constraint) :
    Evolves discovered retargeted catalogue after := by
  cases attempt with
  | ok outcome =>
      cases done
      exact succeeded _ _ rfl
  | error refused =>
      obtain ⟨failure, next⟩ := refused
      rcases failed failure next rfl with same | ⟨constraint, same⟩
      · subst same
        cases failure with
        | app error =>
            cases done
            exact .refl
        | integrity constraint => cases done
        | raised kind =>
            cases done
            exact .refl
      · subst same
        cases done

theorem registerTool_failed {arguments : ToolArguments} {failure : Failure}
    (failed : registerTool platform catalogue arguments = .error (failure, after)) :
    after = catalogue := by
  unfold registerTool at failed
  split at failed
  · cases failed
    rfl
  · split at failed
    · cases failed
      rfl
    · cases failed
      rfl
    · split at failed
      · cases failed
        rfl
      · cases failed

theorem importTool_evolves {manifest : ToolManifest} {result : DefinitionResult}
    (imported : importTool platform catalogue manifest = .ok (result, after)) :
    Evolves discovered retargeted catalogue after := by
  unfold importTool at imported
  split at imported
  · cases imported
    exact .refl
  · split at imported
    · cases imported
      exact .refl
    · split at imported
      · cases imported
        exact .refl
      · refine concluded_evolves imported (fun tool next registered => ?_)
          (fun failure next failed => .inl ?_)
        · exact registerTool_evolves registered
        · exact registerTool_failed failed

theorem importSkill_evolves {manifest : SkillManifest} {result : DefinitionResult}
    (imported : importSkill catalogue manifest = .ok (result, after)) :
    Evolves discovered retargeted catalogue after := by
  unfold importSkill at imported
  split at imported
  · cases imported
    exact .refl
  · split at imported
    · cases imported
    · split at imported
      · simp only at imported
        split at imported
        · cases imported
        · cases imported
          exact .elsewhere .refl rfl rfl rfl (Nat.le_refl _)
      · split at imported
        · cases imported
        · split at imported
          · cases imported
          · rename_i created
            cases imported
            exact createSkill_evolves created

theorem resolved_tools (names : List String) :
    ∀ id ∈ (resolveTools catalogue names).1, (catalogue.toolById id).isSome = true := by
  intro id member
  obtain ⟨name, _, found⟩ := List.mem_filterMap.mp member
  obtain ⟨tool, named, rfl⟩ := Option.map_eq_some_iff.mp found
  simp only [Catalogue.toolById, List.find?_isSome]
  exact ⟨tool, List.mem_of_find?_eq_some named, by simp⟩

theorem resolved_skills (names : List String) :
    ∀ id ∈ (resolveSkills catalogue names).1, (catalogue.skillById id).isSome = true := by
  intro id member
  obtain ⟨name, _, found⟩ := List.mem_filterMap.mp member
  obtain ⟨skill, named, rfl⟩ := Option.map_eq_some_iff.mp found
  simp only [Catalogue.skillById, List.find?_isSome]
  exact ⟨skill, List.mem_of_find?_eq_some named, by simp⟩

theorem importAgent_evolves {manifest : AgentManifest} {result : DefinitionResult}
    (imported : importAgent platform catalogue manifest = .ok (result, after)) :
    Evolves discovered retargeted catalogue after := by
  unfold importAgent at imported
  split at imported
  · cases imported
    exact .refl
  · split at imported
    · cases imported
    · simp only at imported
      split at imported
      · cases imported
        exact .refl
      · split at imported
        -- The manifest's references were resolved against this catalogue.
        · refine concluded_evolves imported (fun pair next created => ?_)
            (fun failure next failed => ?_)
          · exact createAgent_evolves created
          · exact createAgent_failed failed (resolved_tools _) (resolved_skills _)
        · refine concluded_evolves imported (fun row next created => ?_)
            (fun failure next failed => .inl ?_)
          · exact createVersion_evolves created
          · exact createVersion_failed failed

theorem importEach_evolves {Manifest : Type}
    {import' : Catalogue → Manifest → Attempt DefinitionResult} {manifests : List Manifest}
    {results : List DefinitionResult}
    (each : ∀ catalogue manifest result after, import' catalogue manifest = .ok (result, after) →
      Evolves discovered retargeted catalogue after)
    (imported : importEach import' manifests catalogue = .ok (results, after)) :
    Evolves discovered retargeted catalogue after := by
  induction manifests generalizing catalogue results with
  | nil =>
      cases imported
      exact .refl
  | cons manifest rest ih =>
      simp only [importEach] at imported
      split at imported
      · cases imported
      · rename_i one
        split at imported
        · cases imported
        · rename_i later
          cases imported
          exact (each _ _ _ _ one).trans (ih later)

theorem importAll_evolves {manifests : Manifests} {results : List DefinitionResult}
    (imported : importAll platform catalogue manifests = .ok (results, after)) :
    Evolves discovered retargeted catalogue after := by
  unfold importAll at imported
  split at imported
  · cases imported
  · rename_i tools
    split at imported
    · cases imported
    · rename_i skills
      split at imported
      · cases imported
      · rename_i agents
        cases imported
        have first : Evolves discovered retargeted _ _ :=
          importEach_evolves (fun _ _ _ _ one => importTool_evolves one) tools
        have second : Evolves discovered retargeted _ _ :=
          importEach_evolves (fun _ _ _ _ one => importSkill_evolves one) skills
        exact (first.trans second).trans
          (importEach_evolves (fun _ _ _ _ one => importAgent_evolves one) agents)

end Services

end AiPlatform.Registries
