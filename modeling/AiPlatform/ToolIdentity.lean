import AiPlatform.AgentVersions

/-!
What can change about a tool while its row exists. The type, the name and the
server never change. The schema of a tool changes only when the server it was
discovered from is discovered again; what the tool calls changes only then or
when an operator's update gives it an endpoint or a configuration.
-/

namespace AiPlatform.Registries

open Agents (Json Dict ToolType RiskLevel McpServer Skill Agent AgentVersionRow truthy strip)

theorem rows_step {platform : Platform} {catalogue after : Catalogue} {op : Op}
    (stepped : step platform catalogue op = some after) :
    catalogue.nextId ≤ after.nextId ∧ ∀ tool ∈ after.tools, catalogue.nextId ≤ tool.id ∨
      ∃ old ∈ catalogue.tools, Rewritten op.discovers op.retargets old tool := by
  rcases step_cases stepped with evolves | ⟨servers, _, rfl⟩ | ⟨skillId, _, rfl⟩
  · exact ⟨evolves.nextId_le, evolves.rows⟩
  · exact ⟨Nat.le_refl _, fun tool member =>
      .inr ⟨tool, (List.mem_filter.mp member).1, .refl tool⟩⟩
  · exact ⟨Nat.le_refl _, fun tool member => .inr ⟨tool, member, .refl tool⟩⟩

/-- The servers that a run discovers and the tools it gives an endpoint or a
configuration are at most these. -/
def Within (discovered retargeted : Nat → Prop) (_ : Catalogue) (op : Op) : Prop :=
  (∀ server, op.discovers server → discovered server) ∧
    ∀ tool, op.retargets tool → retargeted tool

theorem rows_run {platform : Platform} {discovered retargeted : Nat → Prop}
    {earlier later : Catalogue}
    (rest : History (step platform) (Within discovered retargeted) earlier later) :
    earlier.nextId ≤ later.nextId ∧ ∀ tool ∈ later.tools, earlier.nextId ≤ tool.id ∨
      ∃ old ∈ earlier.tools, Rewritten discovered retargeted old tool := by
  refine rest.keeps (fun catalogue => earlier.nextId ≤ catalogue.nextId ∧
    ∀ tool ∈ catalogue.tools, earlier.nextId ≤ tool.id ∨
      ∃ old ∈ earlier.tools, Rewritten discovered retargeted old tool) ?_ ?_
  · exact ⟨Nat.le_refl _, fun tool member => .inr ⟨tool, member, .refl tool⟩⟩
  · rintro catalogue op after ⟨discovers, retargets⟩ stepped ⟨grown, rows⟩
    obtain ⟨more, rewritten⟩ := rows_step stepped
    refine ⟨Nat.le_trans grown more, fun tool member => ?_⟩
    rcases rewritten tool member with new | ⟨middle, listed, last⟩
    · exact .inl (Nat.le_trans grown new)
    · have again := last.weaken discovers retargets
      rcases rows middle listed with new | ⟨old, stored, first⟩
      · exact .inl (again.id ▸ new)
      · exact .inr ⟨old, stored, first.trans again⟩

def described : ToolChanges :=
  ⟨none, some "Looks a person up by name.", none, none, none, none, none, none, none⟩

def describedLookup : ToolRow := { lookup with description := "Looks a person up by name." }

def files : McpServer := ⟨0, "files", "http://mcp-files:8000/", none, true⟩

def offering (schema : Dict) : McpReply :=
  .ok [("tools", .arr [.obj [("name", .str "read"), ("inputSchema", .obj schema)]])]

def readTool (schema : Dict) : ToolRow :=
  { id := 1, name := "files.read", displayName := "read", description := "read", type := .mcp
    parametersSchema := .obj schema, requiredPermission := "tool.execute", riskLevel := .high
    endpoint := some "http://mcp-files:8000/", config := [("mcp_tool_name", .str "read")]
    credentialsEncrypted := none, enabled := false, timeoutSeconds := 30
    mcpServerId := some 0 }

def serving (tools : List ToolRow) (nextId : Nat) : Catalogue := ⟨tools, [files], [], [], [], nextId⟩

def pathSchema : Dict := [("properties", .obj [("path", .null)])]

def commandSchema : Dict := [("properties", .obj [("command", .null)])]

theorem serving_reached :
    History (step site) (fun _ _ => True) Catalogue.empty (serving [readTool pathSchema] 2) :=
  .next (.discover 0 (offering pathSchema))
    (.next (.registerServer ⟨"files", "http://mcp-files:8000/", none⟩) .start trivial rfl)
    trivial rfl

end AiPlatform.Registries
