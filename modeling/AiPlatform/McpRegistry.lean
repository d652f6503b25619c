import AiPlatform.AgentRegistry

/-!
`McpRegistryService` of `app/services/agent_registry.py`. The reply of a server
to `tools/list` is any result object, or an error. Discovery walks the offered
entries with the rows of the session in view: those of the database and those
that wait to be flushed.
-/

namespace AiPlatform.Registries

open Agents (Json Dict ToolType RiskLevel McpServer Skill Agent AgentVersionRow truthy strip)

/-- Why `call_mcp` raised `McpError`, or the result object. -/
abbrev McpReply := Except String Dict

structure DiscoveryResult where
  serverName : String
  found : Nat
  created : Nat
  updated : Nat
  detail : Option String

/-- `dict.get(key)`, where a value that is not true counts as missing. -/
def present (fields : Dict) (key : String) : Option Json :=
  (fields.get key).filter Json.truthy

def pyStr (platform : Platform) : Json → String
  | .str text => text
  | value => platform.str value

/-- `str(fields.get(key) or default)` -/
def textOr (platform : Platform) (fields : Dict) (key default : String) : String :=
  ((present fields key).map (pyStr platform)).getD default

def iterate : Json → Except Failure (List Json)
  | .arr items => .ok items
  | .obj fields => .ok (fields.map fun field => .str field.1)
  | .str text => .ok (text.toList.map fun c => .str (String.singleton c))
  | _ => .error (.raised "TypeError")

def schemaIsUsable : Json → Bool
  | .obj fields =>
      ["properties", "$ref", "$defs", "oneOf", "anyOf"].any fun key => (present fields key).isSome
  | _ => false

/-- What the loop of `discover` carries. -/
structure Discovering where
  rows : List ToolRow
  nextId : Nat
  created : Nat
  updated : Nat
  unusable : List String
  taken : List String

def discoveredTool (platform : Platform) (server : McpServer) (id : Nat) (entry : Dict)
    (remoteName : String) (schema : Json) : ToolRow where
  id := id
  name := s!"{server.name}.{remoteName}"
  displayName := remoteName
  description := textOr platform entry "description" remoteName
  type := .mcp
  parametersSchema := schema
  requiredPermission := "tool.execute"
  riskLevel := .high
  endpoint := some server.endpoint
  config := [("mcp_tool_name", .str remoteName)]
  credentialsEncrypted := none
  enabled := false
  timeoutSeconds := 30
  mcpServerId := some server.id

def refresh (platform : Platform) (server : McpServer) (entry : Dict) (schema : Json)
    (tool : ToolRow) : ToolRow :=
  { tool with
    description := textOr platform entry "description" tool.description
    parametersSchema := if schema.truthy then schema else tool.parametersSchema
    endpoint := some server.endpoint }

def owns (server : McpServer) (name : String) (tool : ToolRow) : Bool :=
  tool.mcpServerId = some server.id && tool.name = name

/-- One round of the loop. Names are taken by rows of the database, which do
not include the rows that wait to be flushed. -/
def discoverEntry (platform : Platform) (catalogue : Catalogue) (server : McpServer)
    (state : Discovering) (entry : Dict) : Discovering :=
  let remoteName := strip (textOr platform entry "name" "")
  if !truthy remoteName then state
  else
    let localName := s!"{server.name}.{remoteName}"
    let existing := state.rows.any (owns server localName)
    if !existing && (catalogue.toolByName localName).isSome then
      { state with taken := state.taken ++ [localName] }
    else
      let schema := (present entry "inputSchema").getD (.obj [])
      let unusable :=
        if schemaIsUsable schema then state.unusable else state.unusable ++ [localName]
      if existing then
        { state with
          rows := state.rows.map fun tool =>
            if owns server localName tool then refresh platform server entry schema tool else tool
          updated := state.updated + 1, unusable := unusable }
      else
        { state with
          rows := state.rows ++
            [discoveredTool platform server state.nextId entry remoteName schema]
          nextId := state.nextId + 1, created := state.created + 1, unusable := unusable }

def discoverEntries (platform : Platform) (catalogue : Catalogue) (server : McpServer) :
    List Json → Discovering → Except Failure Discovering
  | [], state => .ok state
  | .obj entry :: rest, state =>
      discoverEntries platform catalogue server rest
        (discoverEntry platform catalogue server state entry)
  | _ :: _, _ => .error (.raised "AttributeError")

/-- `', '.join(sorted(names)[:5])`, with the mark of a longer list. -/
def listed (names : List String) : String :=
  String.intercalate ", " ((names.mergeSort fun left right => left ≤ right).take 5) ++
    if 5 < names.length then "…" else ""

def discoveryDetail (state : Discovering) : Option String :=
  let details :=
    (if state.created = 0 then [] else
      [s!"{state.created} new tool(s) catalogued, disabled and marked HIGH until reviewed."]) ++
    (if state.taken.isEmpty then [] else
      [s!"{state.taken.length} tool(s) skipped — the name is already taken on this platform: " ++
        listed state.taken ++ ". Rename or remove the existing tool, then discover again."]) ++
    (if state.unusable.isEmpty then [] else
      [s!"{state.unusable.length} tool(s) declare no parameters and will be called with no " ++
        "arguments: " ++ listed state.unusable ++
        ". This is the server's own schema; check its version."])
  if details.isEmpty then none else some (String.intercalate " " details)

/-- `discover`: catalogues the tools of a server and grants nothing. -/
def discover (platform : Platform) (catalogue : Catalogue) (serverId : Nat) (reply : McpReply) :
    Attempt DiscoveryResult :=
  match catalogue.serverById serverId with
  | none => .error (.app (notFoundError s!"No MCP server with id {serverId}."), catalogue)
  | some server =>
      match reply with
      | .error reason =>
          .ok (⟨server.name, 0, 0, 0, some s!"Discovery failed: {reason}"⟩, catalogue)
      | .ok result =>
          match iterate ((present result "tools").getD (.arr [])) with
          | .error failure => .error (failure, catalogue)
          | .ok offered =>
              match discoverEntries platform catalogue server offered
                  ⟨catalogue.tools, catalogue.nextId, 0, 0, [], []⟩ with
              | .error failure => .error (failure, catalogue)
              | .ok state =>
                  .ok (⟨server.name, offered.length, state.created, state.updated,
                      discoveryDetail state⟩,
                    { catalogue with tools := state.rows, nextId := state.nextId })

structure ServerArguments where
  name : String
  endpoint : String
  credentials : Option String

def registerServer (platform : Platform) (catalogue : Catalogue) (arguments : ServerArguments) :
    Attempt McpServer :=
  if (catalogue.serverByName arguments.name).isSome then
    .error (.app (conflictError s!"An MCP server named '{arguments.name}' already exists." []),
      catalogue)
  else
    let server : McpServer :=
      { id := catalogue.nextId, name := arguments.name, endpoint := arguments.endpoint
        credentialsEncrypted := credential platform arguments.credentials, enabled := true }
    .ok (server, { catalogue with
      servers := catalogue.servers ++ [server], nextId := catalogue.nextId + 1 })

/-- `delete_server`, with the tools discovered from it. -/
def deleteServer (catalogue : Catalogue) (serverId : Nat) : Attempt Unit :=
  match catalogue.serverById serverId with
  | none => .error (.app (notFoundError s!"No MCP server with id {serverId}."), catalogue)
  | some _ =>
      let dropped := catalogue.dropTools fun tool => tool.mcpServerId = some serverId
      .ok ((), { dropped with servers := dropped.servers.filter fun other => other.id ≠ serverId })

def manifestServer (catalogue : Catalogue) (name : String) : McpServer × Catalogue :=
  let endpoint := s!"http://mcp-{name}:8000/"
  match catalogue.serverByName name with
  | some server =>
      (server, { catalogue with
        servers := catalogue.servers.map fun other =>
          if other.id = server.id then { other with endpoint := endpoint } else other })
  | none =>
      let server : McpServer := ⟨catalogue.nextId, name, endpoint, none, true⟩
      (server, { catalogue with
        servers := catalogue.servers ++ [server], nextId := catalogue.nextId + 1 })

/-- `import_manifests`, with what each server replies to its discovery. -/
def importManifests (platform : Platform) :
    List (Dict × McpReply) → Catalogue → Attempt (List DiscoveryResult)
  | [], catalogue => .ok ([], catalogue)
  | (spec, reply) :: rest, catalogue =>
      let name := strip (textOr platform spec "name" "")
      if !truthy name then importManifests platform rest catalogue
      else
        let (server, registered) := manifestServer catalogue name
        match discover platform registered server.id reply with
        | .error failed => .error failed
        | .ok (result, after) =>
            match importManifests platform rest after with
            | .error failed => .error failed
            | .ok (results, final) => .ok (result :: results, final)

end AiPlatform.Registries
