import AiPlatform.McpRegistry

/-!
`DefinitionImporter` of `app/services/definitions.py`: tools, then skills, then
agents. A manifest is given by the values read from its file after Python's
conversions. An empty text and a zero count as missing, and `malformed` says that
a conversion raises; `unlistable` says that the names of an agent's tools or
skills are not a list, which is found outside the part that reports errors. An error of a service is
reported against the manifest and the import goes on with what the service left
in the session; after a statement the database refused, the next one raises.
-/

namespace AiPlatform.Registries

open Agents (Json Dict ToolType RiskLevel McpServer Skill Agent AgentVersionRow truthy strip)

inductive ImportAction
  | created | updated | unchanged | skipped
  deriving DecidableEq

structure DefinitionResult where
  kind : String
  name : String
  action : ImportAction
  detail : Option String

structure ToolManifest where
  filename : String
  name : String
  displayName : Option String
  description : Option String
  toolType : Option String
  parametersSchema : Dict
  requiredPermission : Option String
  riskLevel : Option String
  endpoint : Option String
  config : Dict
  timeoutSeconds : Option Nat
  /-- The endpoint is text, or there is none. -/
  typed : Bool
  malformed : Bool

structure SkillManifest where
  filename : String
  name : String
  displayName : Option String
  description : Option String
  instructions : Option String
  version : Option String
  requiredTools : List String
  requiredKnowledge : List String
  parameters : Dict
  requiredPermission : Option String
  /-- The permission is text, or there is none. -/
  typed : Bool
  /-- The parameters are not a mapping, which only a new skill looks at. -/
  unmapped : Bool
  malformed : Bool

structure AgentManifest where
  filename : String
  slug : String
  displayName : Option String
  description : Option String
  /-- The description is text, or there is none. -/
  typed : Bool
  systemPrompt : Option String
  model : Option String
  temperature : Option Rat
  maxIterations : Option Int
  tools : List String
  skills : List String
  knowledgeBases : List String
  memoryEnabled : Bool
  unlistable : Bool
  malformed : Bool

def reason : Failure → String
  | .app ⟨.conflict, _, _⟩ => "already exists"
  | .app ⟨_, message, _⟩ => message
  | .integrity constraint => constraint
  | .raised kind => kind

/-- `value or default`, for a text. -/
def orElse (value : Option String) (default : String) : String :=
  (value.filter truthy).getD default

def ToolManifest.arguments (manifest : ToolManifest) : ToolArguments where
  name := manifest.name
  displayName := orElse manifest.displayName manifest.name
  description := orElse manifest.description ""
  toolType := orElse manifest.toolType "INTERNAL"
  parametersSchema := manifest.parametersSchema
  requiredPermission := orElse manifest.requiredPermission ""
  riskLevel := orElse manifest.riskLevel "LOW"
  endpoint := manifest.endpoint
  config := manifest.config
  credentials := none
  timeoutSeconds := (manifest.timeoutSeconds.filter (· ≠ 0)).getD 30
  typed := manifest.typed

def SkillManifest.arguments (manifest : SkillManifest) : SkillArguments where
  name := manifest.name
  displayName := orElse manifest.displayName manifest.name
  description := orElse manifest.description ""
  instructions := orElse manifest.instructions ""
  version := orElse manifest.version "1.0"
  requiredTools := manifest.requiredTools
  requiredKnowledge := manifest.requiredKnowledge
  parameters := manifest.parameters
  requiredPermission := manifest.requiredPermission
  typed := manifest.typed

def SkillManifest.apply (manifest : SkillManifest) (skill : SkillRow) : SkillRow :=
  { skill with
    displayName := orElse manifest.displayName skill.displayName
    description := orElse manifest.description skill.description
    instructions := orElse manifest.instructions skill.instructions
    version := orElse manifest.version skill.version
    requiredTools := manifest.requiredTools
    requiredKnowledge := manifest.requiredKnowledge }

/-- What became of one manifest, and the catalogue the import goes on with. A
refused statement ends the import. -/
def concluded {Result : Type} (kind name : String) (action : ImportAction)
    (detail : Option String) : Attempt Result → Attempt DefinitionResult
  | .ok (_, after) => .ok (⟨kind, name, action, detail⟩, after)
  | .error (.integrity constraint, after) => .error (.integrity constraint, after)
  | .error (failure, after) => .ok (⟨kind, name, .skipped, some (reason failure)⟩, after)

def importTool (platform : Platform) (catalogue : Catalogue) (manifest : ToolManifest) :
    Attempt DefinitionResult :=
  if !truthy manifest.name then
    .ok (⟨"tool", manifest.filename, .skipped, some "no name"⟩, catalogue)
  else if (catalogue.toolByName manifest.name).isSome then
    .ok (⟨"tool", manifest.name, .unchanged, some "already registered"⟩, catalogue)
  else if manifest.malformed then
    .ok (⟨"tool", manifest.name, .skipped, some (reason (.raised "ValueError"))⟩, catalogue)
  else
    concluded "tool" manifest.name .created none
      (registerTool platform catalogue manifest.arguments)

def importSkill (catalogue : Catalogue) (manifest : SkillManifest) : Attempt DefinitionResult :=
  if !truthy manifest.name then
    .ok (⟨"skill", manifest.filename, .skipped, some "no name"⟩, catalogue)
  else if manifest.malformed then .error (.raised "ValueError", catalogue)
  else
    match catalogue.skillByName manifest.name with
    | some existing =>
        let after := { catalogue with
          skills := catalogue.skills.map fun skill =>
            if skill.id = existing.id then manifest.apply skill else skill }
        if !(manifest.displayName.all (within 255) && manifest.version.all (within 32)) then
          .error (.integrity "skills", after)
        else .ok (⟨"skill", manifest.name, .updated, none⟩, after)
    | none =>
        if manifest.unmapped then .error (.raised "ValueError", catalogue)
        else
          match createSkill catalogue manifest.arguments with
          | .error failed => .error failed
          | .ok (_, after) => .ok (⟨"skill", manifest.name, .created, none⟩, after)

/-- `_resolve_tools`: the ids of the names that are known, and the others. -/
def resolveTools (catalogue : Catalogue) (names : List String) : List Nat × List String :=
  (names.filterMap fun name => (catalogue.toolByName name).map (·.id),
    (names.filter fun name => (catalogue.toolByName name).isNone).map ("tool " ++ ·))

def resolveSkills (catalogue : Catalogue) (names : List String) : List Nat × List String :=
  (names.filterMap fun name => (catalogue.skillByName name).map (·.id),
    (names.filter fun name => (catalogue.skillByName name).isNone).map ("skill " ++ ·))

def AgentManifest.arguments (platform : Platform) (catalogue : Catalogue)
    (manifest : AgentManifest) : VersionArguments where
  systemPrompt := orElse manifest.systemPrompt ""
  model := orElse manifest.model "enterprise-chat"
  temperature := manifest.temperature.getD platform.defaultTemperature
  maxIterations := (manifest.maxIterations.filter (· ≠ 0)).getD 10
  toolIds := (resolveTools catalogue manifest.tools).1
  skillIds := (resolveSkills catalogue manifest.skills).1
  knowledgeBaseIds := manifest.knowledgeBases
  memoryEnabled := manifest.memoryEnabled

def VersionArguments.changes (arguments : VersionArguments) : VersionChanges where
  systemPrompt := some arguments.systemPrompt
  model := some arguments.model
  temperature := some arguments.temperature
  maxIterations := some arguments.maxIterations
  toolIds := some arguments.toolIds
  skillIds := some arguments.skillIds
  knowledgeBaseIds := some arguments.knowledgeBaseIds
  memoryEnabled := some arguments.memoryEnabled

def importAgent (platform : Platform) (catalogue : Catalogue) (manifest : AgentManifest) :
    Attempt DefinitionResult :=
  if !truthy manifest.slug then
    .ok (⟨"agent", manifest.filename, .skipped, some "no slug"⟩, catalogue)
  else if manifest.unlistable then .error (.raised "TypeError", catalogue)
  else
    let unresolved := (resolveTools catalogue manifest.tools).2 ++
      (resolveSkills catalogue manifest.skills).2
    let detail := if unresolved.isEmpty then none
      else some ("references not registered here: " ++ String.intercalate ", " unresolved)
    let arguments := manifest.arguments platform catalogue
    if manifest.malformed then
      .ok (⟨"agent", manifest.slug, .skipped, some (reason (.raised "ValueError"))⟩, catalogue)
    else
      match catalogue.agentBySlug manifest.slug with
      | none =>
          concluded "agent" manifest.slug .created detail
            (createAgent platform catalogue
              { toVersionArguments := arguments, slug := manifest.slug
                displayName := orElse manifest.displayName manifest.slug
                description := manifest.description, typed := manifest.typed })
      | some existing =>
          concluded "agent" manifest.slug .updated detail
            (createVersion platform catalogue existing.id arguments.changes)

def importEach {Manifest : Type} (import' : Catalogue → Manifest → Attempt DefinitionResult) :
    List Manifest → Catalogue → Attempt (List DefinitionResult)
  | [], catalogue => .ok ([], catalogue)
  | manifest :: rest, catalogue =>
      match import' catalogue manifest with
      | .error failed => .error failed
      | .ok (result, after) =>
          match importEach import' rest after with
          | .error failed => .error failed
          | .ok (results, final) => .ok (result :: results, final)

structure Manifests where
  tools : List ToolManifest
  skills : List SkillManifest
  agents : List AgentManifest

def importAll (platform : Platform) (catalogue : Catalogue) (manifests : Manifests) :
    Attempt (List DefinitionResult) :=
  match importEach (importTool platform) manifests.tools catalogue with
  | .error failed => .error failed
  | .ok (tools, withTools) =>
      match importEach importSkill manifests.skills withTools with
      | .error failed => .error failed
      | .ok (skills, withSkills) =>
          match importEach (importAgent platform) manifests.agents withSkills with
          | .error failed => .error failed
          | .ok (agents, final) => .ok (tools ++ skills ++ agents, final)

end AiPlatform.Registries
