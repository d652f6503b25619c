import AiPlatform.ForeignKeys
import AiPlatform.ModelCatalogue

/-!
Deleting a model and deleting an agent, with the foreign keys of the tables that
refer to them. `delete_model` looks for active deployments first; `delete_agent`
looks for nothing. What neither looks for is left to the database, which refuses
with an integrity error that no service turns into one of its own. The rows of a
table stand in the order they are asked for in; of the tables that only lose a
reference the other columns are left out.
-/

namespace AiPlatform.Deletions

open Agents (Agent AgentVersionRow AgentRun AgentRunEvent ToolExecution ToolCall Dict)
open Deployments (DeploymentState)
open Serving (Model ModelAlias DeploymentRow)

/-- `ACTIVE_STATES` -/
def active : DeploymentState → Bool
  | .creating | .starting | .healthCheck | .running => true
  | .requested | .validating | .scheduling | .failed | .stopping | .stopped => false

structure ModelFile where
  id : Nat
  modelId : Nat
  relativePath : String

/-- A row that the deletion of an agent leaves without one. -/
structure Owned where
  id : Nat
  agentId : Option Nat

structure VoiceSession where
  id : Nat
  agentId : Nat

structure Registry where
  models : List Model
  files : List ModelFile
  aliases : List ModelAlias
  deployments : List DeploymentRow
  agents : List Agent
  versions : List AgentVersionRow
  runs : List AgentRun
  events : List AgentRunEvent
  executions : List ToolExecution
  voiceSessions : List VoiceSession
  conversations : List Owned
  memories : List Owned

def fileModel : ForeignKey ModelFile Nat where
  table := "model_files"
  column file := some file.modelId
  onDelete := .cascade
  cleared := nofun

def aliasModel : ForeignKey ModelAlias Nat where
  table := "model_aliases"
  column row := some row.modelId
  onDelete := .cascade
  cleared := nofun

/-- The session sets the column to `NULL` before it deletes the model, which
`NOT NULL` refuses where `RESTRICT` would. -/
def deploymentModel : ForeignKey DeploymentRow Nat where
  table := "model_deployments"
  column deployment := some deployment.modelId
  onDelete := .restrict
  cleared := nofun

def versionAgent : ForeignKey AgentVersionRow Nat where
  table := "agent_versions"
  column version := some version.agentId
  onDelete := .cascade
  cleared := nofun

def runAgent : ForeignKey AgentRun Nat where
  table := "agent_runs"
  column run := some run.agentId
  onDelete := .restrict
  cleared := nofun

def runVersion : ForeignKey AgentRun Nat where
  table := "agent_runs"
  column run := some run.agentVersionId
  onDelete := .restrict
  cleared := nofun

def sessionAgent : ForeignKey VoiceSession Nat where
  table := "voice_sessions"
  column session := some session.agentId
  onDelete := .restrict
  cleared := nofun

/-- `conversations.agent_id` and `memory_entries.agent_id` -/
def ownedAgent (table : String) : ForeignKey Owned Nat where
  table := table
  column := Owned.agentId
  onDelete := .setNull fun row => { row with agentId := none }
  cleared := by
    rintro clear same row
    cases same
    rfl

/-- What the database keeps of a state: every reference is to a row, and the
deployments are told apart by their ids. -/
structure Registry.Sound (registry : Registry) : Prop where
  files : fileModel.Holds (registry.models.map Model.id) registry.files
  aliases : aliasModel.Holds (registry.models.map Model.id) registry.aliases
  deployments : deploymentModel.Holds (registry.models.map Model.id) registry.deployments
  deploymentKeys : (registry.deployments.map fun deployment => deployment.id).Nodup
  versions : versionAgent.Holds (registry.agents.map Agent.id) registry.versions
  runAgents : runAgent.Holds (registry.agents.map Agent.id) registry.runs
  runVersions : runVersion.Holds (registry.versions.map AgentVersionRow.id) registry.runs
  voiceSessions : sessionAgent.Holds (registry.agents.map Agent.id) registry.voiceSessions
  conversations :
    (ownedAgent "conversations").Holds (registry.agents.map Agent.id) registry.conversations
  memories : (ownedAgent "memory_entries").Holds (registry.agents.map Agent.id) registry.memories

/-- `str` of an id, and `repr` of a text. -/
structure Texts where
  idText : Nat → String
  distinct : Function.Injective idText
  repr : String → String

namespace Registry

variable (texts : Texts)

def getModel (registry : Registry) (modelId : Nat) : Except Refusal Model :=
  match registry.models.find? fun model => model.id = modelId with
  | some model => .ok model
  | none => .error (.app (notFoundError s!"No model with id {texts.idText modelId}."))

def getAgent (registry : Registry) (agentId : Nat) : Except Refusal Agent :=
  match registry.agents.find? fun agent => agent.id = agentId with
  | some agent => .ok agent
  | none => .error (.app (notFoundError s!"No agent with id {texts.idText agentId}."))

def activeForModel (registry : Registry) (modelId : Nat) : List DeploymentRow :=
  registry.deployments.filter fun deployment =>
    deployment.modelId = modelId && active deployment.state

def eraseModel (registry : Registry) (modelId : Nat) : Except Refusal Registry := do
  let files ← fileModel.delete [modelId] registry.files
  let deployments ← deploymentModel.delete [modelId] registry.deployments
  let aliases ← aliasModel.delete [modelId] registry.aliases
  return { registry with
    models := registry.models.filter fun model => model.id ≠ modelId
    files, deployments, aliases }

def versionsOf (registry : Registry) (agentId : Nat) : List Nat :=
  (registry.versions.filter fun version => version.agentId = agentId).map AgentVersionRow.id

def eraseAgent (registry : Registry) (agentId : Nat) : Except Refusal Registry := do
  let runs ← runVersion.delete (registry.versionsOf agentId) registry.runs
  let versions ← versionAgent.delete [agentId] registry.versions
  let runs ← runAgent.delete [agentId] runs
  let voiceSessions ← sessionAgent.delete [agentId] registry.voiceSessions
  let conversations ← (ownedAgent "conversations").delete [agentId] registry.conversations
  let memories ← (ownedAgent "memory_entries").delete [agentId] registry.memories
  return { registry with
    agents := registry.agents.filter fun agent => agent.id ≠ agentId
    versions, runs, voiceSessions, conversations, memories }

def deleteModel (registry : Registry) (modelId : Nat) : Except Refusal Registry := do
  let model ← registry.getModel texts modelId
  let running := registry.activeForModel modelId
  raiseIf (running ≠ []) (.app (conflictError
    s!"{texts.repr model.name} has {running.length} active deployment(s). Stop them first."
    (running.map fun deployment => ("deployments", texts.idText deployment.id))))
  registry.eraseModel modelId

def deleteAgent (registry : Registry) (agentId : Nat) : Except Refusal Registry := do
  let _ ← registry.getAgent texts agentId
  registry.eraseAgent agentId

end Registry

inductive Target
  | model (id : Nat)
  | agent (id : Nat)

def Registry.request (texts : Texts) (registry : Registry) (target : Target) :
    Except Refusal Unit × Registry :=
  let deleted := match target with
    | .model id => registry.deleteModel texts id
    | .agent id => registry.deleteAgent texts id
  match deleted with
  | .ok after => (.ok (), after)
  | .error refusal => (.error refusal, registry)

/-- `GET /runs/{run_id}` -/
structure RunDetail where
  run : AgentRun
  agentSlug : String
  pending : Option (String × Dict)
  events : List AgentRunEvent
  toolCalls : List ToolExecution

def Registry.runDetail (texts : Texts) (registry : Registry) (runId : Nat) : Except Refusal RunDetail :=
  match registry.runs.find? fun run => run.id = runId with
  | none => .error (.app (notFoundError s!"No run with id {texts.idText runId}."))
  | some run => do
      let agent ← registry.getAgent texts run.agentId
      let calls := registry.executions.filter fun execution => execution.runId = run.id
      let pending := if run.state = .waitingForApproval then
          calls.find? fun execution => execution.approvalState = .pending
        else none
      return {
        run := run
        agentSlug := agent.slug
        pending := pending.map fun execution => (execution.toolName, execution.arguments)
        events := registry.events.filter fun event => event.runId = runId
        toolCalls := calls }

/-- How much of what still refers to a row a conflict has to name. -/
inductive Naming
  | one | all

def Naming.Names : Naming → (named referring : List String) → Prop
  | .one, named, referring => named ≠ [] ∧ named ⊆ referring
  | .all, named, referring => named ≠ [] ∧ named ⊆ referring ∧ referring ⊆ named

namespace Registry

def Has (registry : Registry) : Target → Prop
  | .model id => id ∈ registry.models.map Model.id
  | .agent id => id ∈ registry.agents.map Agent.id

def referring (texts : Texts) (registry : Registry) : Target → List String
  | .model id => (registry.deployments.filter fun deployment =>
      deployment.modelId = id).map fun deployment => texts.idText deployment.id
  | .agent id => (registry.runs.filter fun run =>
      run.agentId = id || run.agentVersionId ∈ registry.versionsOf id).map
        (fun run => texts.idText run.id) ++
      (registry.voiceSessions.filter fun session =>
        session.agentId = id).map fun session => texts.idText session.id

def Unreferred (registry : Registry) : Target → Prop
  | .model id => (∀ file ∈ registry.files, file.modelId ≠ id) ∧
      (∀ row ∈ registry.aliases, row.modelId ≠ id) ∧
      ∀ deployment ∈ registry.deployments, deployment.modelId ≠ id
  | .agent id => (∀ version ∈ registry.versions, version.agentId ≠ id) ∧
      (∀ run ∈ registry.runs, run.agentId ≠ id) ∧
      (∀ session ∈ registry.voiceSessions, session.agentId ≠ id) ∧
      (∀ row ∈ registry.conversations, row.agentId ≠ some id) ∧
      ∀ row ∈ registry.memories, row.agentId ≠ some id

structure Deleted (texts : Texts) (before : Registry) (target : Target) (after : Registry) :
    Prop where
  sound : after.Sound
  gone : ¬ after.Has target
  unreferred : after.Unreferred target
  readable : ∀ run ∈ after.runs, ∃ detail,
    after.runDetail texts run.id = .ok detail ∧ before.runDetail texts run.id = .ok detail

/-- The deletion succeeds, or is refused with a conflict that names what is in its
way. A target that is not there may be refused in any words. -/
def Settles (texts : Texts) (naming : Naming) (registry : Registry) (target : Target) : Prop :=
  match registry.request texts target with
  | (.ok _, after) => registry.Deleted texts target after
  | (.error (.app error), after) => after = registry ∧
      (registry.Has target → error.kind = .conflict ∧
        naming.Names (error.details.map Prod.snd) (registry.referring texts target))
  | (.error (.constraint _), _) | (.error (.raised _), _) => False

/-- A model without deployments or with active ones, which are all it has where
the conflict is to name all; an agent that neither a run nor a voice session
refers to. -/
def Guarded (naming : Naming) (registry : Registry) : Target → Prop
  | .model id => (∀ deployment ∈ registry.deployments, deployment.modelId ≠ id) ∨
      (∃ deployment ∈ registry.deployments, deployment.modelId = id ∧ active deployment.state) ∧
        (naming = .all → ∀ deployment ∈ registry.deployments,
          deployment.modelId = id → active deployment.state)
  | .agent id => (∀ run ∈ registry.runs, run.agentId ≠ id) ∧
      (∀ run ∈ registry.runs, run.agentVersionId ∉ registry.versionsOf id) ∧
      ∀ session ∈ registry.voiceSessions, session.agentId ≠ id

theorem erased_keys {Row : Type} (key : Row → Nat) (rows : List Row) (gone : Nat) :
    ∀ kept ∈ (rows.map key).filter fun kept => kept ∉ [gone],
      kept ∈ (rows.filter fun row => key row ≠ gone).map key := by
  intro kept member
  obtain ⟨member, unlike⟩ := List.mem_filter.mp member
  obtain ⟨row, there, rfl⟩ := List.mem_map.mp member
  exact List.mem_map_of_mem (List.mem_filter.mpr ⟨there, by simpa using unlike⟩)

theorem erased_gone {Row : Type} (key : Row → Nat) (rows : List Row) (gone : Nat) :
    gone ∉ (rows.filter fun row => key row ≠ gone).map key := by
  intro member
  obtain ⟨row, there, same⟩ := List.mem_map.mp member
  simpa [same] using (List.mem_filter.mp there).2

variable {texts : Texts} {registry after : Registry} {modelId agentId : Nat}

theorem Sound.unreferred (sound : registry.Sound) {target : Target}
    (gone : ¬ registry.Has target) : registry.Unreferred target := by
  cases target with
  | model id =>
      exact ⟨fun file member same => gone (sound.files file member id (congrArg some same)),
        fun row member same => gone (sound.aliases row member id (congrArg some same)),
        fun deployment member same =>
          gone (sound.deployments deployment member id (congrArg some same))⟩
  | agent id =>
      exact ⟨fun version member same => gone (sound.versions version member id (congrArg some same)),
        fun run member same => gone (sound.runAgents run member id (congrArg some same)),
        fun session member same =>
          gone (sound.voiceSessions session member id (congrArg some same)),
        fun row member same => gone (sound.conversations row member id same),
        fun row member same => gone (sound.memories row member id same)⟩

theorem eraseModel_ok (erased : registry.eraseModel modelId = .ok after) :
    ∃ files aliases, fileModel.delete [modelId] registry.files = .ok files ∧
      aliasModel.delete [modelId] registry.aliases = .ok aliases ∧
      deploymentModel.delete [modelId] registry.deployments = .ok registry.deployments ∧
      after = { registry with
        models := registry.models.filter fun model => model.id ≠ modelId
        files, aliases } := by
  obtain ⟨files, ofFiles, erased⟩ := bind_ok.mp erased
  obtain ⟨deployments, ofDeployments, erased⟩ := bind_ok.mp erased
  obtain ⟨aliases, ofAliases, erased⟩ := bind_ok.mp erased
  have same : deployments = registry.deployments :=
    ((ForeignKey.restricts rfl).mp ofDeployments).1
  subst same
  cases erased
  exact ⟨files, aliases, ofFiles, ofAliases, ofDeployments, rfl⟩

theorem eraseModel_sound (sound : registry.Sound)
    (erased : registry.eraseModel modelId = .ok after) : after.Sound := by
  obtain ⟨files, aliases, ofFiles, ofAliases, ofDeployments, rfl⟩ := eraseModel_ok erased
  have keys := erased_keys Model.id registry.models modelId
  exact { sound with
    files := (sound.files.delete ofFiles).more_keys keys
    aliases := (sound.aliases.delete ofAliases).more_keys keys
    deployments := (sound.deployments.delete ofDeployments).more_keys keys }

theorem eraseModel_unreferred (none : ∀ deployment ∈ registry.deployments,
    deployment.modelId ≠ modelId) : ∃ after, registry.eraseModel modelId = .ok after := by
  have kept : deploymentModel.delete [modelId] registry.deployments = .ok registry.deployments :=
    (ForeignKey.restricts rfl).mpr ⟨rfl, fun deployment member => by
      simpa [ForeignKey.refers, deploymentModel] using none deployment member⟩
  rw [eraseModel, ForeignKey.cascades rfl, kept, ForeignKey.cascades rfl]
  exact ⟨_, rfl⟩

theorem eraseModel_referred {deployment : DeploymentRow} (member : deployment ∈ registry.deployments)
    (same : deployment.modelId = modelId) :
    registry.eraseModel modelId = .error (.constraint "model_deployments") := by
  have refused : deploymentModel.delete [modelId] registry.deployments =
      .error (.constraint "model_deployments") :=
    ForeignKey.refuses rfl member
      (ForeignKey.refers_eq_true.mpr ⟨modelId, congrArg some same, List.mem_singleton_self _⟩)
  rw [eraseModel, ForeignKey.cascades rfl, refused]
  rfl

theorem eraseAgent_ok (erased : registry.eraseAgent agentId = .ok after) :
    ∃ versions conversations memories,
      runVersion.delete (registry.versionsOf agentId) registry.runs = .ok registry.runs ∧
      versionAgent.delete [agentId] registry.versions = .ok versions ∧
      runAgent.delete [agentId] registry.runs = .ok registry.runs ∧
      sessionAgent.delete [agentId] registry.voiceSessions = .ok registry.voiceSessions ∧
      (ownedAgent "conversations").delete [agentId] registry.conversations = .ok conversations ∧
      (ownedAgent "memory_entries").delete [agentId] registry.memories = .ok memories ∧
      after = { registry with
        agents := registry.agents.filter fun agent => agent.id ≠ agentId
        versions, conversations, memories } := by
  obtain ⟨runs, ofVersions, erased⟩ := bind_ok.mp erased
  obtain ⟨versions, cascaded, erased⟩ := bind_ok.mp erased
  obtain ⟨others, ofAgent, erased⟩ := bind_ok.mp erased
  obtain ⟨sessions, ofSessions, erased⟩ := bind_ok.mp erased
  obtain ⟨conversations, ofConversations, erased⟩ := bind_ok.mp erased
  obtain ⟨memories, ofMemories, erased⟩ := bind_ok.mp erased
  have kept : runs = registry.runs := ((ForeignKey.restricts rfl).mp ofVersions).1
  subst kept
  have kept : others = registry.runs := ((ForeignKey.restricts rfl).mp ofAgent).1
  subst kept
  have kept : sessions = registry.voiceSessions := ((ForeignKey.restricts rfl).mp ofSessions).1
  subst kept
  cases erased
  exact ⟨versions, conversations, memories, ofVersions, cascaded, ofAgent, ofSessions,
    ofConversations, ofMemories, rfl⟩

theorem kept_versions {versions : List AgentVersionRow}
    (cascaded : versionAgent.delete [agentId] registry.versions = .ok versions) :
    ∀ key ∈ (registry.versions.map AgentVersionRow.id).filter fun key =>
      key ∉ registry.versionsOf agentId, key ∈ versions.map AgentVersionRow.id := by
  cases (ForeignKey.cascades rfl).symm.trans cascaded
  intro key member
  obtain ⟨member, other⟩ := List.mem_filter.mp member
  obtain ⟨version, there, rfl⟩ := List.mem_map.mp member
  refine List.mem_map_of_mem (List.mem_filter.mpr ⟨there, ?_⟩)
  have unlike : version.agentId ≠ agentId := by
    rintro rfl
    have among : version.id ∈ registry.versionsOf version.agentId :=
      List.mem_map_of_mem (List.mem_filter.mpr ⟨there, decide_eq_true rfl⟩)
    simp [among] at other
  simpa [ForeignKey.refers, versionAgent] using unlike

theorem eraseAgent_sound (sound : registry.Sound)
    (erased : registry.eraseAgent agentId = .ok after) : after.Sound := by
  obtain ⟨versions, conversations, memories, ofVersions, cascaded, ofAgent, ofSessions,
    ofConversations, ofMemories, rfl⟩ := eraseAgent_ok erased
  have keys := erased_keys Agent.id registry.agents agentId
  exact { sound with
    versions := (sound.versions.delete cascaded).more_keys keys
    runAgents := (sound.runAgents.delete ofAgent).more_keys keys
    runVersions := (sound.runVersions.delete ofVersions).more_keys (kept_versions cascaded)
    voiceSessions := (sound.voiceSessions.delete ofSessions).more_keys keys
    conversations := (sound.conversations.delete ofConversations).more_keys keys
    memories := (sound.memories.delete ofMemories).more_keys keys }

theorem eraseAgent_ok_iff (naming : Naming) :
    (∃ after, registry.eraseAgent agentId = .ok after) ↔
      registry.Guarded naming (.agent agentId) := by
  constructor
  · rintro ⟨after, erased⟩
    obtain ⟨versions, conversations, memories, ofVersions, cascaded, ofAgent, ofSessions,
      ofConversations, ofMemories, rfl⟩ := eraseAgent_ok erased
    have byAgent := ((ForeignKey.restricts rfl).mp ofAgent).2
    have byVersion := ((ForeignKey.restricts rfl).mp ofVersions).2
    have bySession := ((ForeignKey.restricts rfl).mp ofSessions).2
    refine ⟨fun run member => ?_, fun run member => ?_, fun session member => ?_⟩
    · simpa [ForeignKey.refers, runAgent] using byAgent run member
    · simpa [ForeignKey.refers, runVersion] using byVersion run member
    · simpa [ForeignKey.refers, sessionAgent] using bySession session member
  · rintro ⟨byAgent, byVersion, bySession⟩
    have ofVersions : runVersion.delete (registry.versionsOf agentId) registry.runs =
        .ok registry.runs :=
      (ForeignKey.restricts rfl).mpr ⟨rfl, fun run member => by
        simpa [ForeignKey.refers, runVersion] using byVersion run member⟩
    have ofAgent : runAgent.delete [agentId] registry.runs = .ok registry.runs :=
      (ForeignKey.restricts rfl).mpr ⟨rfl, fun run member => by
        simpa [ForeignKey.refers, runAgent] using byAgent run member⟩
    have ofSessions : sessionAgent.delete [agentId] registry.voiceSessions =
        .ok registry.voiceSessions :=
      (ForeignKey.restricts rfl).mpr ⟨rfl, fun session member => by
        simpa [ForeignKey.refers, sessionAgent] using bySession session member⟩
    have ofOwned (table : String) (rows : List Owned) :
        ∃ after, (ownedAgent table).delete [agentId] rows = .ok after :=
      ⟨_, ForeignKey.clears rfl⟩
    obtain ⟨conversations, ofConversations⟩ := ofOwned "conversations" registry.conversations
    obtain ⟨memories, ofMemories⟩ := ofOwned "memory_entries" registry.memories
    rw [eraseAgent, ofVersions, ForeignKey.cascades rfl]
    simp only [bind, Except.bind, ofAgent, ofSessions, ofConversations, ofMemories]
    exact ⟨_, rfl⟩

theorem eraseAgent_error {refusal : Refusal} (refused : registry.eraseAgent agentId = .error refusal) :
    ∃ table, refusal = .constraint table := by
  rcases bind_error.mp refused with failed | ⟨runs, _, refused⟩
  · exact ⟨_, ForeignKey.delete_error failed⟩
  rcases bind_error.mp refused with failed | ⟨versions, _, refused⟩
  · exact ⟨_, ForeignKey.delete_error failed⟩
  rcases bind_error.mp refused with failed | ⟨others, _, refused⟩
  · exact ⟨_, ForeignKey.delete_error failed⟩
  rcases bind_error.mp refused with failed | ⟨sessions, _, refused⟩
  · exact ⟨_, ForeignKey.delete_error failed⟩
  rcases bind_error.mp refused with failed | ⟨conversations, _, refused⟩
  · exact ⟨_, ForeignKey.delete_error failed⟩
  rcases bind_error.mp refused with failed | ⟨memories, _, refused⟩
  · exact ⟨_, ForeignKey.delete_error failed⟩
  cases refused

theorem lookup_none {Row : Type} {key : Row → Nat} {rows : List Row} {wanted : Nat} :
    rows.find? (fun row => key row = wanted) = none ↔ wanted ∉ rows.map key := by
  simp [List.find?_eq_none]

theorem lookup_some {Row : Type} {key : Row → Nat} {rows : List Row} {wanted : Nat} {row : Row}
    (found : rows.find? (fun row => key row = wanted) = some row) : wanted ∈ rows.map key := by
  by_contra absent
  rw [lookup_none.mpr absent] at found
  cases found

theorem getAgent_of_mem (texts : Texts) (there : agentId ∈ registry.agents.map Agent.id) :
    ∃ agent, registry.getAgent texts agentId = .ok agent := by
  cases found : registry.agents.find? fun agent => agent.id = agentId with
  | some agent => exact ⟨agent, by simp [getAgent, found]⟩
  | none => exact absurd there (lookup_none.mp found)

theorem Sound.readable (texts : Texts) (sound : registry.Sound) {run : AgentRun} (member : run ∈ registry.runs) :
    ∃ detail, registry.runDetail texts run.id = .ok detail := by
  unfold runDetail
  cases found : registry.runs.find? fun other => other.id = run.id with
  | none => exact absurd (List.mem_map_of_mem member) (lookup_none.mp found)
  | some other =>
      have there := sound.runAgents other (List.mem_of_find?_eq_some found) other.agentId rfl
      obtain ⟨agent, same⟩ := getAgent_of_mem texts there
      exact ⟨_, by simp only [same]; rfl⟩

theorem runDetail_congr (runs : after.runs = registry.runs) (events : after.events = registry.events)
    (executions : after.executions = registry.executions)
    (agents : ∀ run ∈ registry.runs,
      after.getAgent texts run.agentId = registry.getAgent texts run.agentId) (runId : Nat) :
    after.runDetail texts runId = registry.runDetail texts runId := by
  unfold runDetail
  rw [runs, events, executions]
  cases found : registry.runs.find? fun run => run.id = runId with
  | none => rfl
  | some run => simp only [agents run (List.mem_of_find?_eq_some found)]

theorem eraseModel_deleted (sound : registry.Sound)
    (erased : registry.eraseModel modelId = .ok after) :
    registry.Deleted texts (.model modelId) after := by
  have stays : after.Sound := eraseModel_sound sound erased
  obtain ⟨files, aliases, _, _, _, rfl⟩ := eraseModel_ok erased
  have gone := erased_gone Model.id registry.models modelId
  refine ⟨stays, gone, stays.unreferred gone, fun run member => ?_⟩
  obtain ⟨detail, read⟩ := Sound.readable texts stays member
  exact ⟨detail, read, read⟩

theorem eraseAgent_deleted (sound : registry.Sound)
    (erased : registry.eraseAgent agentId = .ok after) :
    registry.Deleted texts (.agent agentId) after := by
  have stays : after.Sound := eraseAgent_sound sound erased
  have guarded := (eraseAgent_ok_iff .one).mp ⟨after, erased⟩
  obtain ⟨versions, conversations, memories, _, _, _, _, _, _, rfl⟩ := eraseAgent_ok erased
  have gone := erased_gone Agent.id registry.agents agentId
  refine ⟨stays, gone, stays.unreferred gone, fun run member => ?_⟩
  obtain ⟨detail, read⟩ := Sound.readable texts stays member
  refine ⟨detail, read, ?_⟩
  rw [← read]
  symm
  refine runDetail_congr ?_ ?_ ?_ (fun other there => ?_) run.id
  · rfl
  · rfl
  · rfl
  -- the agent of a run is not the one that is deleted
  have unlike : other.agentId ≠ agentId := guarded.1 other there
  have same : (registry.agents.filter fun agent => agent.id ≠ agentId).find?
        (fun agent => agent.id = other.agentId) =
      registry.agents.find? fun agent => agent.id = other.agentId := by
    rw [List.find?_filter]
    congr 1
    funext agent
    by_cases named : agent.id = other.agentId <;> simp [named, unlike]
  simp only [getAgent, same]

theorem getModel_error {refusal : Refusal} (failed : registry.getModel texts modelId = .error refusal) :
    (∃ error, refusal = .app error) ∧ ¬ registry.Has (.model modelId) := by
  unfold getModel at failed
  split at failed
  · cases failed
  · next absent =>
      cases failed
      exact ⟨⟨_, rfl⟩, lookup_none.mp absent⟩

theorem getModel_ok {model : Model} (found : registry.getModel texts modelId = .ok model) :
    registry.Has (.model modelId) := by
  unfold getModel at found
  split at found
  · next there => exact lookup_some there
  · cases found

theorem getAgent_error {refusal : Refusal} (failed : registry.getAgent texts agentId = .error refusal) :
    (∃ error, refusal = .app error) ∧ ¬ registry.Has (.agent agentId) := by
  unfold getAgent at failed
  split at failed
  · cases failed
  · next absent =>
      cases failed
      exact ⟨⟨_, rfl⟩, lookup_none.mp absent⟩

theorem mem_activeForModel {deployment : DeploymentRow} :
    deployment ∈ registry.activeForModel modelId ↔ deployment ∈ registry.deployments ∧
      deployment.modelId = modelId ∧ active deployment.state = true := by
  simp [activeForModel]

theorem named_iff (texts : Texts) (sound : registry.Sound) (naming : Naming)
    (running : registry.activeForModel modelId ≠ []) :
    naming.Names
        ((registry.activeForModel modelId).map fun deployment => texts.idText deployment.id)
        (registry.referring texts (.model modelId)) ↔
      registry.Guarded naming (.model modelId) := by
  obtain ⟨first, among⟩ := List.exists_mem_of_ne_nil _ running
  obtain ⟨member, same, up⟩ := mem_activeForModel.mp among
  have named : (registry.activeForModel modelId).map (fun deployment =>
      texts.idText deployment.id) ≠ [] := by simpa using running
  have referring : (registry.activeForModel modelId).map (fun deployment =>
      texts.idText deployment.id) ⊆ registry.referring texts (.model modelId) := by
    refine List.map_subset _ fun deployment active => ?_
    obtain ⟨there, same, _⟩ := mem_activeForModel.mp active
    exact List.mem_filter.mpr ⟨there, decide_eq_true same⟩
  have some : ∃ deployment ∈ registry.deployments,
      deployment.modelId = modelId ∧ active deployment.state = true := ⟨first, member, same, up⟩
  cases naming with
  | one => exact ⟨fun _ => .inr ⟨some, nofun⟩, fun _ => ⟨named, referring⟩⟩
  | all =>
      constructor
      · rintro ⟨_, _, every⟩
        refine .inr ⟨some, fun _ deployment there same => ?_⟩
        have text := every (List.mem_map_of_mem
          (List.mem_filter.mpr ⟨there, decide_eq_true same⟩))
        obtain ⟨other, active, texts'⟩ := List.mem_map.mp text
        obtain ⟨there', _, up⟩ := mem_activeForModel.mp active
        have equal : other = deployment :=
          List.inj_on_of_nodup_map sound.deploymentKeys there' there (texts.distinct texts')
        exact equal ▸ up
      · rintro (free | ⟨_, every⟩)
        · exact absurd same (free first member)
        · refine ⟨named, referring, List.map_subset _ fun deployment there => ?_⟩
          obtain ⟨there, same⟩ := List.mem_filter.mp there
          exact mem_activeForModel.mpr ⟨there, of_decide_eq_true same,
            every rfl deployment there (of_decide_eq_true same)⟩

theorem settles_model_iff (sound : registry.Sound) (naming : Naming) :
    registry.Settles texts naming (.model modelId) ↔ registry.Guarded naming (.model modelId) := by
  cases found : registry.getModel texts modelId with
  | error refusal =>
      obtain ⟨⟨error, rfl⟩, absent⟩ := getModel_error found
      have answer : registry.deleteModel texts modelId = .error (.app error) :=
        bind_error.mpr (.inl found)
      obtain ⟨_, _, free⟩ := sound.unreferred absent
      simp only [Settles, request, answer, true_and]
      exact ⟨fun _ => .inl free, fun _ there => absurd there absent⟩
  | ok model =>
      have there : registry.Has (.model modelId) := getModel_ok found
      by_cases running : registry.activeForModel modelId = []
      · have answer : registry.deleteModel texts modelId = registry.eraseModel modelId := by
          simp [deleteModel, found, running, raiseIf, bind, Except.bind]
        simp only [Settles, request, answer]
        by_cases free : ∀ deployment ∈ registry.deployments, deployment.modelId ≠ modelId
        · obtain ⟨after, erased⟩ := eraseModel_unreferred free
          rw [erased]
          exact ⟨fun _ => .inl free, fun _ => eraseModel_deleted sound erased⟩
        · obtain ⟨deployment, member, same⟩ : ∃ deployment ∈ registry.deployments,
              deployment.modelId = modelId := by
            simpa using free
          rw [eraseModel_referred member same]
          refine ⟨False.elim, ?_⟩
          rintro (free | ⟨⟨other, there, same, up⟩, _⟩)
          · exact free deployment member same
          · have among := mem_activeForModel.mpr ⟨there, same, up⟩
            rw [running] at among
            cases among
      · have answer : ∃ message, registry.deleteModel texts modelId =
            .error (.app (conflictError message ((registry.activeForModel modelId).map
              fun deployment => ("deployments", texts.idText deployment.id)))) := by
          rw [deleteModel, found]
          simp only [raiseIf, bind, Except.bind, if_pos running]
          exact ⟨_, rfl⟩
        obtain ⟨message, answer⟩ := answer
        simp only [Settles, request, answer, true_and]
        rw [← named_iff texts sound naming running]
        simp only [there, conflictError, List.map_map, true_and, true_imp_iff]
        rfl

theorem settles_agent_iff (sound : registry.Sound) (naming : Naming) :
    registry.Settles texts naming (.agent agentId) ↔ registry.Guarded naming (.agent agentId) := by
  cases found : registry.getAgent texts agentId with
  | error refusal =>
      obtain ⟨⟨error, rfl⟩, absent⟩ := getAgent_error found
      have answer : registry.deleteAgent texts agentId = .error (.app error) :=
        bind_error.mpr (.inl found)
      obtain ⟨versions, runs, sessions, _⟩ := sound.unreferred absent
      simp only [Settles, request, answer, true_and]
      refine ⟨fun _ => ⟨runs, fun run _ among => ?_, sessions⟩, fun _ there => absurd there absent⟩
      obtain ⟨version, there, _⟩ := List.mem_map.mp among
      obtain ⟨there, same⟩ := List.mem_filter.mp there
      exact versions version there (of_decide_eq_true same)
  | ok agent =>
      have answer : registry.deleteAgent texts agentId = registry.eraseAgent agentId := by
        simp [deleteAgent, found, bind, Except.bind]
      rw [← eraseAgent_ok_iff naming]
      simp only [Settles, request, answer]
      cases erased : registry.eraseAgent agentId with
      | ok after => exact ⟨fun _ => ⟨after, rfl⟩, fun _ => eraseAgent_deleted sound erased⟩
      | error refusal =>
          obtain ⟨table, rfl⟩ := eraseAgent_error erased
          exact ⟨False.elim, nofun⟩

/-- A deletion succeeds or names what is in its way exactly when the service looks
for whatever the foreign keys protect. -/
theorem deletions_settle_iff (texts : Texts) (naming : Naming) (registry : Registry)
    (sound : registry.Sound) (target : Target) :
    registry.Settles texts naming target ↔ registry.Guarded naming target := by
  cases target with
  | model id => exact settles_model_iff sound naming
  | agent id => exact settles_agent_iff sound naming

def plainTexts : Texts where
  idText id := String.ofList (List.replicate id 'i')
  distinct left right same := by
    have lengths := congrArg (fun text => text.toList.length) same
    simpa using lengths
  repr text := "'" ++ text ++ "'"

def qwen : Model :=
  ⟨1, "qwen", "Qwen", "1.0", "LLM", none, none, none, none, "/models/qwen", "vllm", none, none, 1,
    .available, none, none, []⟩

def deploymentOf (id : Nat) (state : DeploymentState) : DeploymentRow where
  id := id
  modelId := 1
  nodeId := some 1
  state := state
  stateDetail := none
  gpuIndices := [0]
  reservationId := none
  runtime := "vllm"
  image := "vllm"
  containerId := none
  containerName := none
  internalPort := 8000
  internalUrl := none
  tensorParallelSize := 1
  maxModelLen := none
  gpuMemoryUtilization := 9 / 10
  errorMessage := none
  logsExcerpt := none
  requestedBy := none
  createdAt := 0

def clerk : Agent := ⟨1, "clerk", "Clerk", none, true, 1⟩

def clerkVersion : AgentVersionRow := ⟨1, 1, 1, "You help.", "chat", 1 / 5, 25, [], false, [], []⟩

def clerkRun : AgentRun :=
  ⟨1, 1, 1, none, none, .completed, "hello", some "hi", none, 1, 10, 2, .empty, []⟩

def stateOf (deployments : List DeploymentRow) (runs : List AgentRun) : Registry where
  models := [qwen]
  files := []
  aliases := []
  deployments := deployments
  agents := [clerk]
  versions := [clerkVersion]
  runs := runs
  events := []
  executions := []
  voiceSessions := []
  conversations := []
  memories := []

theorem stateOf_sound (state : DeploymentState) {runs : List AgentRun}
    (ofClerk : ∀ run ∈ runs, run.agentId = 1 ∧ run.agentVersionId = 1) :
    (stateOf [deploymentOf 1 state] runs).Sound where
  files := by simp [ForeignKey.Holds, stateOf]
  aliases := by simp [ForeignKey.Holds, stateOf]
  deployments := by simp [ForeignKey.Holds, stateOf, deploymentModel, deploymentOf, qwen]
  deploymentKeys := by simp [stateOf]
  versions := by simp [ForeignKey.Holds, stateOf, versionAgent, clerkVersion, clerk]
  runAgents run member agentId same := by
    cases same
    simpa [stateOf, clerk] using (ofClerk run member).1
  runVersions run member versionId same := by
    cases same
    simpa [stateOf, clerkVersion] using (ofClerk run member).2
  voiceSessions := by simp [ForeignKey.Holds, stateOf]
  conversations := by simp [ForeignKey.Holds, stateOf]
  memories := by simp [ForeignKey.Holds, stateOf]

/-- A running deployment is named by the conflict. -/
theorem running_deployment_is_named :
    (stateOf [deploymentOf 1 .running] []).Settles plainTexts .all (.model 1) := by
  refine (deletions_settle_iff plainTexts .all (stateOf [deploymentOf 1 .running] [])
    (stateOf_sound .running (by simp)) (.model 1)).mpr (.inr ?_)
  simp [stateOf, deploymentOf, active]

/-- A model whose only deployment is stopped, and an agent with a completed run:
both deletions fail in the database. -/
theorem stopped_deployment_and_completed_run :
    (stateOf [deploymentOf 1 .stopped] [clerkRun]).Sound ∧
      ((stateOf [deploymentOf 1 .stopped] [clerkRun]).request plainTexts (.model 1)).1 =
        .error (.constraint "model_deployments") ∧
      ((stateOf [deploymentOf 1 .stopped] [clerkRun]).request plainTexts (.agent 1)).1 =
        .error (.constraint "agent_runs") ∧
      ¬ ∀ (registry : Registry), registry.Sound →
        ∀ target, registry.Settles plainTexts .one target := by
  have sound : (stateOf [deploymentOf 1 .stopped] [clerkRun]).Sound :=
    stateOf_sound .stopped (by simp [clerkRun])
  refine ⟨sound, rfl, rfl, fun all => ?_⟩
  have unreferred := (settles_agent_iff sound .one).mp (all _ sound (.agent 1))
  exact unreferred.1 clerkRun (List.mem_singleton_self _) rfl

end Registry

end AiPlatform.Deletions
