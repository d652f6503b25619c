import AiPlatform.ClientOwners
import AiPlatform.ForwardedIdentity
import AiPlatform.MemoryScopes

/-!
What an agent run that is started through the gateway remembers. `_run_agent` of
`app/api/v1/gateway.py` starts it with `AgentRunService.start` for the owner of the API
client, and `RetrievalService` recalls memories for the context of the run. A run for
an end user and one for the owner share the account, and are told apart by the end
user alone. The ids of the account and of the agent are kept as ids and not as texts.
-/

namespace AiPlatform.GatewayMemories

open Accounts (User)
open Agents (Dict Json strip truthy)
open ApiKeys (ApiKey)
open ClientOwners (Denial Portal Settings)
open Identity (GatewayContext)
open Memory (MemoryEntry MemoryScope RecalledMemory Stores getByVectorId memoryCollection)
open Vectors (Embedding FieldCondition SearchHit VectorRecord admits admits_toFilter toFilter)

structure AgentVersion where
  version : Int
  memoryEnabled : Bool

structure Agent where
  id : Uuid
  slug : String
  enabled : Bool
  /-- `get_current` -/
  current : Option AgentVersion

structure AgentSpec where
  agentId : Option Uuid
  version : Int
  memoryEnabled : Bool

structure RunContext where
  runId : Uuid
  userId : Option Uuid
  conversationId : Option String
  userPermissions : List String
  metadata : Dict

def buildSpec (agent : Agent) (version : AgentVersion) : AgentSpec :=
  ⟨some agent.id, version.version, version.memoryEnabled⟩

/-- What `start` hands to the runtime. -/
structure Started where
  spec : AgentSpec
  context : RunContext
  message : String

def start (settings : Settings) (portal : Portal) (agent : Agent) (message : String) (actor : User)
    (conversationId : Option String) (runId : Uuid) : Except Refusal Started :=
  if agent.enabled = false then
    let slug := agent.slug
    .error (.app (conflictError s!"The agent '{slug}' is disabled." []))
  else
    match agent.current with
    | none =>
        let slug := agent.slug
        .error (.app (notFoundError s!"Agent '{slug}' has no current version."))
    | some version => .ok {
        spec := buildSpec agent version
        context := {
          runId := runId
          userId := some actor.id
          conversationId := conversationId
          userPermissions :=
            (portal.permissionsOf settings actor).dedup.insertionSort (· ≤ ·)
          metadata := [] }
        message := message }

structure ChatMessage where
  role : String
  content : Option String

structure ChatRequest where
  messages : List ChatMessage
  conversationId : Option String

def slugOf (model : String) : String := String.ofList (model.toList.drop "agent:".length)

def promptOf (messages : List ChatMessage) : String :=
  ((messages.reverse.find? fun message => message.role = "user").bind ChatMessage.content).getD ""

/-- `_run_agent`, buffered or streamed. -/
def runAgent (settings : Settings) (portal : Portal) (agents : List Agent) (model : String)
    (body : ChatRequest) (key : Option ApiKey) (context : GatewayContext) (runId : Uuid) :
    Except Denial Started :=
  let slug := slugOf model
  match agents.find? fun agent => agent.slug = slug with
  | none => .error (.refused (.app (notFoundError s!"No agent named '{slug}'.")))
  | some agent => do
      let actor ← portal.resolveActor key
      let prompt := promptOf body.messages
      if !truthy (strip prompt) then
        .error (.refused (.app (validationError "The last user message is empty." [])))
      else
        let conversationId := (body.conversationId.filter truthy).or context.endUser
        Portal.checked (start settings portal agent prompt actor conversationId runId)

/-- `MAX_MEMORIES` -/
def maxMemories : Nat := 3

/-- The `score_threshold` of `recall`. -/
def scoreThreshold : Rat := 3 / 10

/-- `context.metadata.get("end_user")` -/
def endUserOf (metadata : Dict) : Option String :=
  match metadata.lookup "end_user" with
  | some (.str name) => some name
  | _ => none

/-- What the embedding model answers to the question, the vector store to the filter,
and the clock. -/
structure Surroundings where
  embedded : Option (List Embedding)
  search : Option (List FieldCondition) → List SearchHit
  now : Nat

/-- `_recall`; an exception leaves the agent without memories. -/
def recallFor (tenantId : String) (stores : Stores) (spec : AgentSpec) (context : RunContext)
    (question : String) (surroundings : Surroundings) : List RecalledMemory :=
  match MemoryScope.make tenantId context.userId (endUserOf context.metadata) spec.agentId with
  | .error _ => []
  | .ok scope =>
      if scope.isAnonymous then []
      else
        match stores.recallMemories scope question surroundings.embedded surroundings.search
          surroundings.now with
        | .error _ => []
        | .ok memories => memories

/-- The memories that `_retrieve` puts before the conversation of a run. -/
def injected (tenantId : String) (stores : Stores) (run : Started) (surroundings : Surroundings) :
    List RecalledMemory :=
  if !truthy (strip run.message) then []
  else if run.spec.memoryEnabled then
    recallFor tenantId stores run.spec run.context run.message surroundings
  else []

def Surroundings.Answers (surroundings : Surroundings) (stores : Stores) : Prop :=
  ∀ filter, stores.vectors.Answers memoryCollection filter maxMemories (some scoreThreshold)
    (surroundings.search filter)

def Owns (account : Uuid) (endUser : Option String) (entry : MemoryEntry) : Prop :=
  entry.endUser = endUser ∧ (endUser = none → entry.userId = some account)

section Calls

variable (settings : Settings) (portal : Portal) (agents : List Agent) (tenantId : String)
  (stores : Stores) (model : String) (key : ApiKey) (now : Nat)

/-- Every run of a call with the context remembers only what the end user owns for
whom it was started. -/
def Separate (context : GatewayContext) : Prop :=
  ∀ body runId run owner, runAgent settings portal agents model body (some key) context runId =
    .ok run → portal.resolveActor (some key) = .ok owner →
    ∀ surroundings, surroundings.now = now → surroundings.Answers stores →
      ∀ memory ∈ injected tenantId stores run surroundings, ∃ entry ∈ stores.entries,
        memory.memoryId = some entry.id ∧ Owns owner.id context.endUser entry

/-- The store has a memory of the account with the agent that has not expired, of
whichever end user. -/
def Remembers (tenantId : String) (stores : Stores) (account agentId : Uuid) (now : Nat) : Prop :=
  ∃ point ∈ stores.vectors.points memoryCollection, ∃ entry,
    getByVectorId stores.entries point.id = some entry ∧ entry.expiresAt.all (now ≤ ·) = true ∧
      point.payload.lookup "tenant_id" = some (.str tenantId) ∧
      point.payload.lookup "user_id" = some (.str account.str) ∧
      point.payload.lookup "agent_id" = some (.str agentId.str)

/-- Where the agent can be run with the key and uses memory, the owner of the client
has no memories with it. -/
def Forgotten : Prop :=
  ∀ owner agent version, portal.resolveActor (some key) = .ok owner →
    (agents.find? fun agent => agent.slug = slugOf model) = some agent → agent.enabled = true →
    agent.current = some version → version.memoryEnabled = true → truthy tenantId = true →
    ¬Remembers tenantId stores owner.id agent.id now

end Calls

section Runs

variable {settings : Settings} {portal : Portal} {agents : List Agent} {tenantId : String}
  {stores : Stores} {model : String} {key : ApiKey} {now : Nat}

/-- A run has the owner of the client as its account and names no end user. -/
structure Runs (portal : Portal) (agents : List Agent) (model : String) (key : ApiKey)
    (run : Started) (owner : User) (agent : Agent) (version : AgentVersion) : Prop where
  actor : portal.resolveActor (some key) = .ok owner
  found : (agents.find? fun agent => agent.slug = slugOf model) = some agent
  enabled : agent.enabled = true
  current : agent.current = some version
  spec : run.spec = buildSpec agent version
  account : run.context.userId = some owner.id
  unnamed : run.context.metadata = []
  asks : truthy (strip run.message) = true

theorem start_ok {agent : Agent} {message : String} {actor : User}
    {conversationId : Option String} {runId : Uuid} {run : Started}
    (started : start settings portal agent message actor conversationId runId = .ok run) :
    agent.enabled = true ∧ ∃ version, agent.current = some version ∧
      run.spec = buildSpec agent version ∧ run.context.userId = some actor.id ∧
      run.context.metadata = [] ∧ run.message = message := by
  unfold start at started
  split at started
  · cases started
  · rename_i enabled
    split at started
    · cases started
    · rename_i version current
      cases started
      exact ⟨by simpa using enabled, version, current, rfl, rfl, rfl, rfl⟩

theorem runAgent_ok {body : ChatRequest} {context : GatewayContext} {runId : Uuid} {run : Started}
    (ran : runAgent settings portal agents model body (some key) context runId = .ok run) :
    ∃ owner agent version, Runs portal agents model key run owner agent version := by
  simp only [runAgent] at ran
  split at ran
  · cases ran
  · rename_i agent found
    obtain ⟨owner, actor, ran⟩ := bind_ok.mp ran
    split at ran
    · cases ran
    · rename_i asks
      obtain ⟨enabled, version, current, spec, account, unnamed, same⟩ :=
        start_ok (ClientOwners.checked_ok ran)
      refine ⟨owner, agent, version, actor, found, enabled, current, spec, account, unnamed, ?_⟩
      rw [same]
      simpa using asks

theorem runAgent_asks {owner : User} {agent : Agent} {version : AgentVersion}
    (actor : portal.resolveActor (some key) = .ok owner)
    (found : (agents.find? fun agent => agent.slug = slugOf model) = some agent)
    (enabled : agent.enabled = true) (current : agent.current = some version)
    (context : GatewayContext) :
    ∃ run, runAgent settings portal agents model ⟨[⟨"user", some "?"⟩], none⟩ (some key) context
      ⟨0⟩ = .ok run := by
  have asks : truthy (strip (promptOf [⟨"user", some "?"⟩])) = true := by decide +kernel
  simp only [runAgent, found, actor, start, enabled, current]
  generalize promptOf [⟨"user", some "?"⟩] = prompt at asks ⊢
  let permissions := (portal.permissionsOf settings owner).dedup.insertionSort (· ≤ ·)
  refine ⟨⟨buildSpec agent version, ⟨⟨0⟩, some owner.id, context.endUser, permissions, []⟩, prompt⟩,
    bind_ok.mpr ⟨owner, rfl, ?_⟩⟩
  simp only [asks, Bool.not_true, Bool.false_eq_true, Bool.true_eq_false, if_false]
  exact rfl

theorem injected_eq {run : Started} {owner : User} {agent : Agent} {version : AgentVersion}
    (runs : Runs portal agents model key run owner agent version) (surroundings : Surroundings) :
    injected tenantId stores run surroundings =
      if version.memoryEnabled then
        match MemoryScope.make tenantId (some owner.id) none (some agent.id) with
        | .error _ => []
        | .ok scope =>
            match stores.recallMemories scope run.message surroundings.embedded surroundings.search
              surroundings.now with
            | .error _ => []
            | .ok memories => memories
      else [] := by
  simp only [injected, runs.asks, recallFor, runs.spec, buildSpec, runs.account, runs.unnamed, endUserOf,
    Bool.not_true, Bool.false_eq_true, if_false, List.lookup_nil]
  unfold MemoryScope.make
  by_cases named : truthy tenantId = true
  · simp [named, MemoryScope.isAnonymous]
  · simp [named]

theorem admits_account {named : truthy tenantId = true} {account agentId : Uuid}
    {filter : Option (List FieldCondition)} (payload : Vectors.Payload)
    (translated : toFilter (MemoryScope.vectorFilters
      ⟨tenantId, some account, none, some agentId, named⟩) = .ok filter) :
    admits filter payload = true ↔
      payload.lookup "tenant_id" = some (.str tenantId) ∧
      payload.lookup "user_id" = some (.str account.str) ∧
      payload.lookup "agent_id" = some (.str agentId.str) := by
  rw [admits_toFilter translated]
  simp [MemoryScope.vectorFilters, MemoryScope.uuidFilter, MemoryScope.textFilter, Vectors.Demands]

theorem injected_remembers {run : Started} {owner : User} {agent : Agent} {version : AgentVersion}
    (runs : Runs portal agents model key run owner agent version) {surroundings : Surroundings}
    (answers : surroundings.Answers stores) {memory : RecalledMemory}
    (member : memory ∈ injected tenantId stores run surroundings) :
    version.memoryEnabled = true ∧ truthy tenantId = true ∧
      Remembers tenantId stores owner.id agent.id surroundings.now := by
  rw [injected_eq runs] at member
  split at member
  · rename_i enabled
    unfold MemoryScope.make at member
    by_cases named : truthy tenantId = true
    · refine ⟨enabled, named, ?_⟩
      simp only [named, dif_pos] at member
      split at member
      · cases member
      · rename_i memories recalled
        obtain ⟨filter, translated, hit, hits, resolved⟩ := Memory.recall_hit recalled member
        obtain ⟨point, stored, id, _, admitted⟩ := (answers filter).found hit hits
        obtain ⟨row, found, live, _⟩ := Memory.resolve_iff.mp resolved
        rw [← id] at found
        exact ⟨point, stored, row, found, live, (admits_account _ translated).mp admitted⟩
    · simp [named] at member
  · cases member

def onlyPoint (point : VectorRecord) (filter : Option (List FieldCondition)) : List SearchHit :=
  if admits filter point.payload then [⟨point.id, 1, point.payload⟩] else []

theorem onlyPoint_answers {point : VectorRecord}
    (stored : point ∈ stores.vectors.points memoryCollection)
    (filter : Option (List FieldCondition)) :
    stores.vectors.Answers memoryCollection filter maxMemories (some scoreThreshold)
      (onlyPoint point filter) := by
  unfold onlyPoint
  split
  · rename_i admitted
    constructor
    · change 1 ≤ 3
      omega
    · simp only [List.mem_singleton, Option.mem_some_iff]
      rintro hit rfl threshold rfl
      change (3 / 10 : Rat) ≤ 1
      decide +kernel
    · simp only [List.mem_singleton]
      rintro hit rfl
      exact ⟨point, stored, rfl, rfl, admitted⟩
  · exact ⟨by simp, by simp, by simp⟩

theorem remembers_injected {account agentId : Uuid}
    (remembers : Remembers tenantId stores account agentId now) :
    ∃ entry ∈ stores.entries, ∃ surroundings : Surroundings, surroundings.now = now ∧
      surroundings.Answers stores ∧ ∀ run owner agent version,
        Runs portal agents model key run owner agent version → version.memoryEnabled = true →
        truthy tenantId = true → owner.id = account → agent.id = agentId →
        ∃ memory ∈ injected tenantId stores run surroundings, memory.memoryId = some entry.id := by
  obtain ⟨point, stored, entry, found, live, names⟩ := remembers
  have listed : entry ∈ stores.entries := List.mem_reverse.mp (List.mem_of_find?_eq_some found)
  refine ⟨entry, listed, ⟨some [[]], onlyPoint point, now⟩, rfl, onlyPoint_answers stored, ?_⟩
  rintro run owner agent version runs uses named rfl rfl
  let memory : RecalledMemory := ⟨entry.text, entry.kind, 1, entry.createdAt, some entry.id⟩
  have resolved : stores.resolve now ⟨point.id, 1, point.payload⟩ = some memory :=
    Memory.resolve_iff.mpr ⟨entry, found, live, rfl⟩
  refine ⟨memory, ?_, rfl⟩
  have asks : (!truthy (strip run.message)) = false := by
    rw [runs.asks]
    rfl
  rw [injected_eq runs, uses, if_pos rfl, MemoryScope.make, dif_pos named]
  cases translated : toFilter (MemoryScope.vectorFilters
      ⟨tenantId, some owner.id, none, some agent.id, named⟩) with
  | error failure => cases translated
  | ok filter =>
      have admitted := (admits_account point.payload translated).mpr names
      simp only [Stores.recallMemories, asks, translated, Except.map, onlyPoint, admitted, if_true,
        Bool.false_eq_true, if_false, List.filterMap_cons, resolved, List.filterMap_nil]
      exact List.mem_singleton_self memory

end Runs

-- Any two calls that are not for the same end user: one of them may be for the owner.
theorem runs_are_separate_iff (settings : Settings) (portal : Portal) (agents : List Agent)
    (tenantId : String) (stores : Stores) (model : String) (key : ApiKey) (now : Nat)
    (distinct : (stores.entries.map (·.id)).Nodup) (first second : GatewayContext)
    (different : first.endUser ≠ second.endUser) :
    Separate settings portal agents tenantId stores model key now first ∧
        Separate settings portal agents tenantId stores model key now second ↔
      Forgotten portal agents tenantId stores model key now := by
  constructor
  · rintro ⟨one, two⟩ owner agent version actor found enabled current uses named remembers
    obtain ⟨entry, listed, surroundings, moment, answers, injects⟩ :=
      @remembers_injected portal agents tenantId stores model key now _ _ remembers
    have own (context : GatewayContext) (separate : Separate settings portal agents tenantId stores
        model key now context) : entry.endUser = context.endUser := by
      obtain ⟨run, ran⟩ := @runAgent_asks settings _ _ _ _ _ _ _ actor found enabled current context
      obtain ⟨owner', agent', version', runs⟩ := runAgent_ok ran
      cases actor.symm.trans runs.actor
      cases found.symm.trans runs.found
      cases current.symm.trans runs.current
      obtain ⟨memory, member, same⟩ := injects run owner agent version runs uses named rfl rfl
      obtain ⟨other, there, names, owns, _⟩ :=
        separate _ _ run owner ran actor surroundings moment answers memory member
      have id : other.id = entry.id := Option.some.inj (names.symm.trans same)
      rw [← List.inj_on_of_nodup_map distinct there listed id]
      exact owns
    exact different ((own first one).symm.trans (own second two))
  · intro forgotten
    have nothing (context : GatewayContext) :
        Separate settings portal agents tenantId stores model key now context := by
      intro body runId run owner ran actor surroundings moment answers memory member
      obtain ⟨owner', agent, version, runs⟩ := runAgent_ok ran
      obtain ⟨uses, named, remembers⟩ := injected_remembers runs answers member
      rw [moment] at remembers
      exact absurd remembers
        (forgotten _ _ _ runs.actor runs.found runs.enabled runs.current uses named)
    exact ⟨nothing first, nothing second⟩

def site : Settings := ⟨[], id⟩

def owner : User :=
  ⟨⟨1⟩, "admin", "admin@example.com", none, none, "local", none, true, true, []⟩

def chatKey : ApiKey := ⟨⟨20⟩, ⟨10⟩, "key", "sk-", "hash", 120, [], none, none, none, ⟨1⟩⟩

def frontend : Portal :=
  ⟨⟨[owner], []⟩, fun _ => [], [⟨⟨⟨10⟩, "chat"⟩, none, some ⟨1⟩, true, none⟩], [chatKey], 0⟩

def helper : Agent := ⟨⟨30⟩, "helper", true, some ⟨1, true⟩⟩

theorem default_named : truthy "default" = true := by decide

def alice : MemoryScope := ⟨"default", some ⟨1⟩, some "alice", some ⟨30⟩, default_named⟩

def aliceEntry : MemoryEntry :=
  ⟨⟨2⟩, "default", some ⟨1⟩, some "alice", some ⟨30⟩, "likes tea", "fact", none,
    some (Uuid.str ⟨3⟩), 0, none⟩

def remembered : Stores :=
  ⟨[aliceEntry], [], [], [], Memory.writePoint (fun _ => none)
    (Memory.memoryPoint alice (Uuid.str ⟨3⟩) "fact" "likes tea" [1])⟩

theorem runs_are_separate_chat :
    Separate site frontend [helper] "default" remembered "agent:helper" chatKey 0
          ⟨some "alice", true⟩ ∧
        Separate site frontend [helper] "default" remembered "agent:helper" chatKey 0
          ⟨some "bob", true⟩ ↔
      Forgotten frontend [helper] "default" remembered "agent:helper" chatKey 0 :=
  runs_are_separate_iff site frontend [helper] "default" remembered "agent:helper" chatKey 0
    (List.nodup_singleton (⟨2⟩ : Uuid)) _ _ (by decide)

/-- A run for Bob is given what Alice has told. -/
theorem other_end_user_is_remembered :
    ¬Separate site frontend [helper] "default" remembered "agent:helper" chatKey 0
      ⟨some "bob", true⟩ := by
  intro separate
  have remembers : Remembers "default" remembered ⟨1⟩ ⟨30⟩ 0 :=
    ⟨_, List.mem_singleton_self _, aliceEntry, rfl, rfl, rfl, rfl, rfl⟩
  obtain ⟨_, _, surroundings, moment, answers, injects⟩ :=
    @remembers_injected frontend [helper] "default" remembered "agent:helper" chatKey 0 _ _ remembers
  obtain ⟨run, ran⟩ := @runAgent_asks site frontend [helper] "agent:helper" chatKey owner helper
    ⟨1, true⟩ rfl rfl rfl rfl ⟨some "bob", true⟩
  obtain ⟨_, _, _, runs⟩ := runAgent_ok ran
  cases runs.actor
  cases runs.found
  cases runs.current
  obtain ⟨memory, member, _⟩ := injects run owner helper ⟨1, true⟩ runs rfl (by decide) rfl rfl
  obtain ⟨entry, listed, _, bobs, _⟩ :=
    separate _ _ run owner ran rfl surroundings moment answers memory member
  rw [List.mem_singleton.mp listed] at bobs
  exact absurd bobs (by decide)

end AiPlatform.GatewayMemories
