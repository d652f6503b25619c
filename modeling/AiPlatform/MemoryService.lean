import AiPlatform.MemoryModel

/-!
`MemoryService` of `app/services/memory.py` with the repositories of
`app/repositories/knowledge.py`. An operation is given what the services it
calls answer: the embedding model, the vector store, and the glob matching of
Valkey. Ids and times are inputs.
-/

namespace AiPlatform.Memory

open Agents (Json strip clip truthy)
open Vectors (FieldCondition TypeError SearchHit Collections Embedding toFilter)

/-- `stmt.where(column == value)`, added when the value is given. -/
def given {Value : Type} [DecidableEq Value] (value column : Option Value) : Bool :=
  match value with
  | some _ => column = value
  | none => true

def findScoped (conversations : List Conversation) (scope : MemoryScope) (externalId : String) :
    Option Conversation :=
  conversations.find? fun conversation =>
    conversation.tenantId = scope.tenantId && conversation.externalId = some externalId &&
      given scope.agentId conversation.agentId && given scope.userId conversation.userId &&
        given scope.endUser conversation.endUser

/-- The `WHERE` clause of `MemoryEntryRepository.list_scoped`. -/
def MemoryScope.selects (scope : MemoryScope) (entry : MemoryEntry) : Bool :=
  entry.tenantId = scope.tenantId && given scope.userId entry.userId &&
    given scope.endUser entry.endUser && given scope.agentId entry.agentId

/-- `MemoryEntryRepository.list_scoped`, newest first. -/
def listScoped (entries : List MemoryEntry) (scope : MemoryScope) (limit : Nat) :
    List MemoryEntry :=
  ((entries.filter scope.selects).mergeSort
    fun left right => right.createdAt ≤ left.createdAt).take limit

/-- `MemoryEntryRepository.get_by_vector_ids`, looked up at one of the ids. -/
def getByVectorId (entries : List MemoryEntry) (id : String) : Option MemoryEntry :=
  entries.reverse.find? fun entry => entry.vectorId = some id

def nextOrdinal (messages : List ConversationMessage) (conversationId : Uuid) : Nat :=
  (messages.filter (·.conversationId = conversationId)).foldl
    (fun highest message => max highest message.ordinal) 0 + 1

/-- `ConversationMessageRepository.recent`: the last `limit` in reading order. -/
def recent (messages : List ConversationMessage) (conversationId : Uuid) (limit : Nat) :
    List ConversationMessage :=
  (((messages.filter (·.conversationId = conversationId)).mergeSort
    fun left right => right.ordinal ≤ left.ordinal).take limit).reverse

namespace Stores

def setSession (stores : Stores) (scope : MemoryScope) (key : String) (value : Json) : Stores :=
  let stored : SessionValue := ⟨scope.sessionKey key, value, scope.owner⟩
  { stores with
    sessions := stores.sessions.filter (fun other => other.key ≠ stored.key) ++ [stored] }

def getSession (stores : Stores) (scope : MemoryScope) (key : String) : Option Json :=
  (stores.sessions.find? fun stored => stored.key = scope.sessionKey key).map (·.value)

/-- `clear_session`: the keys that match the pattern of the prefix are deleted. -/
def clearSession (glob : String → String → Bool) (stores : Stores) (scope : MemoryScope) :
    Stores :=
  let pattern := scope.sessionPrefix ++ "*"
  { stores with sessions := stores.sessions.filter fun stored => !glob pattern stored.key }

def getOrCreateConversation (stores : Stores) (scope : MemoryScope) (externalId : String)
    (title : Option String) (id : Uuid) : Conversation × Stores :=
  match findScoped stores.conversations scope externalId with
  | some existing => (existing, stores)
  | none =>
      let conversation : Conversation :=
        { id := id, tenantId := scope.tenantId, userId := scope.userId, endUser := scope.endUser
          agentId := scope.agentId, externalId := some externalId, title := title
          summary := none, messageCount := 0, lastActivityAt := none }
      (conversation, { stores with conversations := stores.conversations ++ [conversation] })

def appendMessage (stores : Stores) (conversationId : Uuid) (role content : String)
    (runId : Option Uuid) (now : Nat) : Stores :=
  let message : ConversationMessage :=
    ⟨conversationId, nextOrdinal stores.messages conversationId, role, content, runId⟩
  { stores with
    messages := stores.messages ++ [message]
    conversations := stores.conversations.map fun conversation =>
      if conversation.id = conversationId then
        { conversation with
          messageCount := conversation.messageCount + 1, lastActivityAt := some now
          title := if conversation.title.isNone && role = "user" then some (clip content 120)
            else conversation.title }
      else conversation }

def getConversation (stores : Stores) (scope : MemoryScope) (externalId : String) (limit : Nat) :
    Option ConversationView :=
  (findScoped stores.conversations scope externalId).map fun conversation =>
    ⟨conversation, recent stores.messages conversation.id limit⟩

/-- `summarize_conversation`, where `completion` is what the model makes of the
messages, `none` when it is unreachable. -/
def summarizeConversation (stores : Stores) (conversation : Conversation)
    (completion : List ConversationMessage → Option String) : Option String × Stores :=
  if conversation.messageCount < summariseAfterMessages then (none, stores)
  else
    match completion (recent stores.messages conversation.id summariseAfterMessages) with
    | none => (none, stores)
    | some content =>
        (some content, { stores with
          conversations := stores.conversations.map fun other =>
            if other.id = conversation.id then { other with summary := some content }
            else other })

end Stores

/-- How indexing a memory went: the point was written, it was written but the
call raised, or the call raised before anything was written. -/
inductive Indexing
  | indexed (vector : Embedding)
  | lost (vector : Embedding)
  | refused

/-- How a deletion of points went. A call that raised may have been applied. -/
inductive Deletion
  | done
  | raised (applied : Bool)
  deriving DecidableEq

def Deletion.apply (deletion : Deletion) (vectors : Collections) (ids : List String) :
    Collections :=
  match deletion with
  | .done | .raised true => vectors.delete memoryCollection ids
  | .raised false => vectors

def writePoint (vectors : Collections) (point : Vectors.VectorRecord) : Collections :=
  let ensured := vectors.ensureCollection ⟨memoryCollection, point.vector.length, .cosine⟩
  (ensured.upsert memoryCollection [point]).getD ensured

namespace Stores

def remember (stores : Stores) (scope : MemoryScope) (text kind : String)
    (conversationId : Option Uuid) (expiresAt : Option Nat) (id vectorId : Uuid) (now : Nat)
    (indexing : Indexing) : Except AppError (Option MemoryEntry × Stores) :=
  let text := strip text
  if !truthy text then .ok (none, stores)
  else if scope.isAnonymous then
    .error (validationError ("A memory needs a user or an end user to belong to. Storing one " ++
      "against a tenant alone would make it recallable by everyone in that tenant.") [])
  else
    let entry : MemoryEntry :=
      { id := id, tenantId := scope.tenantId, userId := scope.userId, endUser := scope.endUser
        agentId := scope.agentId, text := text, kind := kind, conversationId := conversationId
        vectorId := some vectorId.str, createdAt := now, expiresAt := expiresAt }
    let point := memoryPoint scope vectorId.str kind text
    match indexing with
    | .indexed vector =>
        .ok (some entry, { stores with
          entries := stores.entries ++ [entry], vectors := writePoint stores.vectors (point vector) })
    -- The row survives without its vector.
    | .lost vector =>
        let entry := { entry with vectorId := none }
        .ok (some entry, { stores with
          entries := stores.entries ++ [entry], vectors := writePoint stores.vectors (point vector) })
    | .refused =>
        let entry := { entry with vectorId := none }
        .ok (some entry, { stores with entries := stores.entries ++ [entry] })

/-- What a hit is resolved to. A point without a row and a memory that has
expired are skipped. -/
def resolve (stores : Stores) (now : Nat) (hit : SearchHit) : Option RecalledMemory :=
  match getByVectorId stores.entries hit.id with
  | none => none
  | some row =>
      if row.expiresAt.any (· < now) then none
      else some ⟨row.text, row.kind, hit.score, row.createdAt, some row.id⟩

/-- `recall`, where `embedded` is the answer of the embedding model and
`search` that of the vector store to the translated filter. -/
def recallMemories (stores : Stores) (scope : MemoryScope) (query : String)
    (embedded : Option (List Embedding))
    (search : Option (List FieldCondition) → List SearchHit) (now : Nat) :
    Except TypeError (List RecalledMemory) :=
  if !truthy (strip query) then .ok []
  else
    match embedded with
    | none | some [] => .ok []
    | some (_ :: _) =>
        (toFilter scope.vectorFilters).map fun filter =>
          (search filter).filterMap (stores.resolve now)

def forget (stores : Stores) (scope : MemoryScope) (memoryId : Uuid) (deletion : Deletion) :
    Except AppError (Bool × Stores) :=
  match stores.entries.find? fun entry => entry.id = memoryId with
  | none => .ok (false, stores)
  | some entry =>
      if entry.tenantId ≠ scope.tenantId then
        .error (validationError "That memory belongs to a different tenant." [])
      else
        .ok (true, { stores with
          entries := stores.entries.filter fun other => other.id ≠ memoryId
          vectors := match entry.vectorId with
            | some vectorId => deletion.apply stores.vectors [vectorId]
            | none => stores.vectors })

def forgetAll (glob : String → String → Bool) (stores : Stores) (scope : MemoryScope)
    (deletion : Deletion) : Except AppError (Nat × Stores) :=
  if scope.isAnonymous then
    .error (validationError ("forget_all needs a user or end user. Refusing to erase an " ++
      "entire tenant's memory from an under-specified scope.") [])
  else
    let entries := listScoped stores.entries scope 10000
    let vectorIds := entries.filterMap (·.vectorId)
    let ids := entries.map (·.id)
    let erased := { stores with
      entries := stores.entries.filter fun entry => !ids.contains entry.id
      vectors := if vectorIds.isEmpty then stores.vectors
        else deletion.apply stores.vectors vectorIds }
    .ok (entries.length, erased.clearSession glob scope)

end Stores

end AiPlatform.Memory
