import AiPlatform.AgentModel
import AiPlatform.Errors
import AiPlatform.Uuid
import AiPlatform.VectorStore

/-!
The rows of the memory service and the scope every operation takes:
`MemoryScope` of `app/services/memory.py` and the conversation and memory rows
of `app/models/knowledge.py`. Who a row belongs to is its tenant, its account
and its end user. The stores are the committed rows, the session values in
Valkey and the vector collections. Who set a session value is not stored by the
service; it is kept here to say whose value it is.
-/

namespace AiPlatform.Memory

open Agents (Json strip clip truthy)
open Vectors (Payload PayloadValue FilterValue VectorRecord Collections Embedding)

/-- `MEMORY_COLLECTION` -/
def memoryCollection : String := "platform_memory"

/-- `SUMMARISE_AFTER_MESSAGES` -/
def summariseAfterMessages : Nat := 40

structure Owner where
  tenantId : String
  userId : Option Uuid
  endUser : Option String
  deriving DecidableEq

structure MemoryScope where
  tenantId : String
  userId : Option Uuid
  endUser : Option String
  agentId : Option Uuid
  tenantNamed : truthy tenantId = true

namespace MemoryScope

/-- The constructor with the check of `__post_init__`. -/
def make (tenantId : String) (userId : Option Uuid) (endUser : Option String)
    (agentId : Option Uuid) : Except AppError MemoryScope :=
  if named : truthy tenantId = true then .ok ⟨tenantId, userId, endUser, agentId, named⟩
  else .error (validationError "A memory scope must name a tenant." [])

def owner (scope : MemoryScope) : Owner := ⟨scope.tenantId, scope.userId, scope.endUser⟩

def forAgent (scope : MemoryScope) (agentId : Option Uuid) : MemoryScope :=
  { scope with agentId := agentId }

def isAnonymous (scope : MemoryScope) : Bool :=
  scope.userId.isNone && !truthy (scope.endUser.getD "")

def uuidFilter : Option Uuid → FilterValue
  | some id => .scalar (.str id.str)
  | none => .none

def textFilter : Option String → FilterValue
  | some text => .scalar (.str text)
  | none => .none

def vectorFilters (scope : MemoryScope) : List (String × FilterValue) :=
  [("tenant_id", .scalar (.str scope.tenantId)), ("user_id", uuidFilter scope.userId),
    ("end_user", textFilter scope.endUser), ("agent_id", uuidFilter scope.agentId)]

def sessionPrefix (scope : MemoryScope) : String :=
  let own := match scope.userId with
    | some id => id.str
    | none => "anon"
  let who := match scope.endUser with
    | some name => if truthy name then name else own
    | none => own
  let agent := match scope.agentId with
    | some id => id.str
    | none => "any"
  s!"memory:session:{scope.tenantId}:{who}:{agent}:"

def sessionKey (scope : MemoryScope) (key : String) : String := scope.sessionPrefix ++ key

end MemoryScope

structure MemoryEntry where
  id : Uuid
  tenantId : String
  userId : Option Uuid
  endUser : Option String
  agentId : Option Uuid
  text : String
  kind : String
  conversationId : Option Uuid
  vectorId : Option String
  createdAt : Nat
  expiresAt : Option Nat

def MemoryEntry.owner (entry : MemoryEntry) : Owner :=
  ⟨entry.tenantId, entry.userId, entry.endUser⟩

structure Conversation where
  id : Uuid
  tenantId : String
  userId : Option Uuid
  endUser : Option String
  agentId : Option Uuid
  externalId : Option String
  title : Option String
  summary : Option String
  messageCount : Nat
  lastActivityAt : Option Nat

def Conversation.owner (conversation : Conversation) : Owner :=
  ⟨conversation.tenantId, conversation.userId, conversation.endUser⟩

structure ConversationMessage where
  conversationId : Uuid
  ordinal : Nat
  role : String
  content : String
  runId : Option Uuid

structure SessionValue where
  key : String
  value : Json
  setBy : Owner

structure RecalledMemory where
  text : String
  kind : String
  score : Rat
  createdAt : Nat
  memoryId : Option Uuid

structure ConversationView where
  conversation : Conversation
  messages : List ConversationMessage

structure Stores where
  entries : List MemoryEntry
  conversations : List Conversation
  messages : List ConversationMessage
  sessions : List SessionValue
  vectors : Collections

def Stores.empty : Stores := ⟨[], [], [], [], fun _ => none⟩

def uuidPayload : Option Uuid → PayloadValue
  | some id => .str id.str
  | none => .null

def textPayload : Option String → PayloadValue
  | some text => .str text
  | none => .null

/-- The point `remember` writes. The scope is on the point, so the store can
enforce it. -/
def memoryPoint (scope : MemoryScope) (vectorId kind text : String) (vector : Embedding) :
    VectorRecord where
  id := vectorId
  vector := vector
  payload :=
    [("tenant_id", .str scope.tenantId), ("user_id", uuidPayload scope.userId),
      ("end_user", textPayload scope.endUser), ("agent_id", uuidPayload scope.agentId),
      ("kind", .str kind), ("preview", .str (clip text 200))]

end AiPlatform.Memory
