import AiPlatform.Histories
import AiPlatform.MemoryService

/-!
Whose memories and conversations a scope reaches. Every operation of the
service takes effect in one transaction; a rollback undoes the rows but neither
the points nor the session values. The
invariant `Indexed` says that the payload of a point names the owner of the row
it resolves to, so what the vector filter admits is a row of the scope.
-/

namespace AiPlatform.Memory

open Agents (Json strip clip truthy)
open Vectors (FieldCondition TypeError SearchHit Collections Embedding VectorRecord Payload
  PayloadValue FilterValue toFilter admits Demands admits_toFilter)

inductive Op
  | remember (scope : MemoryScope) (text kind : String) (conversationId : Option Uuid)
      (expiresAt : Option Nat) (id vectorId : Uuid) (now : Nat) (indexing : Indexing)
      (committed : Bool)
  | forget (scope : MemoryScope) (memoryId : Uuid) (deletion : Deletion) (committed : Bool)
  | forgetAll (scope : MemoryScope) (deletion : Deletion) (committed : Bool)
  | setSession (scope : MemoryScope) (key : String) (value : Json)
  | clearSession (scope : MemoryScope)
  | expireSession (key : String)
  | getOrCreateConversation (scope : MemoryScope) (externalId : String) (title : Option String)
      (id : Uuid) (committed : Bool)
  | appendMessage (conversationId : Uuid) (role content : String) (runId : Option Uuid)
      (now : Nat) (committed : Bool)
  | summarizeConversation (conversation : Conversation)
      (completion : List ConversationMessage → Option String) (committed : Bool)
  | deleteAgent (agentId : Uuid)

def settle (committed : Bool) (before after : Stores) : Stores :=
  if committed then after
  else { before with vectors := after.vectors, sessions := after.sessions }

/-- `ON DELETE SET NULL` of the agent's foreign keys. -/
def Stores.deleteAgent (stores : Stores) (agentId : Uuid) : Stores :=
  { stores with
    entries := stores.entries.map fun entry =>
      if entry.agentId = some agentId then { entry with agentId := none } else entry
    conversations := stores.conversations.map fun conversation =>
      if conversation.agentId = some agentId then { conversation with agentId := none }
      else conversation }

/-- `uuid4()` gives an id that neither a row nor a point has. -/
def Stores.unused (stores : Stores) (id : Uuid) : Bool :=
  stores.entries.all (fun entry => entry.id ≠ id && entry.vectorId ≠ some id.str) &&
    (stores.vectors.points memoryCollection).all (fun point => point.id ≠ id.str) &&
      stores.conversations.all (fun conversation => conversation.id ≠ id)

section Runs

variable (glob : String → String → Bool)

def step (stores : Stores) : Op → Option Stores
  | .remember scope text kind conversationId expiresAt id vectorId now indexing committed =>
      if stores.unused id && stores.unused vectorId then
        match stores.remember scope text kind conversationId expiresAt id vectorId now indexing with
        | .ok (_, after) => some (settle committed stores after)
        | .error _ => some stores
      else none
  | .forget scope memoryId deletion committed =>
      match stores.forget scope memoryId deletion with
      | .ok (_, after) => some (settle committed stores after)
      | .error _ => some stores
  | .forgetAll scope deletion committed =>
      match stores.forgetAll glob scope deletion with
      | .ok (_, after) => some (settle committed stores after)
      | .error _ => some stores
  | .setSession scope key value => some (stores.setSession scope key value)
  | .clearSession scope => some (stores.clearSession glob scope)
  | .expireSession key =>
      some { stores with sessions := stores.sessions.filter fun stored => stored.key ≠ key }
  | .getOrCreateConversation scope externalId title id committed =>
      if stores.unused id then
        some (settle committed stores
          (stores.getOrCreateConversation scope externalId title id).2)
      else none
  | .appendMessage conversationId role content runId now committed =>
      some (settle committed stores
        (stores.appendMessage conversationId role content runId now))
  | .summarizeConversation conversation completion committed =>
      some (settle committed stores (stores.summarizeConversation conversation completion).2)
  | .deleteAgent agentId => some (stores.deleteAgent agentId)

end Runs

/-- The owner agrees with the scope in the tenant and in every part of the
identity that the scope names. -/
def MemoryScope.Covers (scope : MemoryScope) (owner : Owner) : Prop :=
  owner.tenantId = scope.tenantId ∧
    (∀ id, scope.userId = some id → owner.userId = some id) ∧
      ∀ name, scope.endUser = some name → owner.endUser = some name

theorem given_iff {Value : Type} [DecidableEq Value] {value column : Option Value} :
    given value column = true ↔ ∀ found, value = some found → column = some found := by
  cases value <;> simp [given]

theorem MemoryScope.Covers.eq_owner {scope : MemoryScope} {owner : Owner}
    (covers : scope.Covers owner) {id : Uuid} {name : String} (user : scope.userId = some id)
    (frontend : scope.endUser = some name) : owner = scope.owner := by
  obtain ⟨tenantId, userId, endUser⟩ := owner
  obtain ⟨tenant, users, frontends⟩ := covers
  simp only at tenant users frontends
  simp [MemoryScope.owner, tenant, users id user, frontends name frontend, user, frontend]

theorem findScoped_covers {conversations : List Conversation} {scope : MemoryScope}
    {externalId : String} {conversation : Conversation}
    (found : findScoped conversations scope externalId = some conversation) :
    conversation ∈ conversations ∧ scope.Covers conversation.owner := by
  have hit := List.find?_some found
  simp only [Bool.and_eq_true, decide_eq_true_eq] at hit
  obtain ⟨⟨⟨⟨tenant, _⟩, _⟩, user⟩, frontend⟩ := hit
  exact ⟨List.mem_of_find?_eq_some found, tenant, given_iff.mp user, given_iff.mp frontend⟩

structure Names (payload : Payload) (owner : Owner) : Prop where
  tenant : payload.lookup "tenant_id" = some (.str owner.tenantId)
  user : payload.lookup "user_id" = some (uuidPayload owner.userId)
  frontend : payload.lookup "end_user" = some (textPayload owner.endUser)

theorem names_memoryPoint (scope : MemoryScope) (vectorId kind text : String)
    (vector : Embedding) : Names (memoryPoint scope vectorId kind text vector).payload scope.owner := by
  constructor <;> rfl

theorem demands_uuid {payload : Payload} {key : String} {id column : Option Uuid}
    (named : payload.lookup key = some (uuidPayload column))
    (demands : Demands payload key (MemoryScope.uuidFilter id)) :
    ∀ found, id = some found → column = some found := by
  rintro found rfl
  cases column with
  | none => simp [MemoryScope.uuidFilter, Demands, named, uuidPayload] at demands
  | some other =>
      have same : other = found := by
        simpa [MemoryScope.uuidFilter, Demands, named, uuidPayload] using demands
      rw [same]

theorem demands_text {payload : Payload} {key : String} {text column : Option String}
    (named : payload.lookup key = some (textPayload column))
    (demands : Demands payload key (MemoryScope.textFilter text)) :
    ∀ found, text = some found → column = some found := by
  rintro found rfl
  cases column with
  | none => simp [MemoryScope.textFilter, Demands, named, textPayload] at demands
  | some other =>
      have same : other = found := by
        simpa [MemoryScope.textFilter, Demands, named, textPayload] using demands
      rw [same]

theorem filter_covers {scope : MemoryScope} {filter : Option (List FieldCondition)}
    (translated : toFilter scope.vectorFilters = .ok filter) {payload : Payload} {owner : Owner}
    (names : Names payload owner) (admitted : admits filter payload = true) :
    scope.Covers owner := by
  have demands := (admits_toFilter translated payload).mp admitted
  have tenant := demands ("tenant_id", .scalar (.str scope.tenantId))
    (by simp [MemoryScope.vectorFilters])
  have user := demands ("user_id", MemoryScope.uuidFilter scope.userId)
    (by simp [MemoryScope.vectorFilters])
  have frontend := demands ("end_user", MemoryScope.textFilter scope.endUser)
    (by simp [MemoryScope.vectorFilters])
  refine ⟨?_, demands_uuid names.user user, demands_text names.frontend frontend⟩
  simpa [Demands, names.tenant] using tenant

def Indexed (stores : Stores) : Prop :=
  ∀ entry ∈ stores.entries, ∀ point ∈ stores.vectors.points memoryCollection,
    entry.vectorId = some point.id → Names point.payload entry.owner

theorem Indexed.mono {stores after : Stores} (indexed : Indexed stores)
    (entries : ∀ entry ∈ after.entries, ∃ old ∈ stores.entries,
      old.owner = entry.owner ∧ old.vectorId = entry.vectorId)
    (points : ∀ point ∈ after.vectors.points memoryCollection,
      point ∈ stores.vectors.points memoryCollection) : Indexed after := by
  intro entry member point written same
  obtain ⟨old, before, owner, vector⟩ := entries entry member
  rw [← owner]
  exact indexed old before point (points point written) (vector.trans same)

theorem mem_writePoint {vectors : Collections} {point other : VectorRecord}
    (member : other ∈ (writePoint vectors point).points memoryCollection) :
    other = point ∨ other ∈ vectors.points memoryCollection := by
  unfold writePoint at member
  cases written : (vectors.ensureCollection
      ⟨memoryCollection, point.vector.length, .cosine⟩).upsert memoryCollection [point] with
  | none => exact .inr (by simpa [written] using member)
  | some after =>
      simp only [written, Option.getD_some] at member
      rcases Collections.mem_points_upsert written member with before | ⟨_, new⟩
      · exact .inr (by simpa using before)
      · exact .inl (List.mem_singleton.mp new)

theorem mem_deletion {deletion : Deletion} {vectors : Collections} {ids : List String}
    {point : VectorRecord}
    (member : point ∈ (deletion.apply vectors ids).points memoryCollection) :
    point ∈ vectors.points memoryCollection := by
  cases deletion with
  | done => exact (Collections.mem_points_delete.mp member).1
  | raised applied =>
      cases applied with
      | true => exact (Collections.mem_points_delete.mp member).1
      | false => exact member

theorem Indexed.added {stores after : Stores} (indexed : Indexed stores) {entry : MemoryEntry}
    {point : VectorRecord} (names : Names point.payload entry.owner)
    (freshPoint : ∀ old ∈ stores.entries, old.vectorId ≠ some point.id)
    (freshRow : ∀ old ∈ stores.vectors.points memoryCollection, entry.vectorId ≠ some old.id)
    (entries : ∀ row ∈ after.entries, row = entry ∨ row ∈ stores.entries)
    (points : ∀ other ∈ after.vectors.points memoryCollection,
      other = point ∨ other ∈ stores.vectors.points memoryCollection) : Indexed after := by
  intro row member other written same
  rcases entries row member with rfl | old <;> rcases points other written with rfl | before
  · exact names
  · exact absurd same (freshRow other before)
  · exact absurd same (freshPoint row old)
  · exact indexed row old other before same

/-- What a transaction of `remember` that succeeds leaves. -/
inductive Remembered (stores : Stores) (scope : MemoryScope) (id vectorId : Uuid) :
    Stores → Prop
  | nothing : Remembered stores scope id vectorId stores
  | stored (entry : MemoryEntry) (point : VectorRecord) (vectors : Collections)
      (keyed : entry.id = id) (owner : entry.owner = scope.owner) (named : scope.isAnonymous = false)
      (vector : ∀ id, entry.vectorId = some id → id = vectorId.str)
      (pointed : point.id = vectorId.str) (names : Names point.payload scope.owner)
      (written : ∀ other ∈ vectors.points memoryCollection,
        other = point ∨ other ∈ stores.vectors.points memoryCollection) :
      Remembered stores scope id vectorId
        { stores with entries := stores.entries ++ [entry], vectors := vectors }

theorem remember_spec {stores after : Stores} {scope : MemoryScope} {text kind : String}
    {conversationId : Option Uuid} {expiresAt : Option Nat} {id vectorId : Uuid} {now : Nat}
    {indexing : Indexing} {result : Option MemoryEntry}
    (remembered : stores.remember scope text kind conversationId expiresAt id vectorId now
      indexing = .ok (result, after)) : Remembered stores scope id vectorId after := by
  unfold Stores.remember at remembered
  simp only at remembered
  split at remembered
  · cases remembered
    exact .nothing
  · split at remembered
    · cases remembered
    · rename_i individual
      have named : scope.isAnonymous = false := by simpa using individual
      cases indexing with
      | indexed vector =>
          cases remembered
          refine .stored _ (memoryPoint scope vectorId.str kind (strip text) vector) _ rfl rfl named
            ?_ rfl (names_memoryPoint _ _ _ _ _) fun other member => mem_writePoint member
          intro found same
          exact (Option.some.inj same).symm
      | lost vector =>
          cases remembered
          refine .stored _ (memoryPoint scope vectorId.str kind (strip text) vector) _ rfl rfl named
            ?_ rfl (names_memoryPoint _ _ _ _ _) fun other member => mem_writePoint member
          intro found missing
          exact absurd missing (by simp)
      | refused =>
          cases remembered
          refine .stored _ (memoryPoint scope vectorId.str kind (strip text) []) _ rfl rfl named
            ?_ rfl (names_memoryPoint _ _ _ _ _) fun other member => .inr member
          intro found missing
          exact absurd missing (by simp)

theorem forget_spec {stores after : Stores} {scope : MemoryScope} {memoryId : Uuid}
    {deletion : Deletion} {removed : Bool}
    (forgotten : stores.forget scope memoryId deletion = .ok (removed, after)) :
    after = stores ∨ ∃ entry ∈ stores.entries, entry.id = memoryId ∧
      entry.tenantId = scope.tenantId ∧
      after = { stores with
        entries := stores.entries.filter fun other => other.id ≠ memoryId
        vectors := match entry.vectorId with
          | some vectorId => deletion.apply stores.vectors [vectorId]
          | none => stores.vectors } := by
  unfold Stores.forget at forgotten
  split at forgotten
  · cases forgotten
    exact .inl rfl
  · rename_i entry found
    split at forgotten
    · cases forgotten
    · rename_i own
      cases forgotten
      exact .inr ⟨entry, List.mem_of_find?_eq_some found,
        by simpa using List.find?_some found, by simpa using own, rfl⟩

theorem forgetAll_spec {glob : String → String → Bool} {stores after : Stores}
    {scope : MemoryScope} {deletion : Deletion} {count : Nat}
    (forgotten : stores.forgetAll glob scope deletion = .ok (count, after)) :
    (∃ keep, after.entries = stores.entries.filter keep) ∧
      (∀ point ∈ after.vectors.points memoryCollection,
        point ∈ stores.vectors.points memoryCollection) := by
  unfold Stores.forgetAll at forgotten
  split at forgotten
  · cases forgotten
  · cases forgotten
    refine ⟨⟨_, rfl⟩, fun point member => ?_⟩
    simp only [Stores.clearSession] at member
    split at member
    · exact member
    · exact mem_deletion member

inductive Effect (stores after : Stores) : Prop
  | kept (entries : after.entries = stores.entries)
      (points : ∀ point ∈ after.vectors.points memoryCollection,
        point ∈ stores.vectors.points memoryCollection)
  | removed (keep : MemoryEntry → Bool) (entries : after.entries = stores.entries.filter keep)
      (points : ∀ point ∈ after.vectors.points memoryCollection,
        point ∈ stores.vectors.points memoryCollection)
  | added (entry : MemoryEntry) (point : VectorRecord)
      (entries : after.entries = stores.entries ∨ after.entries = stores.entries ++ [entry])
      (points : ∀ other ∈ after.vectors.points memoryCollection,
        other = point ∨ other ∈ stores.vectors.points memoryCollection)
      (names : Names point.payload entry.owner)
      (freshId : ∀ old ∈ stores.entries, old.id ≠ entry.id)
      (freshPoint : ∀ old ∈ stores.entries, old.vectorId ≠ some point.id)
      (freshRow : ∀ old ∈ stores.vectors.points memoryCollection, entry.vectorId ≠ some old.id)
  | detached (agentId : Uuid) (same : after = stores.deleteAgent agentId)

theorem step_effect {glob : String → String → Bool} {stores after : Stores} {op : Op}
    (stepped : step glob stores op = some after) : Effect stores after := by
  cases op with
  | remember scope text kind conversationId expiresAt id vectorId now indexing committed =>
      simp only [step] at stepped
      split at stepped
      · rename_i unused
        split at stepped
        · rename_i result next remembered
          cases stepped
          obtain ⟨free, fresh⟩ := Bool.and_eq_true_iff.mp unused
          simp only [Stores.unused, Bool.and_eq_true, List.all_eq_true, decide_eq_true_eq]
            at free fresh
          cases remember_spec remembered with
          | nothing =>
              cases committed
              · exact .kept rfl fun _ member => member
              · exact .kept rfl fun _ member => member
          | stored entry point vectors keyed owner _ vector pointed names written =>
              rw [← owner] at names
              have freshId : ∀ old ∈ stores.entries, old.id ≠ entry.id := by
                rw [keyed]
                exact fun old member => (free.1.1 old member).1
              have freshPoint : ∀ old ∈ stores.entries, old.vectorId ≠ some point.id := by
                rw [pointed]
                exact fun old member => (fresh.1.1 old member).2
              have freshRow : ∀ old ∈ stores.vectors.points memoryCollection,
                  entry.vectorId ≠ some old.id := fun old member taken =>
                fresh.1.2 old member (vector _ taken)
              cases committed
              · exact .added entry point (.inl rfl) written names freshId freshPoint freshRow
              · exact .added entry point (.inr rfl) written names freshId freshPoint freshRow
        · cases stepped
          exact .kept rfl fun _ member => member
      · cases stepped
  | forget scope memoryId deletion committed =>
      simp only [step] at stepped
      split at stepped
      · rename_i removed next forgotten
        cases stepped
        rcases forget_spec forgotten with rfl | ⟨entry, _, _, _, rfl⟩
        · cases committed
          · exact .kept rfl fun _ member => member
          · exact .kept rfl fun _ member => member
        · have points : ∀ point ∈ (match entry.vectorId with
              | some vectorId => deletion.apply stores.vectors [vectorId]
              | none => stores.vectors).points memoryCollection,
              point ∈ stores.vectors.points memoryCollection := by
            intro point member
            split at member
            · exact mem_deletion member
            · exact member
          cases committed
          · exact .kept rfl points
          · exact .removed _ rfl points
      · cases stepped
        exact .kept rfl fun _ member => member
  | forgetAll scope deletion committed =>
      simp only [step] at stepped
      split at stepped
      · rename_i count next forgotten
        cases stepped
        obtain ⟨⟨keep, entries⟩, points⟩ := forgetAll_spec forgotten
        cases committed
        · exact .kept rfl points
        · exact .removed keep entries points
      · cases stepped
        exact .kept rfl fun _ member => member
  | setSession scope key value =>
      cases stepped
      exact .kept rfl fun _ member => member
  | clearSession scope =>
      cases stepped
      exact .kept rfl fun _ member => member
  | expireSession key =>
      cases stepped
      exact .kept rfl fun _ member => member
  | getOrCreateConversation scope externalId title id committed =>
      simp only [step, Stores.getOrCreateConversation] at stepped
      split at stepped
      · cases stepped
        cases committed <;> split <;> exact .kept rfl fun _ member => member
      · cases stepped
  | appendMessage conversationId role content runId now committed =>
      cases stepped
      cases committed <;> exact .kept rfl fun _ member => member
  | summarizeConversation conversation completion committed =>
      cases stepped
      unfold Stores.summarizeConversation
      cases committed <;> split
      · exact .kept rfl fun _ member => member
      · split <;> exact .kept rfl fun _ member => member
      · exact .kept rfl fun _ member => member
      · split <;> exact .kept rfl fun _ member => member
  | deleteAgent agentId =>
      cases stepped
      exact .detached agentId rfl

theorem Effect.indexed {stores after : Stores} (effect : Effect stores after)
    (indexed : Indexed stores) : Indexed after := by
  cases effect with
  | kept entries points =>
      refine indexed.mono (fun row member => ⟨row, ?_, rfl, rfl⟩) points
      rwa [entries] at member
  | removed keep entries points =>
      refine indexed.mono (fun row member => ⟨row, ?_, rfl, rfl⟩) points
      rw [entries] at member
      exact (List.mem_filter.mp member).1
  | added entry point entries points names _ freshPoint freshRow =>
      refine indexed.added names freshPoint freshRow (fun row member => ?_) points
      rcases entries with same | grown
      · rw [same] at member
        exact .inr member
      · rw [grown] at member
        exact (List.mem_append.mp member).symm.imp_left List.mem_singleton.mp
  | detached agentId same =>
      subst same
      refine indexed.mono (fun row member => ?_) (fun _ written => written)
      obtain ⟨old, before, rfl⟩ := List.mem_map.mp member
      refine ⟨old, before, ?_⟩
      split
      · exact ⟨rfl, rfl⟩
      · exact ⟨rfl, rfl⟩

theorem Effect.distinct {stores after : Stores} (effect : Effect stores after)
    (distinct : (stores.entries.map (·.id)).Nodup) : (after.entries.map (·.id)).Nodup := by
  cases effect with
  | kept entries _ => rwa [entries]
  | removed keep entries _ =>
      rw [entries]
      exact distinct.sublist (List.filter_sublist.map _)
  | added entry point entries _ _ freshId _ _ =>
      rcases entries with same | grown
      · rwa [same]
      · rw [grown]
        exact distinct_concat _ distinct freshId
  | detached agentId same =>
      subst same
      have ids : ((stores.deleteAgent agentId).entries.map (·.id)) = stores.entries.map (·.id) := by
        simp only [Stores.deleteAgent, List.map_map]
        refine List.map_congr_left fun row _ => ?_
        simp only [Function.comp_apply]
        split <;> rfl
      rwa [ids]

theorem indexed_reached {glob : String → String → Bool} {ok : Stores → Op → Prop}
    {stores : Stores} (history : History (step glob) ok Stores.empty stores) : Indexed stores := by
  refine history.keeps Indexed ?_ fun _ _ _ _ stepped => (step_effect stepped).indexed
  intro entry member
  cases member

theorem distinct_reached {glob : String → String → Bool} {ok : Stores → Op → Prop}
    {stores : Stores} (history : History (step glob) ok Stores.empty stores) :
    (stores.entries.map (·.id)).Nodup :=
  history.keeps (fun stores => (stores.entries.map (·.id)).Nodup) List.nodup_nil
    fun _ _ _ _ stepped => (step_effect stepped).distinct

structure Reaches (stores : Stores) (scope : MemoryScope) : Prop where
  recalled : ∀ query embedded search limit threshold now memories,
    (∀ filter, stores.vectors.Answers memoryCollection filter limit threshold (search filter)) →
      stores.recallMemories scope query embedded search now = .ok memories →
        ∀ memory ∈ memories, ∃ entry ∈ stores.entries, memory.memoryId = some entry.id ∧
          memory.text = entry.text ∧ scope.Covers entry.owner
  forgotten : ∀ memoryId deletion removed after,
    stores.forget scope memoryId deletion = .ok (removed, after) →
      (∀ entry ∈ stores.entries, entry ∈ after.entries ∨
        entry.id = memoryId ∧ entry.tenantId = scope.tenantId) ∧
      (∀ point ∈ stores.vectors.points memoryCollection,
        point ∈ after.vectors.points memoryCollection ∨ ∃ entry ∈ stores.entries,
          entry.id = memoryId ∧ entry.tenantId = scope.tenantId ∧
            entry.vectorId = some point.id) ∧
      after.conversations = stores.conversations ∧ after.messages = stores.messages ∧
        after.sessions = stores.sessions
  read : ∀ externalId limit view, stores.getConversation scope externalId limit = some view →
    view.conversation ∈ stores.conversations ∧ scope.Covers view.conversation.owner ∧
      ∀ message ∈ view.messages,
        message ∈ stores.messages ∧ message.conversationId = view.conversation.id
  continued : ∀ externalId title id conversation after,
    stores.getOrCreateConversation scope externalId title id = (conversation, after) →
      (conversation ∈ stores.conversations ∧ scope.Covers conversation.owner ∧ after = stores) ∨
        (conversation.owner = scope.owner ∧
          after = { stores with conversations := stores.conversations ++ [conversation] })

theorem recent_mem {messages : List ConversationMessage} {conversationId : Uuid} {limit : Nat}
    {message : ConversationMessage} (member : message ∈ recent messages conversationId limit) :
    message ∈ messages ∧ message.conversationId = conversationId := by
  have taken := List.mem_of_mem_take (List.mem_reverse.mp member)
  simpa using List.mem_mergeSort.mp taken

theorem recall_hit {stores : Stores} {now : Nat} {scope : MemoryScope} {query : String}
    {embedded : Option (List Embedding)}
    {search : Option (List FieldCondition) → List SearchHit} {memories : List RecalledMemory}
    (recalled : stores.recallMemories scope query embedded search now = .ok memories)
    {memory : RecalledMemory} (member : memory ∈ memories) :
    ∃ filter, toFilter scope.vectorFilters = .ok filter ∧
      ∃ hit ∈ search filter, stores.resolve now hit = some memory := by
  unfold Stores.recallMemories at recalled
  split at recalled
  · cases recalled
    cases member
  · split at recalled
    · cases recalled
      cases member
    · cases recalled
      cases member
    · cases translated : toFilter scope.vectorFilters with
      | error message => simp [translated, Except.map] at recalled
      | ok filter =>
          simp only [translated, Except.map, Except.ok.injEq] at recalled
          subst recalled
          obtain ⟨hit, hits, resolved⟩ := List.mem_filterMap.mp member
          exact ⟨filter, rfl, hit, hits, resolved⟩

theorem resolve_iff {stores : Stores} {now : Nat} {hit : SearchHit} {memory : RecalledMemory} :
    stores.resolve now hit = some memory ↔ ∃ row, getByVectorId stores.entries hit.id = some row ∧
      row.expiresAt.all (now ≤ ·) = true ∧
      ⟨row.text, row.kind, hit.score, row.createdAt, some row.id⟩ = memory := by
  unfold Stores.resolve
  cases getByVectorId stores.entries hit.id with
  | none => simp
  | some row =>
      cases expires : row.expiresAt with
      | none => simp [expires]
      | some moment =>
          by_cases passed : moment < now
          · simp [expires, passed]
          · simp [expires, passed, Nat.le_of_not_lt passed]

theorem recall_covers {stores : Stores} (indexed : Indexed stores) {scope : MemoryScope}
    {query : String} {embedded : Option (List Embedding)}
    {search : Option (List FieldCondition) → List SearchHit} {limit : Nat}
    {threshold : Option Rat} {now : Nat} {memories : List RecalledMemory}
    (answers : ∀ filter,
      stores.vectors.Answers memoryCollection filter limit threshold (search filter))
    (recalled : stores.recallMemories scope query embedded search now = .ok memories)
    {memory : RecalledMemory} (member : memory ∈ memories) :
    ∃ entry ∈ stores.entries, memory.memoryId = some entry.id ∧ memory.text = entry.text ∧
      scope.Covers entry.owner := by
  obtain ⟨filter, translated, hit, hits, resolved⟩ := recall_hit recalled member
  obtain ⟨row, found, _, rfl⟩ := resolve_iff.mp resolved
  obtain ⟨point, stored, id, _, admitted⟩ := (answers filter).found hit hits
  have listed : row ∈ stores.entries := List.mem_reverse.mp (List.mem_of_find?_eq_some found)
  have keyed : row.vectorId = some point.id := by
    rw [id]
    simpa using List.find?_some found
  exact ⟨row, listed, rfl, rfl,
    filter_covers translated (indexed row listed point stored keyed) admitted⟩

theorem kept_points {deletion : Deletion} {vectors : Collections} {ids : List String}
    {point : VectorRecord} (member : point ∈ vectors.points memoryCollection) :
    point ∈ (deletion.apply vectors ids).points memoryCollection ∨ point.id ∈ ids := by
  have deleted : point ∈ (vectors.delete memoryCollection ids).points memoryCollection ∨
      point.id ∈ ids := by
    by_cases listed : point.id ∈ ids
    · exact .inr listed
    · exact .inl (Collections.mem_points_delete.mpr ⟨member, fun _ => listed⟩)
  cases deletion with
  | done => exact deleted
  | raised applied =>
      cases applied with
      | true => exact deleted
      | false => exact .inl member

theorem forget_reaches {stores after : Stores} {scope : MemoryScope} {memoryId : Uuid}
    {deletion : Deletion} {removed : Bool} (distinct : (stores.entries.map (·.id)).Nodup)
    (forgotten : stores.forget scope memoryId deletion = .ok (removed, after)) :
    (∀ entry ∈ stores.entries, entry ∈ after.entries ∨
      entry.id = memoryId ∧ entry.tenantId = scope.tenantId) ∧
    (∀ point ∈ stores.vectors.points memoryCollection,
      point ∈ after.vectors.points memoryCollection ∨ ∃ entry ∈ stores.entries,
        entry.id = memoryId ∧ entry.tenantId = scope.tenantId ∧
          entry.vectorId = some point.id) ∧
    after.conversations = stores.conversations ∧ after.messages = stores.messages ∧
      after.sessions = stores.sessions := by
  rcases forget_spec forgotten with rfl | ⟨found, listed, keyed, own, rfl⟩
  · exact ⟨fun _ member => .inl member, fun _ member => .inl member, rfl, rfl, rfl⟩
  · refine ⟨fun entry member => ?_, fun point member => ?_, rfl, rfl, rfl⟩
    · by_cases same : entry.id = memoryId
      · have one : entry = found :=
          List.inj_on_of_nodup_map distinct member listed (same.trans keyed.symm)
        exact .inr ⟨same, one ▸ own⟩
      · exact .inl (List.mem_filter.mpr ⟨member, by simpa using same⟩)
    · cases vector : found.vectorId with
      | none => exact .inl (by simpa [vector] using member)
      | some vectorId =>
          have left : point ∈ (deletion.apply stores.vectors [vectorId]).points memoryCollection ∨
              point.id ∈ [vectorId] := kept_points member
          rcases left with kept | gone
          · exact .inl kept
          · exact .inr ⟨found, listed, keyed, own, by rw [vector, List.mem_singleton.mp gone]⟩

/-- In every reachable state a scope reaches memories and conversations it
covers only, and where it names both the account and the end user it covers
nobody but that individual. -/
theorem scopes_reach {glob : String → String → Bool} {stores : Stores}
    (history : History (step glob) (fun _ _ => True) Stores.empty stores) (scope : MemoryScope) :
    Reaches stores scope ∧
      ∀ user name, scope.userId = some user → scope.endUser = some name →
        ∀ owner, scope.Covers owner → owner = scope.owner := by
  constructor
  · constructor
    · intro query embedded search limit threshold now memories answers recalled memory member
      exact recall_covers (indexed_reached history) answers recalled member
    · intro memoryId deletion removed after forgotten
      exact forget_reaches (distinct_reached history) forgotten
    · intro externalId limit view seen
      obtain ⟨conversation, found, rfl⟩ := Option.map_eq_some_iff.mp seen
      obtain ⟨listed, covers⟩ := findScoped_covers found
      exact ⟨listed, covers, fun message member => recent_mem member⟩
    · intro externalId title id conversation after continued
      unfold Stores.getOrCreateConversation at continued
      split at continued
      · rename_i found
        cases continued
        obtain ⟨listed, covers⟩ := findScoped_covers found
        exact .inl ⟨listed, covers, rfl⟩
      · cases continued
        exact .inr ⟨rfl, rfl⟩
  · intro user name account frontend owner covers
    exact covers.eq_owner account frontend

def alice : MemoryScope := ⟨"default", some ⟨1⟩, some "alice", none, by decide⟩

def account : MemoryScope := ⟨"default", some ⟨1⟩, none, none, by decide⟩

def bob : MemoryScope := ⟨"default", some ⟨1⟩, some "bob", none, by decide⟩

def aliceRemembers : List Op :=
  [.remember alice "likes tea" "fact" none none ⟨2⟩ ⟨3⟩ 0 (.indexed [1]) true,
    .getOrCreateConversation alice "thread" none ⟨4⟩ true]

def alicePoint : VectorRecord := memoryPoint alice (Uuid.str ⟨3⟩) "fact" "likes tea" [1]

def aliceEntry : MemoryEntry :=
  { id := ⟨2⟩, tenantId := "default", userId := some ⟨1⟩, endUser := some "alice", agentId := none
    text := "likes tea", kind := "fact", conversationId := none
    vectorId := some (Uuid.str ⟨3⟩), createdAt := 0, expiresAt := none }

def aliceStores : Stores where
  entries := [aliceEntry]
  conversations :=
    [{ id := ⟨4⟩, tenantId := "default", userId := some ⟨1⟩, endUser := some "alice"
       agentId := none, externalId := some "thread", title := none, summary := none
       messageCount := 0, lastActivityAt := none }]
  messages := []
  sessions := []
  vectors := writePoint (fun _ => none) alicePoint

def aliceFound (filter : Option (List FieldCondition)) : List SearchHit :=
  if admits filter alicePoint.payload then [⟨alicePoint.id, 1, alicePoint.payload⟩] else []

theorem aliceStores_reached :
    History (step fun _ _ => false) (fun _ _ => True) Stores.empty aliceStores :=
  have replayed : replay (step fun _ _ => false) (fun _ _ => true) Stores.empty aliceRemembers =
      some aliceStores := rfl
  history_replay (fun _ _ _ => trivial) _ replayed

theorem aliceFound_answers (filter : Option (List FieldCondition)) :
    aliceStores.vectors.Answers memoryCollection filter 5 (some (3 / 10)) (aliceFound filter) := by
  unfold aliceFound
  split
  · rename_i admitted
    refine ⟨by simp, ?_, ?_⟩
    · simp only [List.mem_singleton, Option.mem_some_iff]
      rintro hit rfl threshold rfl
      decide +kernel
    · simp only [List.mem_singleton]
      rintro hit rfl
      exact ⟨alicePoint, List.mem_singleton.mpr rfl, rfl, rfl, admitted⟩
  · exact ⟨by simp, by simp, by simp⟩

theorem scopes_reach_alice : Reaches aliceStores alice ∧
    ∀ user name, alice.userId = some user → alice.endUser = some name →
      ∀ owner, alice.Covers owner → owner = alice.owner :=
  scopes_reach aliceStores_reached alice

/-- An account that talks through a frontend recalls and continues what its end
user Alice left, and another end user deletes it. -/
theorem scope_reaches_others :
    ∃ stores, History (step fun _ _ => false) (fun _ _ => True) Stores.empty stores ∧
      account.isAnonymous = false ∧ bob.isAnonymous = false ∧
      (∃ search memories, (∀ filter,
          stores.vectors.Answers memoryCollection filter 5 (some (3 / 10)) (search filter)) ∧
        stores.recallMemories account "tea" (some [[1]]) search 0 = .ok memories ∧
          ∃ memory ∈ memories, ∃ entry ∈ stores.entries,
            memory.memoryId = some entry.id ∧ entry.owner ≠ account.owner) ∧
      (∃ view, stores.getConversation account "thread" 20 = some view ∧
        view.conversation.owner ≠ account.owner) ∧
      ∃ after, stores.forget bob ⟨2⟩ .done = .ok (true, after) ∧
        ∃ entry ∈ stores.entries, entry ∉ after.entries ∧ entry.owner ≠ bob.owner := by
  refine ⟨aliceStores, aliceStores_reached, by decide, by decide,
    ⟨aliceFound, _, aliceFound_answers, rfl, ?_⟩, ⟨_, rfl, by decide⟩, _, rfl, aliceEntry, ?_⟩
  · exact ⟨_, List.mem_singleton.mpr rfl, aliceEntry, List.mem_singleton.mpr rfl, rfl, by decide⟩
  · exact ⟨List.mem_singleton.mpr rfl, List.not_mem_nil, by decide⟩

end AiPlatform.Memory
