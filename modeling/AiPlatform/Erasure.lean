import AiPlatform.MemoryScopes

/-!
What `forget_all` leaves of an individual. It deletes the newest 10,000 rows
that the scope selects, their points if the vector store applies the deletion,
and the session values whose keys match the pattern of the scope; conversations
stay. The erasure is complete and removes nothing of anybody else exactly when
these are all that the individual has, and nobody else's.
-/

namespace AiPlatform.Memory

open Agents (Json strip clip truthy)
open Vectors (VectorRecord Payload)

/-- The scope is one of the individual that `scope` names, for any agent. -/
theorem eq_forAgent {scope other : MemoryScope} (same : other.owner = scope.owner) :
    other = scope.forAgent other.agentId := by
  obtain ⟨tenantId, userId, endUser, agentId, named⟩ := other
  simp only [MemoryScope.owner, Owner.mk.injEq] at same
  obtain ⟨rfl, rfl, rfl⟩ := same
  rfl

def KeyedByScope (stores : Stores) : Prop :=
  ∀ stored ∈ stores.sessions, ∃ (scope : MemoryScope) (key : String),
    scope.owner = stored.setBy ∧ stored.key = scope.sessionKey key

theorem remember_sessions {stores after : Stores} {scope : MemoryScope} {text kind : String}
    {conversationId : Option Uuid} {expiresAt : Option Nat} {id vectorId : Uuid} {now : Nat}
    {indexing : Indexing} {result : Option MemoryEntry}
    (remembered : stores.remember scope text kind conversationId expiresAt id vectorId now
      indexing = .ok (result, after)) : after.sessions = stores.sessions := by
  cases remember_spec remembered with
  | nothing => rfl
  | stored => rfl

theorem forget_sessions {stores after : Stores} {scope : MemoryScope} {memoryId : Uuid}
    {deletion : Deletion} {removed : Bool}
    (forgotten : stores.forget scope memoryId deletion = .ok (removed, after)) :
    after.sessions = stores.sessions := by
  rcases forget_spec forgotten with rfl | ⟨_, _, _, _, rfl⟩
  · rfl
  · rfl

theorem step_sessions {glob : String → String → Bool} {stores after : Stores} {op : Op}
    (stepped : step glob stores op = some after) :
    ∀ stored ∈ after.sessions, stored ∈ stores.sessions ∨
      ∃ (scope : MemoryScope) (key : String),
        scope.owner = stored.setBy ∧ stored.key = scope.sessionKey key := by
  have settled {committed : Bool} {next : Stores} (same : next.sessions = stores.sessions) :
      ∀ stored ∈ (settle committed stores next).sessions, stored ∈ stores.sessions := by
    intro stored member
    cases committed with
    | true => exact same ▸ member
    | false => exact same ▸ member
  cases op with
  | remember scope text kind conversationId expiresAt id vectorId now indexing committed =>
      simp only [step] at stepped
      split at stepped
      · split at stepped
        · rename_i result next remembered
          cases stepped
          exact fun stored member => .inl (settled (remember_sessions remembered) stored member)
        · cases stepped
          exact fun stored member => .inl member
      · cases stepped
  | forget scope memoryId deletion committed =>
      simp only [step] at stepped
      split at stepped
      · rename_i removed next forgotten
        cases stepped
        exact fun stored member => .inl (settled (forget_sessions forgotten) stored member)
      · cases stepped
        exact fun stored member => .inl member
  | forgetAll scope deletion committed =>
      simp only [step] at stepped
      split at stepped
      · rename_i count next forgotten
        cases stepped
        have dropped : ∀ stored ∈ next.sessions, stored ∈ stores.sessions := by
          unfold Stores.forgetAll at forgotten
          split at forgotten
          · cases forgotten
          · cases forgotten
            exact fun stored member => (List.mem_filter.mp member).1
        cases committed with
        | true => exact fun stored member => .inl (dropped stored member)
        | false => exact fun stored member => .inl (dropped stored member)
      · cases stepped
        exact fun stored member => .inl member
  | setSession scope key value =>
      cases stepped
      intro stored member
      rcases List.mem_append.mp member with old | new
      · exact .inl (List.mem_filter.mp old).1
      · rw [List.mem_singleton.mp new]
        exact .inr ⟨scope, key, rfl, rfl⟩
  | clearSession scope =>
      cases stepped
      exact fun stored member => .inl (List.mem_filter.mp member).1
  | expireSession key =>
      cases stepped
      exact fun stored member => .inl (List.mem_filter.mp member).1
  | getOrCreateConversation scope externalId title id committed =>
      simp only [step] at stepped
      split at stepped
      · cases stepped
        have same : (stores.getOrCreateConversation scope externalId title id).2.sessions =
            stores.sessions := by
          unfold Stores.getOrCreateConversation
          split <;> rfl
        exact fun stored member => .inl (settled same stored member)
      · cases stepped
  | appendMessage conversationId role content runId now committed =>
      cases stepped
      have same : (stores.appendMessage conversationId role content runId now).sessions =
          stores.sessions := rfl
      exact fun stored member => .inl (settled same stored member)
  | summarizeConversation conversation completion committed =>
      cases stepped
      have same : (stores.summarizeConversation conversation completion).2.sessions =
          stores.sessions := by
        unfold Stores.summarizeConversation
        split
        · rfl
        · split <;> rfl
      exact fun stored member => .inl (settled same stored member)
  | deleteAgent agentId =>
      cases stepped
      exact fun stored member => .inl member

theorem keyed_reached {glob : String → String → Bool} {ok : Stores → Op → Prop}
    {stores : Stores} (history : History (step glob) ok Stores.empty stores) :
    KeyedByScope stores := by
  refine history.keeps KeyedByScope ?_ fun before op after _ stepped keyed stored member => ?_
  · intro stored member
    cases member
  · rcases step_sessions stepped stored member with old | set
    · exact keyed stored old
    · exact set

/-- Nothing of the individual is left under any scope that names it, and
nothing of anybody else was removed. -/
structure Erased (before after : Stores) (scope : MemoryScope) : Prop where
  entries : ∀ entry ∈ after.entries, entry.owner ≠ scope.owner
  points : ∀ point ∈ after.vectors.points memoryCollection, ¬Names point.payload scope.owner
  sessions : ∀ agentId key, ∀ stored ∈ after.sessions,
    stored.key = (scope.forAgent agentId).sessionKey key → stored.setBy ≠ scope.owner
  conversations : ∀ agentId externalId limit view,
    after.getConversation (scope.forAgent agentId) externalId limit = some view →
      view.conversation.owner = scope.owner →
        view.messages = [] ∧ view.conversation.summary = none
  entriesKept : ∀ entry ∈ before.entries, entry.owner ≠ scope.owner → entry ∈ after.entries
  pointsKept : ∀ point ∈ before.vectors.points memoryCollection,
    ¬Names point.payload scope.owner → point ∈ after.vectors.points memoryCollection
  sessionsKept : ∀ stored ∈ before.sessions, stored.setBy ≠ scope.owner →
    stored ∈ after.sessions

/-- The individual has no more than `forget_all` removes, and what it removes
is nobody else's. -/
structure Erasable (glob : String → String → Bool) (stores : Stores) (scope : MemoryScope)
    (deletion : Deletion) : Prop where
  /-- The newest 10,000 rows that the scope selects are the individual's rows. -/
  rows : ∀ entry ∈ stores.entries,
    entry ∈ listScoped stores.entries scope 10000 ↔ entry.owner = scope.owner
  /-- No point of the individual has lost its row, and the deletion is applied. -/
  points : ∀ point ∈ stores.vectors.points memoryCollection, Names point.payload scope.owner →
    deletion ≠ .raised false ∧
      ∃ entry ∈ stores.entries, entry.owner = scope.owner ∧ entry.vectorId = some point.id
  /-- The pattern matches the session keys of the individual and no others. -/
  sessions : ∀ stored ∈ stores.sessions,
    glob (scope.sessionPrefix ++ "*") stored.key = true ↔ stored.setBy = scope.owner
  conversations : ∀ agentId externalId limit view,
    stores.getConversation (scope.forAgent agentId) externalId limit = some view →
      view.conversation.owner = scope.owner →
        view.messages = [] ∧ view.conversation.summary = none

theorem mem_listScoped {entries : List MemoryEntry} {scope : MemoryScope} {limit : Nat}
    {entry : MemoryEntry} (member : entry ∈ listScoped entries scope limit) : entry ∈ entries :=
  (List.mem_filter.mp (List.mem_mergeSort.mp (List.mem_of_mem_take member))).1

/-- The stores that a successful `forget_all` leaves. -/
structure Forgotten (glob : String → String → Bool) (before after : Stores)
    (scope : MemoryScope) (deletion : Deletion) : Prop where
  entries : ∀ entry, entry ∈ after.entries ↔
    entry ∈ before.entries ∧ entry ∉ listScoped before.entries scope 10000
  points : ∀ point, point ∈ after.vectors.points memoryCollection ↔
    point ∈ before.vectors.points memoryCollection ∧
      (deletion = .raised false ∨ ∀ entry ∈ listScoped before.entries scope 10000,
        entry.vectorId ≠ some point.id)
  sessions : ∀ stored, stored ∈ after.sessions ↔
    stored ∈ before.sessions ∧ ¬glob (scope.sessionPrefix ++ "*") stored.key = true
  conversations : after.conversations = before.conversations
  messages : after.messages = before.messages

theorem mem_deletion_iff {deletion : Deletion} {vectors : Vectors.Collections}
    {ids : List String} {point : VectorRecord} :
    point ∈ (deletion.apply vectors ids).points memoryCollection ↔
      point ∈ vectors.points memoryCollection ∧ (deletion = .raised false ∨ point.id ∉ ids) := by
  cases deletion with
  | done => simp [Deletion.apply, Vectors.Collections.mem_points_delete]
  | raised applied =>
      cases applied <;> simp [Deletion.apply, Vectors.Collections.mem_points_delete]

theorem forgetAll_forgotten {glob : String → String → Bool} {before after : Stores}
    {scope : MemoryScope} {deletion : Deletion} {count : Nat}
    (distinct : (before.entries.map (·.id)).Nodup)
    (forgotten : before.forgetAll glob scope deletion = .ok (count, after)) :
    Forgotten glob before after scope deletion := by
  unfold Stores.forgetAll at forgotten
  split at forgotten
  · cases forgotten
  cases forgotten
  have rows (entry : MemoryEntry) (stored : entry ∈ before.entries) :
      entry.id ∈ (listScoped before.entries scope 10000).map (·.id) ↔
        entry ∈ listScoped before.entries scope 10000 := by
    constructor
    · intro listed
      obtain ⟨other, member, same⟩ := List.mem_map.mp listed
      rwa [← List.inj_on_of_nodup_map distinct (mem_listScoped member) stored same]
    · exact fun member => List.mem_map.mpr ⟨entry, member, rfl⟩
  constructor
  · intro entry
    simp only [Stores.clearSession, List.mem_filter, Bool.not_eq_true', List.contains_eq_mem,
      decide_eq_false_iff_not]
    constructor
    · rintro ⟨stored, unlisted⟩
      exact ⟨stored, fun listed => unlisted ((rows entry stored).mpr listed)⟩
    · rintro ⟨stored, unlisted⟩
      exact ⟨stored, fun listed => unlisted ((rows entry stored).mp listed)⟩
  · intro point
    have absent : point.id ∉ (listScoped before.entries scope 10000).filterMap (·.vectorId) ↔
        ∀ entry ∈ listScoped before.entries scope 10000, entry.vectorId ≠ some point.id := by
      simp
    simp only [Stores.clearSession]
    rw [← absent]
    split
    · rename_i none
      simp [List.isEmpty_iff.mp none]
    · exact mem_deletion_iff
  · intro stored
    simp [Stores.clearSession]
  · rfl
  · rfl

/-- After `forget_all` succeeds, the erasure is complete and exact if and only
if the individual had no more than it removes and what it removes is nobody
else's. -/
theorem forgetAll_erases_iff {glob : String → String → Bool} {before after : Stores}
    (history : History (step glob) (fun _ _ => True) Stores.empty before) {scope : MemoryScope}
    {deletion : Deletion} {count : Nat}
    (forgotten : before.forgetAll glob scope deletion = .ok (count, after)) :
    Erased before after scope ↔ Erasable glob before scope deletion := by
  have indexed := indexed_reached history
  have keyed := keyed_reached history
  have left := forgetAll_forgotten (distinct_reached history) forgotten
  have talks (scope : MemoryScope) (externalId : String) (limit : Nat) :
      after.getConversation scope externalId limit =
        before.getConversation scope externalId limit := by
    simp [Stores.getConversation, left.conversations, left.messages]
  constructor
  · intro erased
    have rows : ∀ entry ∈ before.entries,
        entry ∈ listScoped before.entries scope 10000 ↔ entry.owner = scope.owner := by
      intro entry stored
      constructor
      · intro listed
        by_contra other
        exact ((left.entries entry).mp (erased.entriesKept entry stored other)).2 listed
      · intro own
        by_contra unlisted
        exact erased.entries entry ((left.entries entry).mpr ⟨stored, unlisted⟩) own
    refine ⟨rows, fun point written names => ?_, fun stored member => ?_, ?_⟩
    · have gone : ¬point ∈ after.vectors.points memoryCollection :=
        fun kept => erased.points point kept names
      rw [left.points] at gone
      simp only [not_and, not_or, not_forall] at gone
      obtain ⟨applied, entry, listed, vector⟩ := gone written
      have stored := mem_listScoped listed
      exact ⟨applied, entry, stored, (rows entry stored).mp listed, not_ne_iff.mp vector⟩
    · constructor
      · intro hit
        by_contra other
        exact ((left.sessions stored).mp (erased.sessionsKept stored member other)).2 hit
      · intro own
        by_contra miss
        obtain ⟨setter, key, setBy, at'⟩ := keyed stored member
        rw [eq_forAgent (setBy.trans own)] at at'
        exact erased.sessions _ key stored ((left.sessions stored).mpr ⟨member, miss⟩) at' own
    · intro agentId externalId limit view seen
      exact erased.conversations agentId externalId limit view (by rwa [talks])
  · intro erasable
    constructor
    · intro entry kept own
      obtain ⟨stored, unlisted⟩ := (left.entries entry).mp kept
      exact unlisted ((erasable.rows entry stored).mpr own)
    · intro point kept names
      obtain ⟨written, survives⟩ := (left.points point).mp kept
      obtain ⟨applied, entry, stored, own, vector⟩ := erasable.points point written names
      rcases survives with lost | unlisted
      · exact applied lost
      · exact unlisted entry ((erasable.rows entry stored).mpr own) vector
    · intro agentId key stored kept _ own
      obtain ⟨member, miss⟩ := (left.sessions stored).mp kept
      exact miss ((erasable.sessions stored member).mpr own)
    · intro agentId externalId limit view seen
      exact erasable.conversations agentId externalId limit view (by rwa [talks] at seen)
    · intro entry stored other
      refine (left.entries entry).mpr ⟨stored, fun listed => ?_⟩
      exact other ((erasable.rows entry stored).mp listed)
    · intro point written foreign
      refine (left.points point).mpr ⟨written, .inr fun entry listed vector => ?_⟩
      -- A point with the id of a listed row names the owner of that row.
      have stored := mem_listScoped listed
      have names := indexed entry stored point written vector
      rw [(erasable.rows entry stored).mp listed] at names
      exact foreign names
    · intro stored member other
      exact (left.sessions stored).mpr
        ⟨member, fun hit => other ((erasable.sessions stored member).mp hit)⟩

def aliceWrote : Stores :=
  aliceStores.appendMessage ⟨4⟩ "user" "I drink tea." none 1

theorem aliceWrote_reached :
    History (step fun _ _ => false) (fun _ _ => True) Stores.empty aliceWrote :=
  .next (.appendMessage ⟨4⟩ "user" "I drink tea." none 1 true) aliceStores_reached trivial rfl

def aliceForgotten : Stores :=
  { aliceWrote with
    entries := [], vectors := aliceWrote.vectors.delete memoryCollection [Uuid.str ⟨3⟩] }

theorem aliceWrote_listed : listScoped aliceWrote.entries alice 10000 = [aliceEntry] := by
  have selected : aliceWrote.entries.filter alice.selects = [aliceEntry] := rfl
  simp [listScoped, selected]

theorem aliceWrote_forgotten :
    aliceWrote.forgetAll (fun _ _ => false) alice .done = .ok (1, aliceForgotten) := by
  unfold Stores.forgetAll
  rw [aliceWrote_listed]
  rfl

theorem forgetAll_erases_iff_alice :
    Erased aliceWrote aliceForgotten alice ↔
      Erasable (fun _ _ => false) aliceWrote alice .done :=
  forgetAll_erases_iff aliceWrote_reached aliceWrote_forgotten

/-- The messages of Alice's conversation outlive the erasure. -/
theorem forgetAll_keeps_conversation :
    ∃ before after count,
      History (step fun _ _ => false) (fun _ _ => True) Stores.empty before ∧
        alice.isAnonymous = false ∧
        before.forgetAll (fun _ _ => false) alice .done = .ok (count, after) ∧
          ¬Erased before after alice := by
  refine ⟨aliceWrote, aliceForgotten, 1, aliceWrote_reached, by decide, aliceWrote_forgotten,
    fun erased => ?_⟩
  have message : recent aliceForgotten.messages ⟨4⟩ 20 =
      [⟨⟨4⟩, 1, "user", "I drink tea.", none⟩] := by
    have own : (aliceForgotten.messages.filter fun message => message.conversationId = ⟨4⟩) =
        [⟨⟨4⟩, 1, "user", "I drink tea.", none⟩] := rfl
    unfold recent
    rw [own]
    simp
  have empty : recent aliceForgotten.messages ⟨4⟩ 20 = [] :=
    (erased.conversations none "thread" 20 _ rfl rfl).1
  rw [message] at empty
  cases empty

end AiPlatform.Memory
