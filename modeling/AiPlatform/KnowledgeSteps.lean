import AiPlatform.Ingestion

/-!
What an operation and a commit do to the three stores, said once. An operation
that writes to the vector store or the object store takes effect when it answers;
when it raises it may have taken effect or not.
-/

namespace AiPlatform.Knowledge

open Vectors (Collections PayloadValue VectorRecord)

def Op.quiet : Op → Bool
  | .base _ | .baseNamed _ | .basesByIds _ | .findDuplicate _ _ | .getWithBase _
  | .chunksByVectorIds _
  | .insertBase _ | .save _ | .deleteChunks _ | .insertChunks _ | .deleteDocument _
  | .deleteBase _ | .searchVectors _ _ _ _ _ | .getObject _ | .embed _ _ | .recognise _ _
  | .respond _ | .raise _ => true
  | .listForDocument _ | .draw _ | .insertDocument _ | .ensureCollection _ | .deleteCollection _
  | .upsert _ _ | .deleteVectors _ _ | .putObject _ _ | .removeObject _ | .claimNextPending
  | .commit | .rollback | .readAgain _ | .markFailed _ _ => false

def Stores (before after : Collections) : (op : Op) → Reply op → Prop
  | .ensureCollection spec, reply =>
      after = before.ensureCollection spec ∨ (reply ≠ .ok () ∧ after = before)
  | .deleteCollection name, reply =>
      after = before.deleteCollection name ∨ (reply ≠ .ok () ∧ after = before)
  | .upsert collection records, reply =>
      before.upsert collection records = some after ∨ (reply ≠ .ok () ∧ after = before)
  | .deleteVectors collection ids, reply =>
      after = before.delete collection ids ∨ (reply ≠ .ok () ∧ after = before)
  | _, _ => False

def Places (before after : String → Option Content) : (op : Op) → Reply op → Prop
  | .putObject key content, _ => after = Function.update before key (some content)
  | .removeObject key, reply =>
      after = Function.update before key none ∨ (reply ≠ .ok () ∧ after = before)
  | _, _ => False

inductive Effect (i : Nat) (session : Session) (shared : Shared) :
    (op : Op) → Reply op → Shared → Prop
  | quiet (op : Op) (reply : Reply op) (quiet : op.quiet = true) :
      Effect i session shared op reply shared
  | stores (op : Op) (reply : Reply op) (vectors : Collections)
      (stores : Stores shared.vectors vectors op reply) :
      Effect i session shared op reply (shared.storing vectors)
  | places (op : Op) (reply : Reply op) (objects : String → Option Content)
      (places : Places shared.objects objects op reply) :
      Effect i session shared op reply { shared with objects := objects }
  | lists (id : Uuid) :
      Effect i session shared (.listForDocument id)
        (shared.chunks.filter fun row => row.documentId = id)
        { shared with deleting := shared.deleting ++ [(i, id)] }
  | draws (count : Nat) (ids : List Uuid) (length : ids.length = count) (distinct : ids.Nodup)
      (fresh : ∀ id ∈ ids, ∀ used ∈ shared.drawn, used.1 ≠ id) :
      Effect i session shared (.draw count) ids
        { shared with drawn := shared.drawn ++ ids.map fun id => (id, i) }
  | refers (document : Document) (now : Nat)
      (base : (shared.base document.knowledgeBaseId).isSome = true) :
      Effect i session shared (.insertDocument document) now
        { shared with shares := shared.shares ++ [(i, document.knowledgeBaseId)] }
  | idle : Effect i session shared .claimNextPending none shared
  | claims (row : Document) (stored : row ∈ shared.documents) (uploaded : row.status = .uploaded)
      (free : shared.locks.free i row.id = true) :
      Effect i session shared .claimNextPending (some row)
        { shared with locks := shared.locks.acquire i [row.id] }
  | commits (after : Shared) (committed : shared.commit i session = some after) :
      Effect i session shared .commit (.ok ()) after
  | commitLost (failure : Failure) (after : Shared)
      (committed : shared.commit i session = some after) :
      Effect i session shared .commit (.error failure) (after.fallen i session)
  | commitFails (failure : Failure) :
      Effect i session shared .commit (.error failure) ((shared.close i).fallen i session)
  | rollback : Effect i session shared .rollback () ((shared.close i).fallen i session)
  | readsAgain (id : Uuid) (row : Document) (stored : row ∈ shared.documents) (same : row.id = id) :
      Effect i session shared (.readAgain id) (.ok (some row)) shared
  | gone (id : Uuid) (reply : Except Failure (Option Document))
      (missing : ∀ row, reply ≠ .ok (some row)) :
      Effect i session shared (.readAgain id) reply (shared.handled i)
  | markFails (loaded : Document) (message : String) (reply : Except Failure Unit) :
      Effect i session shared (.markFailed loaded message) reply (shared.handled i)
  | marks (loaded : Document) (message : String) (reply : Except Failure Unit)
      (free : shared.locks.free i loaded.id = true) :
      Effect i session shared (.markFailed loaded message) reply
        ((shared.mark i loaded message).handled i)

section Effects

variable {i : Nat} {session : Session} {shared next : Shared} {op : Op} {answer : Answer}
  {reply : Reply op}

theorem call_some {effect : Option Shared} {result : Except Failure Unit}
    (reacts : shared.call effect answer = some (result, next)) :
    effect = some next ∨ (result ≠ .ok () ∧ next = shared) := by
  cases answer with
  | nothing | lost =>
      obtain ⟨after, taken, same⟩ := Option.map_eq_some_iff.mp reacts
      cases same
      exact .inl taken
  | fails failure =>
      cases reacts
      exact .inr ⟨nofun, rfl⟩
  | time | drawn | chosen | embedded | recognised | hits => cases reacts

theorem call_storing (effect : Option Collections) {result : Except Failure Unit}
    (reacts : shared.call (effect.map shared.storing) answer = some (result, next)) :
    ∃ vectors, next = shared.storing vectors ∧
      (effect = some vectors ∨ (result ≠ .ok () ∧ vectors = shared.vectors)) := by
  rcases call_some reacts with taken | ⟨raised, rfl⟩
  · obtain ⟨vectors, same, rfl⟩ := Option.map_eq_some_iff.mp taken
    exact ⟨vectors, rfl, .inl same⟩
  · exact ⟨next.vectors, rfl, .inr ⟨raised, rfl⟩⟩

theorem call_quiet {effect : Option Shared} {result : Except Failure Unit}
    (same : ∀ after, effect = some after → after = shared)
    (reacts : shared.call effect answer = some (result, next)) : next = shared := by
  rcases call_some reacts with taken | ⟨_, rfl⟩
  · exact same next taken
  · rfl

theorem claim_some {found : Option Document}
    (reacts : shared.claim i answer = some (found, next)) :
    Effect i session shared .claimNextPending found next := by
  cases answer with
  | nothing =>
      simp only [Shared.claim] at reacts
      split at reacts
      · cases reacts
      · cases reacts
        exact .idle
  | chosen id =>
      obtain ⟨row, picked, same⟩ := Option.map_eq_some_iff.mp reacts
      have keyed := List.find?_some picked
      simp only [Bool.and_eq_true, decide_eq_true_eq] at keyed
      obtain ⟨stored, ready⟩ := List.mem_filter.mp (List.mem_of_find?_eq_some picked)
      simp only [Bool.and_eq_true, decide_eq_true_eq] at ready
      cases same
      rw [← keyed.1]
      exact .claims row stored ready.1 ready.2
  | time | drawn | embedded | recognised | hits | fails | lost => cases reacts

theorem commitWorker_some {result : Except Failure Unit}
    (reacts : shared.commitWorker i session answer = some (result, next)) :
    Effect i session shared .commit result next := by
  cases answer with
  | nothing =>
      obtain ⟨after, committed, same⟩ := Option.map_eq_some_iff.mp reacts
      cases same
      exact .commits _ committed
  | lost failure =>
      obtain ⟨after, committed, same⟩ := Option.map_eq_some_iff.mp reacts
      cases same
      exact .commitLost failure after committed
  | fails failure =>
      cases reacts
      exact .commitFails failure
  | time | drawn | chosen | embedded | recognised | hits => cases reacts

theorem markFailed_some {loaded : Document} {message : String} {result : Except Failure Unit}
    (reacts : shared.markFailed i loaded message answer = some (result, next)) :
    Effect i session shared (.markFailed loaded message) result next := by
  cases answer with
  | nothing =>
      simp only [Shared.markFailed] at reacts
      split at reacts
      · cases reacts
        exact .markFails loaded message _
      · split at reacts
        · rename_i free
          cases reacts
          exact .marks loaded message _ free
        · cases reacts
  | lost failure =>
      simp only [Shared.markFailed] at reacts
      split at reacts
      · rename_i held
        cases reacts
        exact .marks loaded message _ (Bool.and_eq_true_iff.mp held).1
      · cases reacts
  | fails failure =>
      cases reacts
      exact .markFails loaded message _
  | time | drawn | chosen | embedded | recognised | hits => cases reacts

theorem readAgain_some {id : Uuid} {found : Except Failure (Option Document)}
    (reacts : shared.react i session (.readAgain id) answer = some (found, next)) :
    Effect i session shared (.readAgain id) found next := by
  cases answer with
  | fails failure =>
      cases reacts
      exact .gone id _ fun _ same => by cases same
  | nothing | time | drawn | chosen | embedded | recognised | hits | lost =>
      simp only [Shared.react] at reacts
      split at reacts
      · rename_i row stored
        cases reacts
        obtain ⟨listed, same⟩ := Rows.get_some stored
        exact .readsAgain id row listed same
      · cases reacts
        exact .gone id _ fun _ same => by cases same

theorem effect (reacts : shared.react i session op answer = some (reply, next)) :
    Effect i session shared op reply next := by
  cases op with
  | base | baseNamed | basesByIds | findDuplicate | getWithBase | chunksByVectorIds | insertBase
  | deleteDocument | deleteBase | respond =>
      cases reacts
      exact .quiet _ _ rfl
  | save | deleteChunks =>
      rw [call_quiet (fun after same => (Option.some.inj same).symm) reacts]
      exact .quiet _ _ rfl
  | insertChunks rows =>
      have same := call_quiet (fun after taken => ?_) reacts
      · rw [same]
        exact .quiet _ _ rfl
      · split at taken
        · exact (Option.some.inj taken).symm
        · cases taken
  | listForDocument id =>
      cases reacts
      exact .lists id
  | draw count =>
      cases answer with
      | drawn ids =>
          simp only [Shared.react] at reacts
          split at reacts
          · rename_i fresh
            cases reacts
            exact .draws count _ fresh.1 fresh.2.1 fresh.2.2
          · cases reacts
      | nothing | time | chosen | embedded | recognised | hits | fails | lost => cases reacts
  | insertDocument document =>
      cases answer with
      | time now =>
          simp only [Shared.react] at reacts
          split at reacts
          · rename_i base
            cases reacts
            exact .refers document _ base
          · cases reacts
      | nothing | drawn | chosen | embedded | recognised | hits | fails | lost => cases reacts
  | ensureCollection spec =>
      obtain ⟨vectors, rfl, taken⟩ :=
        call_storing (some (shared.vectors.ensureCollection spec)) reacts
      exact .stores _ _ vectors (taken.imp_left fun same => (Option.some.inj same).symm)
  | deleteCollection name =>
      obtain ⟨vectors, rfl, taken⟩ :=
        call_storing (some (shared.vectors.deleteCollection name)) reacts
      exact .stores _ _ vectors (taken.imp_left fun same => (Option.some.inj same).symm)
  | deleteVectors collection ids =>
      obtain ⟨vectors, rfl, taken⟩ :=
        call_storing (some (shared.vectors.delete collection ids)) reacts
      exact .stores _ _ vectors (taken.imp_left fun same => (Option.some.inj same).symm)
  | upsert collection records =>
      obtain ⟨vectors, rfl, taken⟩ := call_storing _ reacts
      exact .stores _ _ vectors taken
  | searchVectors collection query limit scoreThreshold filter =>
      cases answer with
      | hits found =>
          simp only [Shared.react] at reacts
          split at reacts
          · cases reacts
            exact .quiet _ _ rfl
          · cases reacts
      | nothing | time | drawn | chosen | embedded | recognised | fails | lost => cases reacts
  | putObject key content =>
      cases reacts
      exact .places _ _ _ rfl
  | removeObject key =>
      rcases call_some reacts with taken | ⟨raised, rfl⟩
      · cases taken
        exact .places _ _ _ (.inl rfl)
      · exact .places _ _ next.objects (.inr ⟨raised, rfl⟩)
  | getObject key =>
      have same : next = shared := by
        cases answer with
        | fails failure =>
            cases reacts
            rfl
        | nothing | time | drawn | chosen | embedded | recognised | hits | lost =>
            obtain ⟨content, _, same⟩ := Option.map_eq_some_iff.mp reacts
            cases same
            rfl
      rw [same]
      exact .quiet _ _ rfl
  | embed texts model =>
      cases answer with
      | embedded | fails =>
          cases reacts
          exact .quiet _ _ rfl
      | nothing | time | drawn | chosen | recognised | hits | lost => cases reacts
  | recognise filename content =>
      cases answer with
      | recognised | fails =>
          cases reacts
          exact .quiet _ _ rfl
      | nothing | time | drawn | chosen | embedded | hits | lost => cases reacts
  | claimNextPending => exact claim_some reacts
  | commit => exact commitWorker_some reacts
  | rollback =>
      cases reacts
      exact .rollback
  | readAgain id => exact readAgain_some reacts
  | markFailed loaded message => exact markFailed_some reacts
  | raise refusal => cases reply

end Effects

def passage (point : VectorRecord) : Option PayloadValue × Option PayloadValue :=
  (point.payload.lookup "document_id", point.payload.lookup "ordinal")

section ChunkPoints

variable (base : KnowledgeBase) (document : Document) (row : DocumentChunk)
  (vector : Vectors.Embedding)

@[simp] theorem chunkPoint_id : (chunkPoint base document row vector).id = row.vectorId := rfl

@[simp] theorem chunkPoint_passage :
    passage (chunkPoint base document row vector) =
      (some (.str document.id.str), some (.int row.ordinal)) := by
  simp [passage, chunkPoint, List.lookup_cons]

end ChunkPoints

namespace Shared

variable {shared after : Shared} {i : Nat} {writes : List Write}

section Written

variable (shared : Shared) (i : Nat) (write : Write)

@[simp] theorem written_locks : (shared.written i write).locks = shared.locks := by
  cases write <;> rfl

end Written

theorem writeAll_keeps (holds : Shared → Prop) (first : holds shared)
    (kept : ∀ store, ∀ write ∈ writes, holds store → store.permits i write = true →
      holds (store.written i write))
    (wrote : shared.writeAll i writes = some after) : holds after := by
  induction writes generalizing shared with
  | nil =>
      cases wrote
      exact first
  | cons write rest ih =>
      simp only [writeAll] at wrote
      split at wrote
      · rename_i permitted
        apply ih (kept shared write (by simp) first permitted) _ wrote
        exact fun store other member => kept store other (List.mem_cons_of_mem write member)
      · cases wrote

theorem writeAll_same {Value : Type} (field : Shared → Value)
    (kept : ∀ store write, field (written store i write) = field store)
    (wrote : shared.writeAll i writes = some after) : field after = field shared :=
  writeAll_keeps (fun store => field store = field shared) rfl
    (fun store write _ same _ => (kept store write).trans same) wrote

end Shared

end AiPlatform.Knowledge
