import AiPlatform.KnowledgeSteps

/-!
The discipline of the requests and of the ingestion passes: which operation comes at
which point, and with which writes a transaction ends. An ingestion sends the points
of its own chunk rows, one batch after the other, and ends with the status it found.
-/

namespace AiPlatform.Knowledge

open Agents (truthy)
open Vectors (PayloadValue SearchHit VectorRecord)

structure Document.Keeps (row document : Document) : Prop where
  id : document.id = row.id
  base : document.knowledgeBaseId = row.knowledgeBaseId
  filename : document.filename = row.filename
  sha256 : document.sha256 = row.sha256
  storageKey : document.storageKey = row.storageKey

theorem Document.Keeps.refl (row : Document) : row.Keeps row := ⟨rfl, rfl, rfl, rfl, rfl⟩

def chunkPassage (documentId : Uuid) (chunk : DocumentChunk) :
    Option PayloadValue × Option PayloadValue :=
  (some (.str documentId.str), some (.int chunk.ordinal))

def Write.rows : Write → List DocumentChunk
  | .insertChunks rows => rows
  | .insertBase _ | .insertDocument _ | .save _ | .deleteChunks _ | .deleteDocument _
  | .deleteBase _ => []

structure Owned (documentId : Uuid) (drawn : List Uuid) (rows : List DocumentChunk) : Prop where
  document : ∀ chunk ∈ rows, chunk.documentId = documentId
  ids : ∀ chunk ∈ rows, ∃ id ∈ drawn, chunk.vectorId = id.str
  distinct : (rows.map DocumentChunk.vectorId).Nodup

inductive Ingests (row : Document) (drawn : List Uuid) : Write → Prop
  | save (document : Document) (keeps : row.Keeps document) (begun : document.status ≠ .uploaded) :
      Ingests row drawn (.save document)
  | deleteChunks : Ingests row drawn (.deleteChunks row.id)
  | insertChunks (rows : List DocumentChunk) (owned : Owned row.id drawn rows) :
      Ingests row drawn (.insertChunks rows)

namespace Session

def rows (session : Session) : List DocumentChunk := session.writes.flatMap Write.rows

/-- The session ingests the row: these are its chunk rows, and those of them whose
points it has sent. -/
structure Working (session : Session) (row : Document) (rows sent : List DocumentChunk) : Prop where
  claimed : session.claimed = some row
  writes : ∀ write ∈ session.writes, Ingests row session.drawn write
  unfinished : ∀ document, .save document ∈ session.writes → document.status ≠ .indexed
  inserts : session.rows = rows
  owned : Owned row.id session.drawn rows
  ordinals : (rows.map DocumentChunk.ordinal).Nodup
  ids : session.upserted.map VectorRecord.id = sent.map DocumentChunk.vectorId
  passages : session.upserted.map passage = sent.map (chunkPassage row.id)

/-- The status with which an ingestion ends: `INDEXED` once all points were sent. -/
def Settles (session : Session) (document : Document) : Prop :=
  (document.status = .indexed ∧
      session.upserted.map VectorRecord.id = session.rows.map DocumentChunk.vectorId) ∨
    document.status = .failed ∨ (document.status = .noText ∧ session.upserted = [])

structure Concluded (session : Session) (row : Document) : Prop where
  claimed : session.claimed = some row
  writes : ∀ write ∈ session.writes, Ingests row session.drawn write
  last : ∃ earlier document, session.writes = earlier ++ [.save document] ∧
    (∀ saved, .save saved ∈ earlier → saved.status ≠ .indexed) ∧ session.Settles document

structure Deletes (session : Session) (row : Document) : Prop where
  request : session.request = .deleteDocument row.id
  claimed : session.claimed = none
  loaded : session.loaded = some row
  clean : session.writes = []

/-- The vectors and the original are gone, as far as the stores answered. -/
structure Erased (session : Session) (row : Document) : Prop where
  vectors : ∃ ids, session.read = some ids ∧ (ids = [] ∨ session.erased = ids)
  original : ∀ key, row.storageKey = some key → truthy key = true → session.removed = some key

/-- An upload between the flush of its row and its end. -/
structure Uploads (session : Session) (document : Document) : Prop where
  claimed : session.claimed = none
  checked : session.checked = some (document.knowledgeBaseId, document.sha256)
  writes : session.writes = [.insertDocument document]
  drawn : document.id ∈ session.drawn
  status : document.status = .uploaded

def stored (document : Document) : Document :=
  { document with
    storageKey := some (storageKey document.knowledgeBaseId document.id document.sha256) }

inductive Ends (session : Session) : Prop
  | idle (writes : session.writes = [])
  | creates (base : KnowledgeBase) (drawn : base.id ∈ session.drawn)
      (writes : session.writes = [.insertBase base])
  | uploads (document : Document) (claimed : session.claimed = none)
      (checked : session.checked = some (document.knowledgeBaseId, document.sha256))
      (drawn : document.id ∈ session.drawn) (status : document.status = .uploaded)
      (writes : session.writes = [.insertDocument document, .save (stored document)])
  | deletes (row : Document) (request : session.request = .deleteDocument row.id)
      (claimed : session.claimed = none) (loaded : session.loaded = some row)
      (erased : session.Erased row) (writes : session.writes = [.deleteDocument row.id])
  | deletesBase (id : Uuid) (request : session.request = .deleteBase id)
      (writes : session.writes = [.deleteBase id])

def Returns (session : Session) (result : SearchResult) : Prop :=
  ∃ hit ∈ session.hits, ∃ entry ∈ session.found,
    entry.1.vectorId = hit.id ∧ entry.1.documentId = result.documentId

def Permits (session : Session) : Op → Prop
  | .claimNextPending => session = opened .tick
  | .save document =>
      (∃ row rows sent, session.Working row rows sent ∧ row.Keeps document ∧
        document.status ≠ .uploaded) ∨
      ∃ inserted, session.Uploads inserted ∧ document = stored inserted
  | .deleteChunks id => ∃ row, session.Working row [] [] ∧ id = row.id
  | .insertChunks rows => ∃ row, session.Working row [] [] ∧ Owned row.id session.drawn rows
  | .upsert collection records =>
      ∃ row rows sent batch base document vectors, session.Working row rows sent ∧
        (sent ++ batch) <+: rows ∧ base.id = row.knowledgeBaseId ∧ row.Keeps document ∧
        vectors.length = batch.length ∧ collection = collectionOf row.knowledgeBaseId ∧
        records = List.zipWith (chunkPoint base document) batch vectors
  | .commit => ∃ row, session.Concluded row
  | .readAgain id => session.claimed = none ∧ session.failing = some id
  | .markFailed loaded _ => session.claimed = none ∧ session.failing = some loaded.id
  | .findDuplicate _ _ => session.claimed = none ∧ session.writes = []
  | .insertDocument document =>
      session.claimed = none ∧ session.writes = [] ∧ document.id ∈ session.drawn ∧
        session.checked = some (document.knowledgeBaseId, document.sha256) ∧
        document.status = .uploaded
  | .putObject key _ => ∃ document, session.Uploads document ∧
      key = storageKey document.knowledgeBaseId document.id document.sha256
  | .listForDocument id => ∃ row, session.Deletes row ∧ id = row.id
  | .deleteVectors collection ids => ∃ row, session.Deletes row ∧
      collection = collectionOf row.knowledgeBaseId ∧ session.read = some ids
  | .removeObject key => ∃ row, session.Deletes row ∧ row.storageKey = some key ∧
      session.read.isSome = true
  | .deleteDocument id => ∃ row, session.Deletes row ∧ session.Erased row ∧ id = row.id
  | .deleteCollection name => ∃ id, session = opened (.deleteBase id) ∧ name = collectionOf id
  | .deleteBase id => session = opened (.deleteBase id)
  | .searchVectors _ _ _ _ _ => session.writes = [] ∧ session.results = [] ∧ session.found = []
  | .chunksByVectorIds ids => ids = session.hits.map SearchHit.id ∧ session.results = []
  | .respond results => ∀ result ∈ results, session.Returns result
  | .base _ | .baseNamed _ | .basesByIds _ | .getWithBase _ | .draw _ | .insertBase _
  | .ensureCollection _ | .getObject _ | .embed _ _ | .recognise _ _ | .rollback | .raise _ => True

end Session

def Replied (session : Session) : (op : Op) → Reply op → Prop
  | .base id, found => ∀ base, found = some base → base.id = id
  | .getWithBase id, found => ∀ row base, found = some (row, base) →
      row.id = id ∧ base.id = row.knowledgeBaseId ∧
        ∀ loaded, session.claimed = some loaded → loaded.id = id → row = loaded
  | .draw count, ids => List.length ids = count ∧ List.Nodup ids
  | .insertChunks rows, result => result = .ok () → (rows.map DocumentChunk.ordinal).Nodup
  | .readAgain id, result => ∀ row, result = .ok (some row) → row.id = id
  | _, _ => True

theorem replied {i : Nat} {session : Session} {shared next : Shared} {op : Op} {answer : Answer}
    {reply : Reply op} (reacts : shared.react i session op answer = some (reply, next)) :
    Replied session op reply := by
  cases op with
  | base id =>
      cases reacts
      exact fun base found => (Rows.get_some found).2
  | getWithBase id =>
      cases reacts
      intro row base found
      obtain ⟨stored, listed, found⟩ := Option.bind_eq_some_iff.mp found
      obtain ⟨other, has, same⟩ := Option.map_eq_some_iff.mp found
      cases same
      have keyed := (Rows.get_some has).2
      cases own : session.claimed.filter fun loaded => loaded.id = id with
      | none =>
          refine ⟨(Rows.get_some listed).2, by simpa [own] using keyed, ?_⟩
          intro loaded claimed named
          simp [claimed, named] at own
      | some loaded =>
          obtain ⟨claimed, named⟩ := Option.filter_eq_some_iff.mp own
          refine ⟨by simpa using named, by simpa [own] using keyed, ?_⟩
          intro other again _
          rw [claimed] at again
          cases again
          rfl
  | draw count =>
      cases effect reacts with
      | draws _ ids length distinct fresh => exact ⟨length, distinct⟩
      | quiet _ _ quiet => cases quiet
      | stores _ _ _ stores => exact stores.elim
      | places _ _ _ places => exact places.elim
  | insertChunks rows =>
      intro done
      rw [done] at reacts
      by_cases distinct : (rows.map DocumentChunk.ordinal).Nodup
      · exact distinct
      · simp only [Shared.react, if_neg distinct] at reacts
        rcases call_some reacts with taken | ⟨raised, _⟩
        · cases taken
        · exact absurd rfl raised
  | readAgain id =>
      intro row same
      rw [same] at reacts
      cases effect reacts with
      | readsAgain _ row stored keyed => exact keyed
      | gone _ _ missing => exact absurd rfl (missing row)
      | quiet _ _ quiet => cases quiet
      | stores _ _ _ stores => exact stores.elim
      | places _ _ _ places => exact places.elim
  | _ => trivial

end AiPlatform.Knowledge
