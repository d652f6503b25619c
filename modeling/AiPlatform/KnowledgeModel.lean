import AiPlatform.AgentModel
import AiPlatform.Errors
import AiPlatform.Processes
import AiPlatform.Uuid
import AiPlatform.VectorStore

/-!
Knowledge bases: the rows of `app/models/knowledge.py` that ingestion, search and
deletion use, and what each statement does to the three stores. A transaction
writes at its commit; `FOR UPDATE` and the foreign key of an inserted document
lock until then. The vector store and the object store have no transaction: a
call takes effect at once, and a call that raises may have taken effect. UUIDs
never repeat. A transaction keeps its connection until it ends.
-/

namespace AiPlatform.Knowledge

open Agents (truthy strip clip)
open Vectors (Collections CollectionSpec Embedding FieldCondition Payload PayloadValue SearchHit
  VectorRecord)

inductive DocumentStatus
  | uploaded | parsing | ocr | chunking | embedding | indexed | failed | noText
  deriving DecidableEq

def collectionOf (baseId : Uuid) : String := "kb_" ++ baseId.hex

structure KnowledgeBase where
  id : Uuid
  name : String
  displayName : String
  description : Option String
  tenantId : String
  ownerId : Nat
  embeddingModel : String
  embeddingDimensions : Nat
  chunkSize : Int
  chunkOverlap : Int
  enabled : Bool
  deriving DecidableEq

def KnowledgeBase.collection (base : KnowledgeBase) : String := collectionOf base.id

structure Document where
  id : Uuid
  knowledgeBaseId : Uuid
  filename : String
  contentType : String
  sizeBytes : Nat
  sha256 : String
  storageKey : Option String
  status : DocumentStatus
  statusDetail : Option String
  error : Option String
  characters : Nat
  chunkCount : Nat
  ocrUsed : Bool
  uploadedBy : Nat
  createdAt : Nat
  deriving DecidableEq

structure DocumentChunk where
  documentId : Uuid
  ordinal : Nat
  text : String
  tokenEstimate : Nat
  location : Option String
  vectorId : String
  deriving DecidableEq

abbrev Content := List UInt8

/-- An exception, as `type(exc).__name__` and `str(exc)` show it. -/
structure Failure where
  typeName : String
  message : String
  deriving DecidableEq

def Failure.text (failure : Failure) : String :=
  failure.typeName ++ ": " ++ failure.message

structure ParsedSegment where
  text : String
  location : Option String

structure ParseResult where
  segments : List ParsedSegment
  needsOcr : Bool
  warning : Option String

def ParseResult.textLength (parsed : ParseResult) : Nat :=
  (parsed.segments.map fun segment => segment.text.length).sum

inductive ParseFailure
  | unsupported (message : String)
  | crashed (typeName : String)

structure OcrBlock where
  text : String
  page : Nat

structure Chunk where
  ordinal : Nat
  text : String
  location : Option String

def Chunk.tokenEstimate (chunk : Chunk) : Nat := max 1 (chunk.text.length / 4)

/-- `hashlib.sha256(..).hexdigest()`, `document_parsers.parse`, `chunk_segments` and
whether an OCR engine is deployed. -/
structure Settings where
  sha256 : Content → String
  parse : String → Content → String → Except ParseFailure ParseResult
  chunkSegments : List ParsedSegment → Int → Int → Except Failure (List Chunk)
  ocr : Bool

structure SearchResult where
  text : String
  score : Rat
  documentId : Uuid
  documentName : String
  knowledgeBase : String
  location : Option String
  ordinal : Nat
  ocr : Bool

inductive Write
  | insertBase (base : KnowledgeBase)
  | insertDocument (document : Document)
  | save (document : Document)
  | deleteChunks (documentId : Uuid)
  | insertChunks (rows : List DocumentChunk)
  | deleteDocument (id : Uuid)
  | deleteBase (id : Uuid)

inductive Op
  | base (id : Uuid)
  | baseNamed (name : String)
  | basesByIds (ids : List Uuid)
  | findDuplicate (baseId : Uuid) (sha256 : String)
  | getWithBase (id : Uuid)
  | listForDocument (id : Uuid)
  | chunksByVectorIds (ids : List String)
  | draw (count : Nat)
  | insertBase (base : KnowledgeBase)
  | insertDocument (document : Document)
  -- The flush of an assignment to a document.
  | save (document : Document)
  | deleteChunks (documentId : Uuid)
  | insertChunks (rows : List DocumentChunk)
  | deleteDocument (id : Uuid)
  | deleteBase (id : Uuid)
  | ensureCollection (spec : CollectionSpec)
  | deleteCollection (name : String)
  | upsert (collection : String) (records : List VectorRecord)
  | deleteVectors (collection : String) (ids : List String)
  | searchVectors (collection : String) (query : Embedding) (limit : Nat)
      (scoreThreshold : Option Rat) (filter : Option (List FieldCondition))
  | putObject (key : String) (content : Content)
  | getObject (key : String)
  | removeObject (key : String)
  | embed (texts : List String) (model : String)
  | recognise (filename : String) (content : Content)
  | claimNextPending
  -- The worker ends its own transaction; a request ends with its label.
  | commit
  | rollback
  -- The session of `_mark_failed`: its read, then its flush and commit.
  | readAgain (id : Uuid)
  | markFailed (loaded : Document) (message : String)
  | respond (results : List SearchResult)
  | raise (refusal : Refusal)

def Reply : Op → Type
  | .base _ | .baseNamed _ => Option KnowledgeBase
  | .basesByIds _ => List KnowledgeBase
  | .findDuplicate _ _ | .claimNextPending => Option Document
  | .getWithBase _ => Option (Document × KnowledgeBase)
  | .listForDocument _ => List DocumentChunk
  | .chunksByVectorIds _ => List (DocumentChunk × Document)
  | .draw _ => List Uuid
  -- The time the database stamps on the row.
  | .insertDocument _ => Nat
  | .searchVectors _ _ _ _ _ => List SearchHit
  | .save _ | .deleteChunks _ | .insertChunks _ | .ensureCollection _ | .deleteCollection _
  | .upsert _ _ | .deleteVectors _ _ | .removeObject _ | .commit | .markFailed _ _ =>
      Except Failure Unit
  | .getObject _ => Except Failure Content
  | .embed _ _ => Except Failure (List Embedding)
  | .recognise _ _ => Except Failure (List OcrBlock × Option String)
  | .readAgain _ => Except Failure (Option Document)
  | .insertBase _ | .deleteDocument _ | .deleteBase _ | .putObject _ _ | .rollback
  | .respond _ => Unit
  | .raise _ => Empty

abbrev knowledgeSignature : Signature := ⟨Op, Reply⟩

abbrev KnowledgeProgram := Program knowledgeSignature

structure CreateRequest where
  name : String
  displayName : String
  description : Option String
  embeddingModel : String
  chunkSize : Int
  chunkOverlap : Int
  tenantId : String

structure UploadRequest where
  baseId : Uuid
  filename : String
  contentType : String
  content : Content

structure SearchQuery where
  query : String
  limit : Nat
  scoreThreshold : Option Rat

structure SearchRequest extends SearchQuery where
  baseId : Uuid

inductive Request
  | create (request : CreateRequest) (actor : Nat)
  | deleteBase (id : Uuid)
  | upload (request : UploadRequest) (actor : Nat)
  | deleteDocument (id : Uuid)
  | search (request : SearchRequest)
  -- One pass of an ingestion worker.
  | tick

/-- What a request or a pass has read and sent so far. -/
structure Session where
  request : Request
  /-- The base and the digest for which an upload has found no document. -/
  checked : Option (Uuid × String)
  /-- The document under ingestion, as its claim read it. -/
  claimed : Option Document
  /-- The points that this ingestion has sent to the vector store. -/
  upserted : List VectorRecord
  /-- The ids drawn so far. -/
  drawn : List Uuid
  /-- The document whose failure is still to be recorded. -/
  failing : Option Uuid
  writes : List Write
  /-- A deletion: its document, the vector ids of the chunk rows it read, the ids it
  had deleted and the key it had removed. -/
  loaded : Option Document
  read : Option (List String)
  erased : List String
  removed : Option String
  /-- A search: the hits, the rows found for them and what it returned. -/
  hits : List SearchHit
  found : List (DocumentChunk × Document)
  results : List SearchResult

namespace Session

def opened (request : Request) : Session :=
  ⟨request, none, none, [], [], none, [], none, none, [], none, [], [], []⟩

def writing (session : Session) (write : Write) : Session :=
  { session with writes := session.writes ++ [write] }

def drawing (session : Session) (ids : List Uuid) : Session :=
  { session with drawn := session.drawn ++ ids }

def reading (session : Session) (rows : List DocumentChunk) : Session :=
  { session with read := some ((rows.map DocumentChunk.vectorId).filter truthy) }

def ended (session : Session) : Session :=
  { session with claimed := none, upserted := [], writes := [] }

def rolledBack (session : Session) : Session :=
  { session.ended with failing := (session.claimed.map Document.id).or session.failing }

def after (session : Session) : (op : Op) → Reply op → Session
  | .findDuplicate baseId sha256, none => { session with checked := some (baseId, sha256) }
  | .claimNextPending, some row => { session with claimed := some row }
  | .draw _, ids => session.drawing ids
  | .insertBase base, _ => session.writing (.insertBase base)
  | .insertDocument document, createdAt =>
      session.writing (.insertDocument { document with createdAt := createdAt })
  | .save document, .ok _ => session.writing (.save document)
  | .deleteChunks documentId, .ok _ => session.writing (.deleteChunks documentId)
  | .insertChunks rows, .ok _ => session.writing (.insertChunks rows)
  | .deleteDocument id, _ => session.writing (.deleteDocument id)
  | .deleteBase id, _ => session.writing (.deleteBase id)
  | .upsert _ records, _ => { session with upserted := session.upserted ++ records }
  | .commit, .ok _ => session.ended
  | .commit, .error _ | .rollback, _ => session.rolledBack
  | .readAgain _, .ok none | .readAgain _, .error _ | .markFailed _ _, _ =>
      { session with failing := none }
  | .getWithBase _, some (row, _) => { session with loaded := some row }
  | .listForDocument _, rows => session.reading rows
  | .deleteVectors _ ids, _ => { session with erased := ids }
  | .removeObject key, _ => { session with removed := some key }
  | .searchVectors _ _ _ _ _, hits => { session with hits := hits }
  | .chunksByVectorIds _, rows => { session with found := rows }
  | .respond results, _ => { session with results := results }
  | .claimNextPending, none | .save _, .error _ | .deleteChunks _, .error _
  | .insertChunks _, .error _ | .readAgain _, .ok (some _) | .base _, _ | .baseNamed _, _
  | .basesByIds _, _ | .findDuplicate _ _, some _ | .getWithBase _, none | .ensureCollection _, _
  | .deleteCollection _, _ | .putObject _ _, _ | .getObject _, _ | .embed _ _, _
  | .recognise _ _, _ | .raise _, _ => session

end Session

/-- Besides the three stores: the row locks of documents, the bases that an inserted
document refers to, the ids drawn so far with who drew them, the documents whose
upload was committed, the deletions that have read the chunk rows of a document, and
what the workers did, each as the process and the document. -/
structure Shared where
  bases : List KnowledgeBase
  documents : List Document
  chunks : List DocumentChunk
  vectors : Collections
  objects : String → Option Content
  locks : Locks Uuid
  shares : List (Nat × Uuid)
  drawn : List (Uuid × Nat)
  uploaded : List Uuid
  deleting : List (Nat × Uuid)
  /-- An ingestion was rolled back and its failure is still to be recorded. -/
  failing : List (Nat × Uuid)
  /-- A worker committed the document as `INDEXED`. -/
  indexed : List (Nat × Uuid)
  /-- `_mark_failed` set the document to `FAILED`. -/
  marked : List (Nat × Uuid)

def Shared.empty : Shared :=
  ⟨[], [], [], fun _ => none, fun _ => none, fun _ => none, [], [], [], [], [], [], []⟩

inductive Answer
  | nothing
  | time (now : Nat)
  | drawn (ids : List Uuid)
  | chosen (id : Uuid)
  | embedded (vectors : List Embedding)
  | recognised (blocks : List OcrBlock) (warning : Option String)
  | hits (hits : List SearchHit)
  -- Raised, before or after the call took effect.
  | fails (failure : Failure)
  | lost (failure : Failure)

namespace Shared

def base (shared : Shared) (id : Uuid) : Option KnowledgeBase :=
  Rows.get KnowledgeBase.id shared.bases id

def document (shared : Shared) (id : Uuid) : Option Document :=
  Rows.get Document.id shared.documents id

def permits (shared : Shared) (i : Nat) : Write → Bool
  | .insertBase base => shared.bases.all fun other => other.name ≠ base.name && other.id ≠ base.id
  | .insertDocument document =>
      shared.documents.all (fun other => other.id ≠ document.id) &&
        (shared.base document.knowledgeBaseId).isSome
  | .deleteDocument id => shared.locks.free i id
  | .deleteBase id =>
      shared.documents.all (fun row => row.knowledgeBaseId ≠ id || shared.locks.free i row.id) &&
        shared.shares.all fun share => share.1 = i || share.2 ≠ id
  | .save _ | .deleteChunks _ | .insertChunks _ => true

def written (shared : Shared) (i : Nat) : Write → Shared
  | .insertBase base => { shared with bases := shared.bases ++ [base] }
  | .insertDocument document =>
      { shared with
        documents := shared.documents ++ [document]
        uploaded := shared.uploaded ++ [document.id] }
  | .save document =>
      { shared with
        documents := Rows.amend Document.id document.id (fun _ => document) shared.documents
        indexed :=
          if document.status = .indexed then shared.indexed ++ [(i, document.id)]
          else shared.indexed }
  | .deleteChunks documentId =>
      { shared with chunks := shared.chunks.filter fun row => row.documentId ≠ documentId }
  | .insertChunks rows => { shared with chunks := shared.chunks ++ rows }
  | .deleteDocument id =>
      { shared with
        documents := shared.documents.filter fun row => row.id ≠ id
        chunks := shared.chunks.filter fun row => row.documentId ≠ id }
  | .deleteBase id =>
      let deleted := (shared.documents.filter fun row => row.knowledgeBaseId = id).map Document.id
      { shared with
        bases := shared.bases.filter fun row => row.id ≠ id
        documents := shared.documents.filter fun row => row.knowledgeBaseId ≠ id
        chunks := shared.chunks.filter fun row => row.documentId ∉ deleted }

def writeAll (shared : Shared) (i : Nat) : List Write → Option Shared
  | [] => some shared
  | write :: rest =>
      if shared.permits i write then (shared.written i write).writeAll i rest else none

def close (shared : Shared) (i : Nat) : Shared :=
  { shared with
    locks := shared.locks.release i
    shares := shared.shares.filter fun share => share.1 ≠ i
    deleting := shared.deleting.filter fun entry => entry.1 ≠ i }

def commit (shared : Shared) (i : Nat) (session : Session) : Option Shared :=
  (shared.writeAll i session.writes).map fun shared => shared.close i

def fallen (shared : Shared) (i : Nat) (session : Session) : Shared :=
  { shared with
    failing := shared.failing ++ (session.claimed.toList.map fun row => (i, row.id)) }

def handled (shared : Shared) (i : Nat) : Shared :=
  { shared with failing := shared.failing.filter fun entry => entry.1 ≠ i }

def release (shared : Shared) (i : Nat) : Shared := (shared.close i).handled i

/-- The commit of the worker. One that fails has ended the transaction too, and one
whose answer is lost has taken effect. -/
def commitWorker (shared : Shared) (i : Nat) (session : Session) :
    Answer → Option (Except Failure Unit × Shared)
  | .nothing => (shared.commit i session).map fun after => (.ok (), after)
  | .fails failure => some (.error failure, (shared.close i).fallen i session)
  | .lost failure =>
      (shared.commit i session).map fun after => (.error failure, after.fallen i session)
  | _ => none

/-- A document as the commit of `_mark_failed` writes it: a column that is set to the
value it was loaded with is not written. -/
def markedRow (loaded : Document) (message : String) (stored : Document) : Document :=
  { stored with
    status := if loaded.status = .failed then stored.status else .failed
    error := if loaded.error = some message then stored.error else some message }

def mark (shared : Shared) (i : Nat) (loaded : Document) (message : String) : Shared :=
  { shared with
    documents := Rows.amend Document.id loaded.id (markedRow loaded message) shared.documents
    marked := shared.marked ++ [(i, loaded.id)] }

def staleData : Failure :=
  ⟨"StaleDataError", "UPDATE statement on table 'documents' expected to update 1 row(s); 0 were matched."⟩

/-- The commit of `_mark_failed`. It waits for the lock of the row. -/
def markFailed (shared : Shared) (i : Nat) (loaded : Document) (message : String) :
    Answer → Option (Except Failure Unit × Shared)
  | .fails failure => some (.error failure, shared.handled i)
  | .nothing =>
      if (shared.document loaded.id).isNone then some (.error staleData, shared.handled i)
      else if shared.locks.free i loaded.id then
        some (.ok (), (shared.mark i loaded message).handled i)
      else none
  | .lost failure =>
      if shared.locks.free i loaded.id && (shared.document loaded.id).isSome then
        some (.error failure, (shared.mark i loaded message).handled i)
      else none
  | _ => none

/-- `claim_next_pending` finds the oldest document that no transaction has locked. -/
def claim (shared : Shared) (i : Nat) : Answer → Option (Option Document × Shared)
  | .chosen id =>
      let ready := shared.documents.filter fun row =>
        row.status = .uploaded && shared.locks.free i row.id
      (ready.find? fun row => row.id = id && ready.all fun other => row.createdAt ≤ other.createdAt).map
        fun row => (some row, { shared with locks := shared.locks.acquire i [id] })
  | .nothing =>
      if shared.documents.any fun row => row.status = .uploaded && shared.locks.free i row.id then none
      else some (none, shared)
  | _ => none

def call (shared : Shared) (effect : Option Shared) : Answer → Option (Except Failure Unit × Shared)
  | .nothing => effect.map fun after => (.ok (), after)
  | .lost failure => effect.map fun after => (.error failure, after)
  | .fails failure => some (.error failure, shared)
  | _ => none

def storing (shared : Shared) (vectors : Collections) : Shared := { shared with vectors := vectors }

def placing (shared : Shared) (key : String) (content : Option Content) : Shared :=
  { shared with objects := Function.update shared.objects key content }

def react (i : Nat) (session : Session) (shared : Shared) :
    (op : Op) → Answer → Option (Reply op × Shared)
  | .base id, _ => some (shared.base id, shared)
  | .baseNamed name, _ => some (shared.bases.find? fun row => row.name = name, shared)
  | .basesByIds ids, _ => some (shared.bases.filter fun row => ids.contains row.id, shared)
  | .findDuplicate baseId sha256, _ =>
      some (shared.documents.find? fun row =>
        row.knowledgeBaseId = baseId && row.sha256 = sha256 && row.status ≠ .failed, shared)
  | .getWithBase id, _ =>
      -- A row that the session has loaded already is the instance it has.
      some ((shared.document id).bind fun stored =>
        let row := (session.claimed.filter fun loaded => loaded.id = id).getD stored
        (shared.base row.knowledgeBaseId).map fun base => (row, base), shared)
  | .listForDocument id, _ =>
      some (shared.chunks.filter fun row => row.documentId = id,
        { shared with deleting := shared.deleting ++ [(i, id)] })
  | .chunksByVectorIds ids, _ =>
      some ((shared.chunks.filter fun row => ids.contains row.vectorId).filterMap fun row =>
        (shared.document row.documentId).map fun document => (row, document), shared)
  | .draw count, .drawn ids =>
      if ids.length = count ∧ ids.Nodup ∧ ∀ id ∈ ids, ∀ used ∈ shared.drawn, used.1 ≠ id then
        some (ids, { shared with drawn := shared.drawn ++ ids.map fun id => (id, i) })
      else none
  | .insertDocument document, .time now =>
      -- The foreign key locks the base against its deletion.
      if (shared.base document.knowledgeBaseId).isSome then
        some (now, { shared with shares := shared.shares ++ [(i, document.knowledgeBaseId)] })
      else none
  | .insertBase _, _ | .deleteDocument _, _ | .deleteBase _, _ | .respond _, _ =>
      some ((), shared)
  | .save _, answer | .deleteChunks _, answer => shared.call (some shared) answer
  | .insertChunks rows, answer =>
      shared.call (if (rows.map DocumentChunk.ordinal).Nodup then some shared else none) answer
  | .ensureCollection spec, answer =>
      shared.call (some (shared.storing (shared.vectors.ensureCollection spec))) answer
  | .deleteCollection name, answer =>
      shared.call (some (shared.storing (shared.vectors.deleteCollection name))) answer
  | .upsert collection records, answer =>
      shared.call ((shared.vectors.upsert collection records).map shared.storing) answer
  | .deleteVectors collection ids, answer =>
      shared.call (some (shared.storing (shared.vectors.delete collection ids))) answer
  | .searchVectors collection _ limit scoreThreshold filter, .hits hits =>
      if hits.length ≤ limit ∧ (∀ hit ∈ hits, ∀ threshold ∈ scoreThreshold, threshold ≤ hit.score) ∧
          ∀ hit ∈ hits, ∃ point ∈ shared.vectors.points collection,
            point.id = hit.id ∧ point.payload = hit.payload ∧
              Vectors.admits filter point.payload = true then
        some (hits, shared)
      else none
  | .putObject key content, _ => some ((), shared.placing key (some content))
  | .getObject _, .fails failure => some (.error failure, shared)
  | .getObject key, _ => (shared.objects key).map fun content => (.ok content, shared)
  | .removeObject key, answer => shared.call (some (shared.placing key none)) answer
  | .embed _ _, .embedded vectors => some (.ok vectors, shared)
  | .embed _ _, .fails failure => some (.error failure, shared)
  | .recognise _ _, .recognised blocks warning => some (.ok (blocks, warning), shared)
  | .recognise _ _, .fails failure => some (.error failure, shared)
  | .claimNextPending, answer => shared.claim i answer
  | .commit, answer => shared.commitWorker i session answer
  | .rollback, _ => some ((), (shared.close i).fallen i session)
  | .readAgain _, .fails failure => some (.error failure, shared.handled i)
  | .readAgain id, _ =>
      match shared.document id with
      | some row => some (.ok (some row), shared)
      | none => some (.ok none, shared.handled i)
  | .markFailed loaded message, answer => shared.markFailed i loaded message answer
  | .draw _, _ | .insertDocument _, _ | .searchVectors _ _ _ _ _, _ | .embed _ _, _
  | .recognise _ _, _ | .raise _, _ => none

end Shared

end AiPlatform.Knowledge
