import AiPlatform.KnowledgeService

/-!
Ingestion of a document, and the pass of a worker around it
(`app/workers/ingestion.py`). After a rollback the worker records the failure on
a session of its own; where it is stopped before that, the document stays
`UPLOADED`.
-/

namespace AiPlatform.Knowledge

open Agents (truthy strip clip)
open Vectors (Embedding PayloadValue VectorRecord)

structure IngestOutcome where
  documentId : Uuid
  status : DocumentStatus
  chunks : Nat
  characters : Nat
  detail : Option String

def IngestOutcome.of (document : Document) (detail : Option String) : IngestOutcome :=
  ⟨document.id, document.status, 0, 0, detail⟩

def fail (document : Document) (message : String) : Attempt IngestOutcome := do
  let document := { document with status := .failed, error := some (clip message 2000) }
  flush document
  return .of document (some message)

def noText (document : Document) (detail : String) : Attempt IngestOutcome := do
  let document := { document with status := .noText, statusDetail := some detail }
  flush document
  return .of document document.statusDetail

/-- `EMBED_BATCH` -/
def embedBatch : Nat := 32

/-- `rows[start : start + size]` for the starts in `range(0, len(rows), size)`. -/
def batches {α : Type} (size : Nat) : Nat → List α → List (List α)
  | 0, _ | _, [] => []
  | fuel + 1, row :: rows =>
      (row :: rows).take size :: batches size fuel ((row :: rows).drop size)

def chunkPoint (base : KnowledgeBase) (document : Document) (row : DocumentChunk)
    (vector : Embedding) : VectorRecord where
  id := row.vectorId
  vector := vector
  payload :=
    [("tenant_id", .str base.tenantId), ("knowledge_base_id", .str base.id.str),
      ("document_id", .str document.id.str), ("document_name", .str document.filename),
      ("ordinal", .int row.ordinal),
      ("location", match row.location with | some location => .str location | none => .null),
      ("preview", .str (clip row.text 200))]

def indexBatch (base : KnowledgeBase) (document : Document) (rows : List DocumentChunk) :
    Attempt Unit := do
  let vectors ← embed (rows.map DocumentChunk.text) base.embeddingModel
  let returned := vectors.length
  let asked := rows.length
  if returned ≠ asked then
    throw ⟨"RuntimeError", s!"The embedding model returned {returned} vectors for {asked} passages."⟩
  else
    ExceptT.mk (perform
      (.upsert base.collection (List.zipWith (chunkPoint base document) rows vectors)))

def indexBatches (base : KnowledgeBase) (document : Document) :
    List (List DocumentChunk) → Attempt Unit
  | [] => return ()
  | rows :: rest => do
      indexBatch base document rows
      indexBatches base document rest

def embedAndIndex (base : KnowledgeBase) (document : Document) (rows : List DocumentChunk) :
    Attempt Unit := do
  ensureCollection base
  indexBatches base document (batches embedBatch rows.length rows)

def newRow (document : Document) (chunk : Chunk) (vectorId : Uuid) : DocumentChunk where
  documentId := document.id
  ordinal := chunk.ordinal
  text := chunk.text
  tokenEstimate := chunk.tokenEstimate
  location := chunk.location
  vectorId := vectorId.str

def writeRows (document : Document) (chunks : List Chunk) : Attempt (List DocumentChunk) := do
  ExceptT.mk (perform (.deleteChunks document.id))
  let ids ← ExceptT.lift (perform (.draw chunks.length))
  let rows := List.zipWith (newRow document) chunks ids
  ExceptT.mk (perform (.insertChunks rows))
  return rows

def indexChunks (base : KnowledgeBase) (document : Document) (chunks : List Chunk) :
    Attempt IngestOutcome := do
  let document := { document with status := .embedding }
  flush document
  let rows ← writeRows document chunks
  match ← ExceptT.lift (embedAndIndex base document rows).run with
  | .error failure => fail document ("Embedding failed: " ++ failure.message)
  | .ok () =>
      let document := { document with status := .indexed, chunkCount := rows.length }
      flush document
      return ⟨document.id, document.status, rows.length, document.characters, document.statusDetail⟩

def chunkParsed (settings : Settings) (base : KnowledgeBase) (document : Document)
    (parsed : ParseResult) : Attempt IngestOutcome := do
  if parsed.segments.isEmpty || parsed.textLength = 0 then
    noText document ((parsed.warning.filter truthy).getD "No text could be extracted.")
  else do
    let document := { document with
      status := .chunking
      characters := parsed.textLength
      statusDetail := parsed.warning }
    flush document
    match settings.chunkSegments parsed.segments base.chunkSize base.chunkOverlap with
    | .error failure => throw failure
    | .ok chunks =>
        if chunks.isEmpty then
          noText document "Text was extracted but produced no usable chunks."
        else indexChunks base document chunks

def blockSegment (block : OcrBlock) : ParsedSegment :=
  let page := block.page
  ⟨block.text, some s!"page {page}"⟩

def recognise (document : Document) (content : Content) : Attempt ParseResult := do
  let (blocks, warning) ← ExceptT.mk (perform (.recognise document.filename content))
  return ⟨(blocks.filter fun block => truthy (strip block.text)).map blockSegment, false, warning⟩

def recogniseText (settings : Settings) (base : KnowledgeBase) (document : Document)
    (content : Content) : Attempt IngestOutcome := do
  if !settings.ocr then
    noText { document with ocrUsed := false } ("This file holds images rather than text, and no " ++
      "OCR model is deployed. Deploy one (see docs/rag.md) or upload a text-based version.")
  else do
    let document := { document with status := .ocr }
    flush document
    match ← ExceptT.lift (recognise document content).run with
    | .error failure =>
        noText { document with ocrUsed := false } ("OCR did not complete: " ++ failure.message)
    | .ok parsed => chunkParsed settings base { document with ocrUsed := true } parsed

def ingest (settings : Settings) (base : KnowledgeBase) (document : Document) (content : Content) :
    Attempt IngestOutcome := do
  let document := { document with status := .parsing }
  flush document
  match settings.parse document.filename content document.contentType with
  | .error (.unsupported message) => fail document message
  | .error (.crashed typeName) => fail document s!"The parser failed: {typeName}."
  | .ok parsed =>
      if parsed.needsOcr then recogniseText settings base document content
      else chunkParsed settings base document parsed

def loadContent (document : Document) : Attempt Content := do
  match document.storageKey.filter truthy with
  | some key => ExceptT.mk (perform (.getObject key))
  | none =>
      let filename := document.filename
      throw ⟨"NotFoundError", s!"{filename} has no stored original, so it cannot be ingested."⟩

def markFailed (documentId : Uuid) (message : String) : KnowledgeProgram Unit := do
  match ← perform (.readAgain documentId) with
  | .ok (some document) =>
      let _ ← perform (.markFailed document (clip message 2000))
  | .ok none | .error _ => return ()

/-- What `tick` runs inside its `try`. -/
def ingestion (settings : Settings) (base : KnowledgeBase) (document : Document) : Attempt Unit := do
  let content ← loadContent document
  let _ ← ingest settings base document content
  commit

def tick (settings : Settings) : KnowledgeProgram Unit := do
  match ← perform .claimNextPending with
  | none => return ()
  | some claimed =>
      match ← perform (.getWithBase claimed.id) with
      | none => return ()
      | some (document, base) =>
          match ← (ingestion settings base document).run with
          | .ok () => return ()
          | .error failure => do
              perform .rollback
              markFailed document.id failure.text

def run (settings : Settings) : Request → KnowledgeProgram Unit
  | .create request actor => createBase request actor
  | .deleteBase id => deleteBase id
  | .upload request actor => acceptUpload settings request actor
  | .deleteDocument id => deleteDocument id
  | .search request => searchKnowledgeBase request
  | .tick => tick settings

def knowledgeMachine (settings : Settings) : Machine knowledgeSignature where
  Request := Request
  Session := Session
  Shared := Shared
  Answer := Answer
  Change := Empty
  program := run settings
  opened := Session.opened
  after := Session.after
  react := Shared.react
  awaits := fun _ => false
  commit := fun i session shared => shared.commit i session
  release := fun i shared => shared.release i
  change := fun change _ => nomatch change

abbrev KnowledgeSystem (settings : Settings) := System (knowledgeMachine settings)

end AiPlatform.Knowledge
