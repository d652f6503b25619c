import AiPlatform.KnowledgeModel

/-!
`KnowledgeService` of `app/services/knowledge.py`, the endpoints that change a
knowledge base or search it, and the ingestion worker. What may be caught is an
`Attempt`; what ends a request is raised.
-/

namespace AiPlatform.Knowledge

open Agents (truthy strip clip)
open Vectors (CollectionSpec Embedding FilterValue SearchHit VectorRecord toFilter)

def perform (op : Op) : KnowledgeProgram (Reply op) :=
  @Program.request knowledgeSignature op

def raise {α : Type} (refusal : Refusal) : KnowledgeProgram α :=
  .perform (.raise refusal) fun impossible => nomatch impossible

/-- A program that may raise an exception which its caller catches. -/
abbrev Attempt (α : Type) := ExceptT Failure KnowledgeProgram α

/-- An attempt outside of any `try`. -/
def orRaise {α : Type} (attempt : Attempt α) : KnowledgeProgram α := do
  match ← attempt.run with
  | .ok value => return value
  | .error failure => raise (.raised failure.text)

def flush (document : Document) : Attempt Unit := ExceptT.mk (perform (.save document))

def embed (texts : List String) (model : String) : Attempt (List Embedding) :=
  ExceptT.mk (perform (.embed texts model))

def ensureCollection (base : KnowledgeBase) : Attempt Unit :=
  ExceptT.mk (perform
    (.ensureCollection ⟨base.collection, base.embeddingDimensions, .cosine⟩))

def commit : Attempt Unit := ExceptT.mk (perform .commit)

def lowerOrDigit (c : Char) : Bool := ('a' ≤ c && c ≤ 'z') || ('0' ≤ c && c ≤ '9')

/-- `NAME_PATTERN`; the `$` also matches before a final line break. -/
def namePattern (name : String) : Bool :=
  let matched (chars : List Char) : Bool :=
    3 ≤ chars.length && chars.length ≤ 64 &&
      chars.all (fun c => lowerOrDigit c || c = '-') &&
      chars.head?.any lowerOrDigit && chars.getLast?.any lowerOrDigit
  matched name.toList ||
    (name.toList.getLast? = some '\n' && matched name.toList.dropLast)

def getBase (baseId : Uuid) : KnowledgeProgram KnowledgeBase := do
  match ← perform (.base baseId) with
  | some base => return base
  | none =>
      let id := baseId.str
      raise (.app (notFoundError s!"No knowledge base with id {id}."))

def probeDimensions (model : String) : KnowledgeProgram Nat := do
  match ← (embed ["dimension probe"] model).run with
  | .error failure =>
      let reason := failure.message
      raise (.app (validationError (s!"Could not reach the embedding model '{model}': {reason}. " ++
        "Deploy an EMBEDDING model and point an alias at it before creating a knowledge base.") []))
  | .ok [] | .ok ([] :: _) =>
      raise (.app (validationError
        s!"The model '{model}' returned no embedding. It may not be an embedding model." []))
  | .ok (vector :: _) => return vector.length

def createBase (request : CreateRequest) (actor : Nat) : KnowledgeProgram Unit := do
  let name := request.name
  if !namePattern name then
    raise (.app (validationError ("A knowledge base name must be lowercase letters, digits and " ++
      "hyphens, 3-64 characters.") [("field", "name")]))
  else match ← perform (.baseNamed name) with
  | some _ => raise (.app (conflictError s!"A knowledge base named '{name}' already exists." []))
  | none =>
      if request.chunkSize ≤ request.chunkOverlap then
        raise (.app (validationError ("chunk_overlap must be smaller than chunk_size, or chunking " ++
          "would never advance.") [("field", "chunk_overlap")]))
      else do
        let dimensions ← probeDimensions request.embeddingModel
        match ← perform (.draw 1) with
        | id :: _ =>
            let base : KnowledgeBase :=
              { id := id
                name := name
                displayName := request.displayName
                description := request.description
                tenantId := request.tenantId
                ownerId := actor
                embeddingModel := request.embeddingModel
                embeddingDimensions := dimensions
                chunkSize := request.chunkSize
                chunkOverlap := request.chunkOverlap
                enabled := true }
            perform (.insertBase base)
            orRaise (ensureCollection base)
        | [] => return ()

/-- `delete_base`; a collection that cannot be deleted is logged. -/
def deleteBase (baseId : Uuid) : KnowledgeProgram Unit := do
  let base ← getBase baseId
  let _ ← perform (.deleteCollection base.collection)
  perform (.deleteBase base.id)

/-- `MAX_UPLOAD_BYTES` -/
def maxUploadBytes : Nat := 64 * 1024 * 1024

def storageKey (baseId documentId : Uuid) (digest : String) : String :=
  "documents/" ++ baseId.str ++ "/" ++ documentId.str ++ "-" ++ clip digest 12

def DocumentStatus.text : DocumentStatus → String
  | .uploaded => "UPLOADED"
  | .parsing => "PARSING"
  | .ocr => "OCR"
  | .chunking => "CHUNKING"
  | .embedding => "EMBEDDING"
  | .indexed => "INDEXED"
  | .failed => "FAILED"
  | .noText => "NO_TEXT"

def storeUpload (base : KnowledgeBase) (request : UploadRequest) (contentType digest : String)
    (actor : Nat) : KnowledgeProgram Unit := do
  match ← perform (.draw 1) with
  | id :: _ =>
      let document : Document :=
        { id := id
          knowledgeBaseId := base.id
          filename := request.filename
          contentType := contentType
          sizeBytes := request.content.length
          sha256 := digest
          storageKey := none
          status := .uploaded
          statusDetail := none
          error := none
          characters := 0
          chunkCount := 0
          ocrUsed := false
          uploadedBy := actor
          createdAt := 0 }
      let createdAt ← perform (.insertDocument document)
      let key := storageKey base.id id digest
      perform (.putObject key request.content)
      orRaise (flush { document with storageKey := some key, createdAt := createdAt })
  | [] => return ()

/-- `accept_upload`, behind `upload_document`. -/
def acceptUpload (settings : Settings) (request : UploadRequest) (actor : Nat) :
    KnowledgeProgram Unit := do
  if maxUploadBytes < request.content.length then
    let size := request.content.length / 1048576
    let limit := maxUploadBytes / 1048576
    raise (.app (validationError s!"That file is {size} MiB; the limit is {limit} MiB."
      [("field", "file")]))
  else do
    let base ← getBase request.baseId
    let name := base.name
    if !base.enabled then
      raise (.app (conflictError s!"The knowledge base '{name}' is disabled." []))
    else if request.content.isEmpty then
      raise (.app (validationError "The uploaded file is empty." []))
    else do
      let digest := settings.sha256 request.content
      match ← perform (.findDuplicate base.id digest) with
      | some duplicate =>
          let filename := duplicate.filename
          let status := duplicate.status.text
          raise (.app (conflictError (s!"This file is already in '{name}' as '{filename}' " ++
            s!"({status}). Delete it first to re-ingest.") [("document_id", duplicate.id.str)]))
      | none =>
          let contentType :=
            if truthy request.contentType then request.contentType else "application/octet-stream"
          storeUpload base request contentType digest actor

/-- `delete_document`; the stores that cannot be reached are logged. -/
def deleteDocument (documentId : Uuid) : KnowledgeProgram Unit := do
  match ← perform (.getWithBase documentId) with
  | none =>
      let id := documentId.str
      raise (.app (notFoundError s!"No document with id {id}."))
  | some (document, base) =>
      let rows ← perform (.listForDocument document.id)
      let vectorIds := (List.map DocumentChunk.vectorId rows).filter truthy
      if !vectorIds.isEmpty then
        let _ ← perform (.deleteVectors base.collection vectorIds)
      match document.storageKey with
      | some key => if truthy key then
          let _ ← perform (.removeObject key)
      | none => pure ()
      perform (.deleteDocument document.id)

def searchFilters (base : KnowledgeBase) : List (String × FilterValue) :=
  [("tenant_id", .scalar (.str base.tenantId)), ("knowledge_base_id", .scalar (.str base.id.str))]

def searchResults (base : KnowledgeBase) (hits : List SearchHit)
    (rows : List (DocumentChunk × Document)) : List SearchResult :=
  hits.filterMap fun hit =>
    -- The rows are read into a dictionary, where the last one of an id stays.
    (rows.reverse.find? fun entry => entry.1.vectorId = hit.id).map fun entry =>
      { text := entry.1.text
        score := hit.score
        documentId := entry.1.documentId
        documentName := entry.2.filename
        knowledgeBase := base.name
        location := entry.1.location
        ordinal := entry.1.ordinal
        ocr := entry.2.ocrUsed }

def searchBase (base : KnowledgeBase) (request : SearchQuery) :
    KnowledgeProgram (List SearchResult) := do
  if !base.enabled then return []
  else match ← orRaise (embed [request.query] base.embeddingModel) with
  | [] => return []
  | vector :: _ =>
      match toFilter (searchFilters base) with
      | .error error => raise (.raised error.message)
      | .ok filter =>
          let hits ← perform (.searchVectors base.collection vector request.limit
            request.scoreThreshold filter)
          if List.isEmpty hits then return []
          else do
            let rows ← perform (.chunksByVectorIds (List.map SearchHit.id hits))
            return searchResults base hits rows

def searchBases (request : SearchQuery) : List KnowledgeBase → KnowledgeProgram (List SearchResult)
  | [] => return []
  | base :: rest => do
      let first ← searchBase base request
      let others ← searchBases request rest
      return first ++ others

/-- `search`: the results of all bases by falling score. -/
def search (bases : List KnowledgeBase) (request : SearchQuery) :
    KnowledgeProgram (List SearchResult) := do
  if bases.isEmpty || !truthy (strip request.query) then return []
  else do
    let results ← searchBases request bases
    return (results.insertionSort fun left right => right.score ≤ left.score).take request.limit

def searchKnowledgeBase (request : SearchRequest) : KnowledgeProgram Unit := do
  let base ← getBase request.baseId
  let results ← search [base] request.toSearchQuery
  perform (.respond results)

end AiPlatform.Knowledge
