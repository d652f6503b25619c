import AiPlatform.KnowledgePrograms
import AiPlatform.Numberings
import AiPlatform.SoloRuns

/-!
From the reply of an embedding model to the vectors of the chunks: `VLLMProvider.embeddings`
of `app/services/llm_provider.py` sorts the rows by an index that a row may lack, the
gateway numbers them anew, and an ingestion pairs them with its chunks by position.
-/

namespace AiPlatform.Knowledge

open Numberings (Numbered holder ordered)
open Vectors (Embedding VectorRecord)

/-- A row of `data`; without an embedding it has the empty one. -/
structure EmbeddingRow where
  index : Option Int
  embedding : Embedding

abbrev EmbeddingsReply := Except Failure (List EmbeddingRow)

/-- `d.get("index", 0)` -/
def EmbeddingRow.position (row : EmbeddingRow) : Int := row.index.getD 0

/-- The vectors of `VLLMProvider.embeddings`. -/
def providerVectors (data : List EmbeddingRow) : List Embedding :=
  (ordered EmbeddingRow.position data).map EmbeddingRow.embedding

theorem length_providerVectors {data : List EmbeddingRow} :
    (providerVectors data).length = data.length := by
  rw [providerVectors, List.length_map, Numberings.ordered_perm.length_eq]

/-- The data of `GatewayService.embeddings`. -/
def gatewayData (vectors : List Embedding) : List EmbeddingRow :=
  vectors.zipIdx.map fun (vector, index) => ⟨some index, vector⟩

/-- The embedding that the model returned for the input at this place: that of the only
row with its index. -/
def returned (data : List EmbeddingRow) (place : Nat) : Option Embedding :=
  (holder EmbeddingRow.position data place).map EmbeddingRow.embedding

theorem vectors_returned_iff {data : List EmbeddingRow} :
    (∀ place < data.length, returned data place = (providerVectors data)[place]?) ↔
      Numbered EmbeddingRow.position data := by
  constructor
  · intro same
    apply Numberings.numbered_of_held
    intro place small
    have own := same place small
    have long : place < (providerVectors data).length := length_providerVectors.symm ▸ small
    rw [List.getElem?_eq_getElem long] at own
    obtain ⟨row, held, _⟩ := Option.map_eq_some_iff.mp own
    rw [held]
    rfl
  · intro numbered place _
    rw [returned, providerVectors, List.getElem?_map, numbered.holder_ordered]

/-- A vector store that takes vectors of the size of their collection only, and a model
that gives these replies, each to the request behind so many points. -/
def Surrounds (replies : Nat → EmbeddingsReply) (session : Session) (shared : Shared) :
    Op → Answer → Prop
  | .embed _ _, answer =>
      answer = match replies session.upserted.length with
        | .ok data => .embedded (providerVectors data)
        | .error failure => .fails failure
  | .upsert name records, .nothing | .upsert name records, .lost _ =>
      ∀ collection, shared.vectors name = some collection → ∀ record ∈ records,
        record.vector.length = collection.spec.vectorSize
  | _, _ => True

def vectorSize (shared : Shared) (base : KnowledgeBase) : Nat :=
  ((shared.vectors base.collection).map (·.spec.vectorSize)).getD base.embeddingDimensions

def accepted (size count : Nat) : EmbeddingsReply → Option (List EmbeddingRow)
  | .ok data =>
      if data.length = count ∧ ∀ row ∈ data, row.embedding.length = size then some data else none
  | .error _ => none

section Batches

variable (replies : Nat → EmbeddingsReply) (size : Nat)

def expected : Nat → List (List DocumentChunk) → List (DocumentChunk × Option Embedding)
  | _, [] => []
  | start, rows :: rest =>
      (rows.zipIdx.map fun (row, place) =>
        (row, (replies start).toOption.bind fun data => returned data place)) ++
      expected (start + rows.length) rest

/-- Each chunk row that can be stored, with its vector: those of the batches before the
first whose reply is refused. -/
def paired : Nat → List (List DocumentChunk) → List (DocumentChunk × Embedding)
  | _, [] => []
  | start, rows :: rest =>
      match accepted size rows.length (replies start) with
      | none => []
      | some data => rows.zip (providerVectors data) ++ paired (start + rows.length) rest

/-- Up to the first reply that is refused, each has each of the indices once. -/
def AllNumbered : Nat → List (List DocumentChunk) → Prop
  | _, [] => True
  | start, rows :: rest =>
      ∀ data, accepted size rows.length (replies start) = some data →
        Numbered EmbeddingRow.position data ∧ AllNumbered (start + rows.length) rest

end Batches

/-- Whatever is stored under the id of a chunk is the embedding of its text, and once the
ingestion is through, each chunk has exactly one. -/
structure Corresponds (replies : Nat → EmbeddingsReply) (base : KnowledgeBase)
    (rows : List DocumentChunk) (result : Option (Except Failure Unit)) (store : Shared) :
    Prop where
  own : ∀ entry ∈ expected replies 0 (batches embedBatch rows.length rows),
    ∀ point ∈ store.vectors.points base.collection, point.id = entry.1.vectorId →
      entry.2 = some point.vector
  each : result = some (.ok ()) → ∀ row ∈ rows, ∃ point,
    (store.vectors.points base.collection).filter (fun point => point.id = row.vectorId) = [point]

section Pairs

variable {replies : Nat → EmbeddingsReply} {size start : Nat}

theorem accepted_some {count : Nat} {reply : EmbeddingsReply} {data : List EmbeddingRow} :
    accepted size count reply = some data ↔
      reply = .ok data ∧ data.length = count ∧ ∀ row ∈ data, row.embedding.length = size := by
  cases reply with
  | error failure => exact iff_of_false nofun nofun
  | ok rows =>
      simp only [accepted, Option.ite_none_right_eq_some, Option.some.injEq, Except.ok.injEq]
      constructor
      · rintro ⟨fine, rfl⟩
        exact ⟨rfl, fine⟩
      · rintro ⟨rfl, fine⟩
        exact ⟨fine, rfl⟩

theorem expected_rows (start : Nat) (parts : List (List DocumentChunk)) :
    (expected replies start parts).map Prod.fst = parts.flatten := by
  induction parts generalizing start with
  | nil => rfl
  | cons rows rest ih =>
      rw [expected, List.map_append, ih, List.map_map, List.flatten_cons]
      congr 1
      exact List.zipIdx_map_fst 0 rows

theorem paired_rows (start : Nat) (parts : List (List DocumentChunk)) :
    (paired replies size start parts).map Prod.fst <+: parts.flatten := by
  induction parts generalizing start with
  | nil => exact List.prefix_rfl
  | cons rows rest ih =>
      rw [paired, List.flatten_cons]
      cases taken : accepted size rows.length (replies start) with
      | none => exact List.nil_prefix
      | some data =>
          obtain ⟨_, long, _⟩ := accepted_some.mp taken
          rw [List.map_append, List.map_fst_zip (by rw [length_providerVectors, long])]
          exact List.prefix_append_right_inj rows |>.mpr (ih _)

theorem paired_expected_iff (parts : List (List DocumentChunk)) :
    (∀ pair ∈ (paired replies size start parts).zip (expected replies start parts),
      pair.2.2 = some pair.1.2) ↔ AllNumbered replies size start parts := by
  induction parts generalizing start with
  | nil => exact iff_of_true (fun _ member => (nomatch member)) trivial
  | cons rows rest ih =>
      rw [paired, expected, AllNumbered]
      cases taken : accepted size rows.length (replies start) with
      | none => exact iff_of_true (fun _ member => (nomatch member)) nofun
      | some data =>
          obtain ⟨same, long, _⟩ := accepted_some.mp taken
          have equal : (rows.zip (providerVectors data)).length =
              (rows.zipIdx.map fun (row, place) =>
                (row, (replies start).toOption.bind fun data => returned data place)).length := by
            simp [length_providerVectors, long]
          rw [List.zip_append equal, List.forall_mem_append, ih]
          simp only [Option.some.injEq, forall_eq']
          refine and_congr_left fun _ => ?_
          rw [← vectors_returned_iff, same]
          constructor
          · intro own place small
            have few : place < rows.length := long ▸ small
            have vector : place < (providerVectors data).length :=
              length_providerVectors.symm ▸ small
            rw [List.getElem?_eq_getElem vector]
            refine own ((rows[place], (providerVectors data)[place]),
              (rows[place], returned data place)) (List.mem_iff_getElem?.mpr ⟨place, ?_⟩)
            rw [List.getElem?_zip_eq_some, List.getElem?_zip_eq_some, List.getElem?_map,
              List.getElem?_zipIdx]
            simp [few, vector, Except.toOption]
          · intro own pair member
            obtain ⟨place, found⟩ := List.mem_iff_getElem?.mp member
            rw [List.getElem?_zip_eq_some, List.getElem?_zip_eq_some, List.getElem?_map,
              List.getElem?_zipIdx] at found
            obtain ⟨⟨row, vector⟩, entry⟩ := found
            rw [row, Option.map_some, Option.map_some, Option.some.injEq] at entry
            obtain ⟨small, _⟩ := List.getElem?_eq_some_iff.mp row
            have own := own place (long.symm ▸ small)
            rw [vector] at own
            rw [← entry, ← own]
            simp [Except.toOption]

end Pairs

structure Ready (size : Nat) (base : KnowledgeBase) (rows : List DocumentChunk) (shared : Shared) :
    Prop where
  sized : ∃ collection,
    shared.vectors base.collection = some collection ∧ collection.spec.vectorSize = size
  distinct : (rows.map DocumentChunk.vectorId).Nodup
  new : ∀ point ∈ shared.vectors.points base.collection, ∀ row ∈ rows, point.id ≠ row.vectorId

def pairPoint (base : KnowledgeBase) (document : Document) (pair : DocumentChunk × Embedding) :
    VectorRecord :=
  chunkPoint base document pair.1 pair.2

/-- The session once these points have been sent. -/
abbrev Session.sent (session : Session) (records : List VectorRecord) : Session :=
  { session with upserted := session.upserted ++ records }

abbrev IngestsAmong (settings : Settings) (replies : Nat → EmbeddingsReply) (i : Nat)
    (step : Attempt Unit) (session : Session) (shared : Shared)
    (result : Option (Except Failure Unit)) (final : Session) (store : Shared) : Prop :=
  (knowledgeMachine settings).Plays (Surrounds replies) i step.run session shared result final store

section Runs

variable {settings : Settings} {replies : Nat → EmbeddingsReply} {i size start : Nat}
  {base : KnowledgeBase} {document : Document} {rows others : List DocumentChunk}
  {session final : Session} {shared store : Shared} {result : Option (Except Failure Unit)}

theorem batch_points (vectors : List Embedding) :
    List.zipWith (chunkPoint base document) rows vectors =
      (rows.zip vectors).map (pairPoint base document) :=
  (List.map_zip_eq_zipWith (f := pairPoint base document)).symm

theorem Ready.upsert (ready : Ready size base (rows ++ others) shared) {vectors : List Embedding}
    (long : vectors.length = rows.length) :
    ∃ after, shared.vectors.upsert base.collection
        (List.zipWith (chunkPoint base document) rows vectors) = some after ∧
      (shared.storing after).vectors.points base.collection =
        shared.vectors.points base.collection ++
          (rows.zip vectors).map (pairPoint base document) ∧
      Ready size base others (shared.storing after) := by
  obtain ⟨collection, found, sized⟩ := ready.sized
  have distinct := ready.distinct
  rw [List.map_append, List.nodup_append] at distinct
  obtain ⟨own, later, apart⟩ := distinct
  have ids : (((rows.zip vectors).map (pairPoint base document)).map VectorRecord.id) =
      rows.map DocumentChunk.vectorId := by
    have heads := @List.map_fst_zip _ _ rows vectors (Nat.le_of_eq long.symm)
    rw [← heads, List.map_map, List.map_map, heads]
    rfl
  have new : ∀ point ∈ shared.vectors.points base.collection,
      ∀ record ∈ (rows.zip vectors).map (pairPoint base document), point.id ≠ record.id := by
    intro point there record member same
    have listed := List.mem_map_of_mem (f := VectorRecord.id) member
    rw [ids] at listed
    obtain ⟨row, inside, equal⟩ := List.mem_map.mp listed
    exact ready.new point there row (List.mem_append_left _ inside) (same.trans equal.symm)
  have written : ∃ after, shared.vectors.upsert base.collection
      ((rows.zip vectors).map (pairPoint base document)) = some after ∧
      ∃ collection, after base.collection = some collection ∧
        collection.spec.vectorSize = size := by
    unfold Vectors.Collections.upsert
    split
    · exact ⟨_, rfl, collection, found, sized⟩
    · rw [found]
      exact ⟨_, rfl, _, Vectors.Collections.set_same .., sized⟩
  obtain ⟨after, written, sized'⟩ := written
  have points := Vectors.Collections.points_upsert written base.collection
  rw [if_pos rfl, Vectors.Collections.foldl_overwrite_new (ids.symm ▸ own) new] at points
  refine ⟨after, by rw [batch_points, written], points, sized', later, ?_⟩
  intro point there row listed same
  rw [Shared.storing, points] at there
  rcases List.mem_append.mp there with old | fresh
  · exact ready.new point old row (List.mem_append_right _ listed) same
  · have taken := List.mem_map_of_mem (f := VectorRecord.id) fresh
    rw [ids, same] at taken
    exact apart _ taken _ (List.mem_map_of_mem listed) rfl

theorem batch_sized {data : List EmbeddingRow} (enough : data.length = rows.length) :
    (∀ record ∈ List.zipWith (chunkPoint base document) rows (providerVectors data),
      record.vector.length = size) ↔ ∀ row ∈ data, row.embedding.length = size := by
  have vectors := @List.map_snd_zip _ _ rows (providerVectors data)
    (Nat.le_of_eq (length_providerVectors.trans enough))
  calc (∀ record ∈ List.zipWith (chunkPoint base document) rows (providerVectors data),
        record.vector.length = size)
      ↔ ∀ vector ∈ (rows.zip (providerVectors data)).map Prod.snd, vector.length = size := by
        rw [batch_points, List.forall_mem_map, List.forall_mem_map]
        rfl
    _ ↔ ∀ row ∈ ordered EmbeddingRow.position data, row.embedding.length = size := by
        rw [vectors, providerVectors, List.forall_mem_map]
    _ ↔ ∀ row ∈ data, row.embedding.length = size :=
        forall_congr' fun row => imp_congr_left Numberings.ordered_perm.mem_iff

theorem plays_embed {texts : List String} {model : String}
    {answer : Option (Except Failure (List Embedding))} :
    (knowledgeMachine settings).Plays (Surrounds replies) i (embed texts model).run session shared
        answer final store ↔
      answer = some ((replies session.upserted.length).map providerVectors) ∧ final = session ∧
        store = shared := by
  have any : Nonempty (Reply (.embed texts model)) := ⟨.ok []⟩
  have reacts : (knowledgeMachine settings).react i session shared (.embed texts model)
      (match replies session.upserted.length with
        | .ok data => .embedded (providerVectors data)
        | .error failure => .fails failure) =
      some ((replies session.upserted.length).map providerVectors, shared) := by
    cases replies session.upserted.length with
    | error failure => rfl
    | ok data => rfl
  refine (Machine.plays_request any).trans ?_
  constructor
  · rintro ⟨_, _, rfl, found, rfl, rfl⟩
    cases reacts.symm.trans found
    exact ⟨rfl, rfl, rfl⟩
  · rintro ⟨rfl, rfl, rfl⟩
    exact ⟨_, _, rfl, reacts, rfl, rfl⟩

theorem plays_indexBatch (counted : session.upserted.length = start)
    (ready : Ready size base (rows ++ others) shared)
    (run : IngestsAmong settings replies i (indexBatch base document rows) session shared result
      final store) :
    (∃ failure, result = some (.error failure)) ∧ store = shared ∨
      ∃ data, accepted size rows.length (replies start) = some data ∧
        store.vectors.points base.collection = shared.vectors.points base.collection ++
          (rows.zip (providerVectors data)).map (pairPoint base document) ∧
        Ready size base others store ∧ final.upserted.length = start + rows.length ∧
        (result = some (.ok ()) ∨ ∃ failure, result = some (.error failure)) := by
  subst counted
  rcases Machine.plays_attempt.mp run with
    ⟨vectors, between, middle, asked, rest⟩ | ⟨failure, rfl, asked⟩ | ⟨_, asked⟩
  · obtain ⟨reply, same, same'⟩ := plays_embed.mp asked
    rw [same, same'] at rest
    cases given : replies session.upserted.length with
    | error failure =>
        rw [given] at reply
        cases reply
    | ok data =>
        rw [given] at reply
        cases reply
        dsimp only at rest
        split at rest
        · obtain ⟨rfl, _, rfl⟩ := Machine.plays_done.mp rest
          exact .inl ⟨⟨_, rfl⟩, rfl⟩
        · rename_i enough
          rw [not_not, length_providerVectors] at enough
          have any : Nonempty (Reply (.upsert base.collection
            (List.zipWith (chunkPoint base document) rows (providerVectors data)))) := ⟨.ok ()⟩
          obtain ⟨answer, reply, admitted, reacts, rfl, rfl⟩ := (Machine.plays_request any).mp rest
          obtain ⟨after, written, points, ready'⟩ :=
            @Ready.upsert _ _ document _ _ _ ready (providerVectors data)
              (length_providerVectors.trans enough)
          have sent : (session.upserted ++
              List.zipWith (chunkPoint base document) rows (providerVectors data)).length =
              session.upserted.length + rows.length := by
            simp [length_providerVectors, enough]
          have fits : (answer = .nothing ∨ ∃ failure, answer = .lost failure) →
              accepted size rows.length (.ok data) = some data := by
            intro stored
            obtain ⟨collection, found, rfl⟩ := ready.sized
            have own : ∀ record ∈ List.zipWith (chunkPoint base document) rows
                (providerVectors data), record.vector.length = collection.spec.vectorSize := by
              rcases stored with rfl | ⟨failure, rfl⟩
              · exact admitted collection found
              · exact admitted collection found
            exact accepted_some.mpr ⟨rfl, enough, (batch_sized enough).mp own⟩
          change Shared.call shared ((shared.vectors.upsert base.collection
            (List.zipWith (chunkPoint base document) rows (providerVectors data))).map
              shared.storing) answer = some (reply, store) at reacts
          rw [written] at reacts
          cases answer with
          | nothing =>
              cases reacts
              exact .inr ⟨data, fits (.inl rfl), points, ready', sent, .inl rfl⟩
          | lost failure =>
              cases reacts
              exact .inr ⟨data, fits (.inr ⟨_, rfl⟩), points, ready', sent, .inr ⟨_, rfl⟩⟩
          | fails failure =>
              cases reacts
              exact .inl ⟨⟨_, rfl⟩, rfl⟩
          | time | drawn | chosen | embedded | recognised | hits => cases reacts
  · obtain ⟨_, rfl, rfl⟩ := plays_embed.mp asked
    exact .inl ⟨⟨failure, rfl⟩, rfl⟩
  · cases (plays_embed.mp asked).1

theorem indexBatch_stores (counted : session.upserted.length = start)
    (ready : Ready size base (rows ++ others) shared) {data : List EmbeddingRow}
    (taken : accepted size rows.length (replies start) = some data) :
    ∃ between middle, IngestsAmong settings replies i (indexBatch base document rows) session shared
      (some (.ok ())) between middle ∧
      middle.vectors.points base.collection = shared.vectors.points base.collection ++
        (rows.zip (providerVectors data)).map (pairPoint base document) ∧
      Ready size base others middle ∧ between.upserted.length = start + rows.length := by
  subst counted
  obtain ⟨reply, enough, fits⟩ := accepted_some.mp taken
  obtain ⟨after, written, points, ready'⟩ :=
    @Ready.upsert _ _ document _ _ _ ready (providerVectors data)
      (length_providerVectors.trans enough)
  obtain ⟨collection, found, rfl⟩ := ready.sized
  have any : Nonempty (Reply (.upsert base.collection
    (List.zipWith (chunkPoint base document) rows (providerVectors data)))) := ⟨.ok ()⟩
  refine ⟨session.sent (List.zipWith (chunkPoint base document) rows (providerVectors data)),
    shared.storing after, Machine.plays_attempt.mpr (.inl ⟨providerVectors data, session,
    shared, plays_embed.mpr ⟨by rw [reply]; rfl, rfl, rfl⟩, ?_⟩), points, ready', ?_⟩
  · dsimp only
    rw [if_neg (by rw [not_not, length_providerVectors, enough])]
    refine (Machine.plays_request any).mpr ⟨.nothing, .ok (), ?_, ?_, rfl, rfl⟩
    · intro other same
      rw [found] at same
      cases same
      exact (batch_sized enough).mpr fits
    · change Shared.call shared ((shared.vectors.upsert base.collection
        (List.zipWith (chunkPoint base document) rows (providerVectors data))).map
          shared.storing) .nothing = _
      rw [written]
      rfl
  · simp [length_providerVectors, enough]

def miscounted (returned asked : Nat) : Failure :=
  ⟨"RuntimeError", s!"The embedding model returned {returned} vectors for {asked} passages."⟩

theorem indexBatch_refuses (settings : Settings) (replies : Nat → EmbeddingsReply) (i : Nat)
    (base : KnowledgeBase) (document : Document) (rows : List DocumentChunk) (session : Session)
    (shared : Shared) :
    ∃ failure final, IngestsAmong settings replies i (indexBatch base document rows) session shared
      (some (.error failure)) final shared := by
  cases reply : replies session.upserted.length with
  | error failure =>
      exact ⟨failure, session, Machine.plays_attempt.mpr (.inr (.inl ⟨failure, rfl,
        plays_embed.mpr ⟨by rw [reply]; rfl, rfl, rfl⟩⟩))⟩
  | ok data =>
      have asked := (@plays_embed settings replies i session session shared shared
        (rows.map DocumentChunk.text) base.embeddingModel _).mpr ⟨rfl, rfl, rfl⟩
      rw [reply] at asked
      by_cases enough : data.length = rows.length
      · refine ⟨⟨"", ""⟩, session.sent (List.zipWith (chunkPoint base document) rows
          (providerVectors data)), Machine.plays_attempt.mpr
            (.inl ⟨_, session, shared, asked, ?_⟩)⟩
        dsimp only
        rw [if_neg (by rw [not_not, length_providerVectors, enough])]
        have any : Nonempty (Reply (.upsert base.collection
          (List.zipWith (chunkPoint base document) rows (providerVectors data)))) := ⟨.ok ()⟩
        exact (Machine.plays_request any).mpr ⟨.fails ⟨"", ""⟩, _, trivial, rfl, rfl, rfl⟩
      · refine ⟨miscounted (providerVectors data).length rows.length, session,
          Machine.plays_attempt.mpr (.inl ⟨_, session, shared, asked, ?_⟩)⟩
        dsimp only
        rw [if_pos (by rwa [length_providerVectors])]
        exact Machine.plays_done.mpr ⟨rfl, rfl, rfl⟩

theorem indexBatches_stored {parts : List (List DocumentChunk)}
    (counted : session.upserted.length = start) (ready : Ready size base parts.flatten shared)
    (run : IngestsAmong settings replies i (indexBatches base document parts) session shared result
      final store) :
    ∃ sent, sent <+: paired replies size start parts ∧
      store.vectors.points base.collection =
        shared.vectors.points base.collection ++ sent.map (pairPoint base document) ∧
      (result = some (.ok ()) → sent.map Prod.fst = parts.flatten) := by
  induction parts generalizing start session shared with
  | nil =>
      obtain ⟨_, _, rfl⟩ := Machine.plays_done.mp run
      exact ⟨[], List.prefix_rfl, by simp, fun _ => rfl⟩
  | cons rows rest ih =>
      rw [List.flatten_cons] at ready ⊢
      rw [paired]
      rcases Machine.plays_attempt.mp run with
        ⟨_, between, middle, first, second⟩ | ⟨failure, rfl, first⟩ | ⟨rfl, first⟩
      · rcases plays_indexBatch counted ready first with
          ⟨⟨failure, same⟩, _⟩ | ⟨data, taken, points, ready', counted', _⟩
        · cases same
        · obtain ⟨_, long, _⟩ := accepted_some.mp taken
          obtain ⟨sent, begun, more, whole⟩ := ih counted' ready' second
          refine ⟨rows.zip (providerVectors data) ++ sent, ?_, ?_, fun done => ?_⟩
          · rw [taken]
            exact (List.prefix_append_right_inj _).mpr begun
          · rw [more, points, List.map_append, List.append_assoc]
          · rw [List.map_append, whole done,
              List.map_fst_zip (by rw [length_providerVectors, long])]
      · rcases plays_indexBatch counted ready first with
          ⟨_, rfl⟩ | ⟨data, taken, points, _⟩
        · exact ⟨[], List.nil_prefix, by simp, nofun⟩
        · refine ⟨rows.zip (providerVectors data), ?_, points, nofun⟩
          rw [taken]
          exact List.prefix_append _ _
      · rcases plays_indexBatch counted ready first with
          ⟨⟨failure, same⟩, _⟩ | ⟨_, _, _, _, _, same | ⟨failure, same⟩⟩
        · cases same
        · cases same
        · cases same

theorem indexBatches_stores (settings : Settings) (i : Nat) (document : Document)
    {parts : List (List DocumentChunk)} (counted : session.upserted.length = start)
    (ready : Ready size base parts.flatten shared) :
    ∃ result final store, IngestsAmong settings replies i (indexBatches base document parts) session
      shared result final store ∧
      store.vectors.points base.collection = shared.vectors.points base.collection ++
        (paired replies size start parts).map (pairPoint base document) := by
  induction parts generalizing start session shared with
  | nil =>
      exact ⟨some (.ok ()), session, shared, Machine.plays_done.mpr ⟨rfl, rfl, rfl⟩,
        by simp [paired]⟩
  | cons rows rest ih =>
      rw [List.flatten_cons] at ready
      rw [paired]
      cases taken : accepted size rows.length (replies start) with
      | none =>
          obtain ⟨failure, final, refused⟩ :=
            indexBatch_refuses settings replies i base document rows session shared
          exact ⟨some (.error failure), final, shared,
            Machine.plays_attempt.mpr (.inr (.inl ⟨failure, rfl, refused⟩)), by simp⟩
      | some data =>
          obtain ⟨between, middle, first, points, ready', counted'⟩ :=
            @indexBatch_stores settings _ i _ _ _ document _ _ _ _ counted ready _ taken
          obtain ⟨result, final, store, second, more⟩ := ih counted' ready'
          refine ⟨result, final, store,
            Machine.plays_attempt.mpr (.inl ⟨(), between, middle, first, second⟩), ?_⟩
          rw [more, points, List.map_append, List.append_assoc]

def ensured (base : KnowledgeBase) (shared : Shared) : Shared :=
  shared.storing
    (shared.vectors.ensureCollection ⟨base.collection, base.embeddingDimensions, .cosine⟩)

theorem points_ensured (shared : Shared) :
    (ensured base shared).vectors.points base.collection =
      shared.vectors.points base.collection :=
  Vectors.Collections.points_ensure ..

theorem ready_ensured (distinct : (rows.map DocumentChunk.vectorId).Nodup)
    (new : ∀ point ∈ shared.vectors.points base.collection, ∀ row ∈ rows,
      point.id ≠ row.vectorId) :
    Ready (vectorSize shared base) base rows (ensured base shared) := by
  refine ⟨?_, distinct, by rwa [points_ensured]⟩
  cases found : shared.vectors base.collection with
  | some collection =>
      refine ⟨collection, ?_, by simp [vectorSize, found]⟩
      simp only [ensured, Shared.storing, Vectors.Collections.ensureCollection, found]
  | none =>
      refine ⟨⟨⟨base.collection, base.embeddingDimensions, .cosine⟩, []⟩, ?_,
        by simp [vectorSize, found]⟩
      simp only [ensured, Shared.storing, Vectors.Collections.ensureCollection, found,
        Vectors.Collections.set_same]

theorem plays_ensureCollection
    (run : IngestsAmong settings replies i (ensureCollection base) session shared result final
      store) :
    final = session ∧ (store = ensured base shared ∧ result = some (.ok ()) ∨
      (store = ensured base shared ∨ store = shared) ∧
        ∃ failure, result = some (.error failure)) := by
  have any : Nonempty (Reply
    (.ensureCollection ⟨base.collection, base.embeddingDimensions, .cosine⟩)) := ⟨.ok ()⟩
  obtain ⟨answer, reply, _, reacts, rfl, rfl⟩ := (Machine.plays_request any).mp run
  refine ⟨rfl, ?_⟩
  cases answer with
  | nothing =>
      cases reacts
      exact .inl ⟨rfl, rfl⟩
  | lost failure =>
      cases reacts
      exact .inr ⟨.inl rfl, failure, rfl⟩
  | fails failure =>
      cases reacts
      exact .inr ⟨.inr rfl, failure, rfl⟩
  | time | drawn | chosen | embedded | recognised | hits => cases reacts

theorem flatten_embedBatches : (batches embedBatch rows.length rows).flatten = rows :=
  flatten_batches (by decide) _ _ (Nat.le_refl _)

theorem embedAndIndex_stored (clean : session.upserted = [])
    (distinct : (rows.map DocumentChunk.vectorId).Nodup)
    (new : ∀ point ∈ shared.vectors.points base.collection, ∀ row ∈ rows,
      point.id ≠ row.vectorId)
    (run : IngestsAmong settings replies i (embedAndIndex base document rows) session shared result
      final store) :
    ∃ sent, sent <+: paired replies (vectorSize shared base) 0
        (batches embedBatch rows.length rows) ∧
      store.vectors.points base.collection =
        shared.vectors.points base.collection ++ sent.map (pairPoint base document) ∧
      (result = some (.ok ()) → sent.map Prod.fst = rows) := by
  rcases Machine.plays_attempt.mp run with
    ⟨_, between, middle, first, second⟩ | ⟨failure, rfl, first⟩ | ⟨rfl, first⟩
  · obtain ⟨rfl, ⟨rfl, _⟩ | ⟨_, _, same⟩⟩ := plays_ensureCollection first
    · have ready := ready_ensured distinct new
      rw [← @flatten_embedBatches rows] at ready
      obtain ⟨sent, begun, points, whole⟩ :=
        indexBatches_stored (List.length_eq_zero_iff.mpr clean) ready second
      rw [points_ensured] at points
      rw [flatten_embedBatches] at whole
      exact ⟨sent, begun, points, whole⟩
    · cases same
  · refine ⟨[], List.nil_prefix, ?_, nofun⟩
    obtain ⟨_, ⟨rfl, _⟩ | ⟨rfl | rfl, _⟩⟩ := plays_ensureCollection first
    · simp [points_ensured]
    · simp [points_ensured]
    · simp
  · obtain ⟨_, ⟨_, same⟩ | ⟨_, _, same⟩⟩ := plays_ensureCollection first
    · cases same
    · cases same

theorem embedAndIndex_stores (settings : Settings) (replies : Nat → EmbeddingsReply) (i : Nat)
    (document : Document) (clean : session.upserted = [])
    (distinct : (rows.map DocumentChunk.vectorId).Nodup)
    (new : ∀ point ∈ shared.vectors.points base.collection, ∀ row ∈ rows,
      point.id ≠ row.vectorId) :
    ∃ result final store, IngestsAmong settings replies i (embedAndIndex base document rows) session
      shared result final store ∧
      store.vectors.points base.collection = shared.vectors.points base.collection ++
        (paired replies (vectorSize shared base) 0 (batches embedBatch rows.length rows)).map
          (pairPoint base document) := by
  have ready := ready_ensured distinct new
  rw [← @flatten_embedBatches rows] at ready
  obtain ⟨result, final, store, second, points⟩ :=
    @indexBatches_stores replies _ _ _ session _ settings i document _
      (List.length_eq_zero_iff.mpr clean) ready
  have any : Nonempty (Reply
    (.ensureCollection ⟨base.collection, base.embeddingDimensions, .cosine⟩)) := ⟨.ok ()⟩
  have first : IngestsAmong settings replies i (ensureCollection base) session shared
      (some (.ok ())) session (ensured base shared) :=
    (Machine.plays_request any).mpr ⟨.nothing, .ok (), trivial, rfl, rfl, rfl⟩
  refine ⟨result, final, store,
    Machine.plays_attempt.mpr (.inl ⟨(), session, ensured base shared, first, second⟩), ?_⟩
  rw [points, points_ensured]

end Runs

section Statement

variable {replies : Nat → EmbeddingsReply} {base : KnowledgeBase} {document : Document}
  {rows : List DocumentChunk} {shared store : Shared}

theorem expected_row {size start : Nat} {parts : List (List DocumentChunk)}
    {pair : DocumentChunk × Embedding} {entry : DocumentChunk × Option Embedding}
    (member : (pair, entry) ∈
      (paired replies size start parts).zip (expected replies start parts)) :
    entry.1 = pair.1 := by
  obtain ⟨place, found⟩ := List.mem_iff_getElem?.mp member
  obtain ⟨first, second⟩ := List.getElem?_zip_eq_some.mp found
  have row : ((paired replies size start parts).map Prod.fst)[place]? = some pair.1 := by
    rw [List.getElem?_map, first]
    rfl
  have same := List.prefix_iff_getElem?.mp (paired_rows start parts) place
    (List.getElem?_eq_some_iff.mp row).1
  rw [← @expected_rows replies start parts, List.getElem?_map, second] at same
  rw [List.getElem?_eq_getElem (List.getElem?_eq_some_iff.mp row).1] at row
  exact Option.some.inj (same.trans row)

theorem stored_own (distinct : (rows.map DocumentChunk.vectorId).Nodup)
    (new : ∀ point ∈ shared.vectors.points base.collection, ∀ row ∈ rows,
      point.id ≠ row.vectorId)
    {sent : List (DocumentChunk × Embedding)}
    (begun : sent <+: paired replies (vectorSize shared base) 0
      (batches embedBatch rows.length rows))
    (points : store.vectors.points base.collection =
      shared.vectors.points base.collection ++ sent.map (pairPoint base document))
    (numbered : AllNumbered replies (vectorSize shared base) 0
      (batches embedBatch rows.length rows)) :
    ∀ entry ∈ expected replies 0 (batches embedBatch rows.length rows),
      ∀ point ∈ store.vectors.points base.collection, point.id = entry.1.vectorId →
        entry.2 = some point.vector := by
  intro entry listed point there same
  have known : entry.1 ∈ rows := by
    rw [← @flatten_embedBatches rows, ← @expected_rows replies 0]
    exact List.mem_map_of_mem listed
  rw [points] at there
  rcases List.mem_append.mp there with old | fresh
  · exact absurd same (new point old entry.1 known)
  · obtain ⟨pair, taken, rfl⟩ := List.mem_map.mp fresh
    have short : (paired replies (vectorSize shared base) 0
        (batches embedBatch rows.length rows)).length ≤
        (expected replies 0 (batches embedBatch rows.length rows)).length := by
      have lengths := (@paired_rows replies (vectorSize shared base) 0
        (batches embedBatch rows.length rows)).length_le
      rwa [← @expected_rows replies 0, List.length_map, List.length_map] at lengths
    have beside := begun.subset taken
    rw [← List.map_fst_zip short] at beside
    obtain ⟨⟨_, other⟩, both, rfl⟩ := List.mem_map.mp beside
    have distinct' : ((expected replies 0 (batches embedBatch rows.length rows)).map
        fun entry => entry.1.vectorId).Nodup := by
      have ids := congrArg (List.map DocumentChunk.vectorId) (@expected_rows replies 0
        (batches embedBatch rows.length rows))
      rw [flatten_embedBatches, List.map_map] at ids
      exact ids ▸ distinct
    have own : other = entry := by
      refine List.inj_on_of_nodup_map distinct' (List.of_mem_zip both).2 listed ?_
      exact (congrArg DocumentChunk.vectorId (expected_row both)).trans same
    exact own ▸ (paired_expected_iff _).mpr numbered _ both

theorem stored_each (distinct : (rows.map DocumentChunk.vectorId).Nodup)
    (new : ∀ point ∈ shared.vectors.points base.collection, ∀ row ∈ rows,
      point.id ≠ row.vectorId)
    {sent : List (DocumentChunk × Embedding)}
    (points : store.vectors.points base.collection =
      shared.vectors.points base.collection ++ sent.map (pairPoint base document))
    (whole : sent.map Prod.fst = rows) {row : DocumentChunk} (listed : row ∈ rows) :
    ∃ point, (store.vectors.points base.collection).filter (fun point => point.id = row.vectorId) =
      [point] := by
  have member := listed
  rw [← whole] at member
  obtain ⟨pair, taken, rfl⟩ := List.mem_map.mp member
  have ids : ((sent.map (pairPoint base document)).map VectorRecord.id).Nodup := by
    rw [← whole, List.map_map] at distinct
    rw [List.map_map]
    exact distinct
  have old : (shared.vectors.points base.collection).filter
      (fun point => point.id = pair.1.vectorId) = [] := by
    rw [List.filter_eq_nil_iff]
    intro point there
    simpa using new point there pair.1 listed
  refine ⟨pairPoint base document pair, ?_⟩
  rw [points, List.filter_append, old, List.nil_append]
  exact Numberings.filter_own_key ids (List.mem_map_of_mem taken)

end Statement

/-- However a run of `_embed_and_index` ends, the vectors correspond to the chunks. -/
def AlwaysCorresponds (settings : Settings) (replies : Nat → EmbeddingsReply) (i : Nat)
    (base : KnowledgeBase) (document : Document) (rows : List DocumentChunk) (session : Session)
    (shared : Shared) : Prop :=
  ∀ result final store,
    IngestsAmong settings replies i (embedAndIndex base document rows) session shared result final
      store → Corresponds replies base rows result store

/-- The vectors of a document correspond to its chunks in every run if and only if each
reply that leads to a batch being stored has each of the indices once. -/
theorem embeddings_correspond_iff (settings : Settings) (replies : Nat → EmbeddingsReply) (i : Nat)
    (base : KnowledgeBase) (document : Document) (rows : List DocumentChunk) (session : Session)
    (shared : Shared) (clean : session.upserted = [])
    (distinct : (rows.map DocumentChunk.vectorId).Nodup)
    (new : ∀ point ∈ shared.vectors.points base.collection, ∀ row ∈ rows,
      point.id ≠ row.vectorId) :
    AlwaysCorresponds settings replies i base document rows session shared ↔
      AllNumbered replies (vectorSize shared base) 0 (batches embedBatch rows.length rows) := by
  constructor
  · intro correspond
    obtain ⟨result, final, store, run, points⟩ :=
      embedAndIndex_stores settings replies i document clean distinct new
    have own := (correspond result final store run).own
    rw [← paired_expected_iff]
    rintro ⟨pair, entry⟩ member
    obtain ⟨stored, listed⟩ := List.of_mem_zip member
    refine own entry listed (pairPoint base document pair) ?_
      (congrArg DocumentChunk.vectorId (expected_row member).symm)
    rw [points]
    exact List.mem_append_right _ (List.mem_map_of_mem stored)
  · intro numbered result final store run
    obtain ⟨sent, begun, points, whole⟩ := embedAndIndex_stored clean distinct new run
    exact ⟨stored_own distinct new begun points numbered,
      fun done row listed => stored_each distinct new points (whole done) listed⟩

def leaveRow : DocumentChunk := ⟨⟨8⟩, 0, "Leave is thirty days.", 5, none, "leave"⟩

def noticeRow : DocumentChunk := ⟨⟨8⟩, 1, "Notice is ten days.", 5, none, "notice"⟩

def staffBase : KnowledgeBase :=
  { id := ⟨7⟩, name := "staff", displayName := "Staff", description := none
    tenantId := "default", ownerId := 0, embeddingModel := "embedder", embeddingDimensions := 1
    chunkSize := 1200, chunkOverlap := 150, enabled := true }

def staffNotes : Document :=
  { id := ⟨8⟩, knowledgeBaseId := ⟨7⟩, filename := "staff.txt", contentType := "text/plain"
    sizeBytes := 40, sha256 := "", storageKey := none, status := .embedding, statusDetail := none
    error := none, characters := 40, chunkCount := 0, ocrUsed := false, uploadedBy := 0
    createdAt := 0 }

def plainSettings : Settings :=
  ⟨fun _ => "", fun _ _ _ => .ok ⟨[], false, none⟩, fun _ _ _ => .ok [], false⟩

def twoRows (first : Int) : Nat → EmbeddingsReply :=
  fun _ => .ok [⟨some (first + 1), [2]⟩, ⟨some first, [1]⟩]

theorem rows_from_zero_correspond :
    AlwaysCorresponds plainSettings (twoRows 0) 0 staffBase staffNotes [leaveRow, noticeRow]
      (.opened .tick) .empty := by
  refine (embeddings_correspond_iff plainSettings (twoRows 0) 0 staffBase staffNotes
    [leaveRow, noticeRow] (.opened .tick) .empty rfl (by decide +kernel)
    (fun _ there => (nomatch there))).mpr ?_
  intro data taken
  obtain ⟨same, _⟩ := accepted_some.mp taken
  cases same
  exact ⟨List.Perm.swap 0 1 [], trivial⟩

/-- A model that numbers its rows from one: the leave is stored with the embedding that was
returned for the notice, and nothing is raised. -/
theorem rows_from_one_are_shifted :
    ¬ AlwaysCorresponds plainSettings (twoRows 1) 0 staffBase staffNotes [leaveRow, noticeRow]
        (.opened .tick) .empty ∧
      paired (twoRows 1) 1 0 [[leaveRow, noticeRow]] = [(leaveRow, [1]), (noticeRow, [2])] ∧
      expected (twoRows 1) 0 [[leaveRow, noticeRow]] =
        [(leaveRow, none), (noticeRow, some [1])] := by
  refine ⟨fun correspond => ?_, by decide +kernel, by decide +kernel⟩
  obtain ⟨result, final, store, run, points⟩ :=
    @embedAndIndex_stores staffBase [leaveRow, noticeRow] (.opened .tick) .empty plainSettings
      (twoRows 1) 0 staffNotes rfl (by decide +kernel) (fun _ there => (nomatch there))
  have listed : (leaveRow, none) ∈ expected (twoRows 1) 0 (batches embedBatch 2
      [leaveRow, noticeRow]) := by decide +kernel
  have stored : (leaveRow, [1]) ∈ paired (twoRows 1) (vectorSize .empty staffBase) 0
      (batches embedBatch 2 [leaveRow, noticeRow]) := by decide +kernel
  have own := (correspond result final store run).own _ listed
    (pairPoint staffBase staffNotes (leaveRow, [1]))
    (by rw [points]; exact List.mem_append_right _ (List.mem_map_of_mem stored)) rfl
  cases own

end AiPlatform.Knowledge
