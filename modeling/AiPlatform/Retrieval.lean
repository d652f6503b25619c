import AiPlatform.Ingestion
import AiPlatform.Rankings
import AiPlatform.SoloRuns
import Mathlib.Algebra.Order.Ring.Unbundled.Rat

/-!
`RetrievalService.gather` of `app/services/retrieval.py`, as far as the passages go:
the knowledge bases that an agent version names are searched for its question. The
contents of the stores stay as they are meanwhile, and the vector store answers
with the points of the highest scores.
-/

namespace AiPlatform.Knowledge

open Agents (truthy strip)
open Rankings (Best best_found_iff best_empty_iff find_key_iff join_perm ranked)
open Vectors (Collections Embedding FieldCondition SearchHit VectorRecord admits toFilter)

/-- `MAX_PASSAGES` -/
def maxPassages : Nat := 4

/-- `MIN_SCORE` -/
def minScore : Rat := 1 / 4

/-- `_search_knowledge`; `parse` is `uuid.UUID`, which may raise. -/
def searchKnowledge (parse : String → Option Uuid) (tenantId : String) (baseIds : List String)
    (question : String) : KnowledgeProgram (List SearchResult × List String) :=
  match baseIds.mapM parse with
  | none => return ([], [])
  | some ids => do
      let bases ← perform (.basesByIds ids)
      if List.isEmpty bases then return ([], [])
      else do
        let permitted := List.filter (fun base : KnowledgeBase => base.tenantId = tenantId) bases
        let passages ← search permitted ⟨question, maxPassages, some minScore⟩
        return (passages, permitted.map KnowledgeBase.name)

/-- The passages and the searched bases of `gather`. -/
def gather (parse : String → Option Uuid) (tenantId : String) (baseIds : List String)
    (question : String) : KnowledgeProgram (List SearchResult × List String) :=
  if baseIds.isEmpty then return ([], []) else searchKnowledge parse tenantId baseIds question

structure Surroundings where
  embed : List String → String → Except Failure (List Embedding)
  hits : String → Embedding → Nat → Option Rat → Option (List FieldCondition) → List SearchHit

def Surroundings.answer (surroundings : Surroundings) : Op → Answer
  | .embed texts model =>
      match surroundings.embed texts model with
      | .ok vectors => .embedded vectors
      | .error failure => .fails failure
  | .searchVectors collection query limit scoreThreshold filter =>
      .hits (surroundings.hits collection query limit scoreThreshold filter)
  | _ => .nothing

def candidates (similarity : Embedding → Embedding → Rat) (vectors : Collections)
    (collection : String) (query : Embedding) (scoreThreshold : Option Rat)
    (filter : Option (List FieldCondition)) : List SearchHit :=
  (((vectors.points collection).filter fun point => admits filter point.payload).map
    fun point => (⟨point.id, similarity query point.vector, point.payload⟩ : SearchHit)).filter
      fun hit => scoreThreshold.all fun threshold => threshold ≤ hit.score

/-- The vector store finds the best points. -/
def Exact (similarity : Embedding → Embedding → Rat) (vectors : Collections)
    (surroundings : Surroundings) : Prop :=
  ∀ collection query limit scoreThreshold filter,
    Best SearchHit.score limit
      (candidates similarity vectors collection query scoreThreshold filter)
      (surroundings.hits collection query limit scoreThreshold filter)

def Shared.entries (shared : Shared) : List (DocumentChunk × Document) :=
  shared.chunks.filterMap fun row =>
    (shared.document row.documentId).map fun document => (row, document)

/-- Ids of points and of chunk rows are drawn once, and a vector lies in the collection
of the base that its document belongs to. -/
structure Filed (shared : Shared) : Prop where
  points : ∀ name, ((shared.vectors.points name).map VectorRecord.id).Nodup
  chunks : (shared.chunks.map DocumentChunk.vectorId).Nodup
  placed : ∀ base ∈ shared.bases, ∀ point ∈ shared.vectors.points base.collection,
    ∀ entry ∈ shared.entries, entry.1.vectorId = point.id → entry.2.knowledgeBaseId = base.id

section Scope

variable (parse : String → Option Uuid) (tenantId : String) (baseIds : List String)
  (question : String) (similarity : Embedding → Embedding → Rat) (shared : Shared)
  (surroundings : Surroundings) (base : KnowledgeBase)

def readable : List KnowledgeBase :=
  shared.bases.filter fun base => base.enabled && (base.tenantId = tenantId &&
    baseIds.any fun text => parse text = some base.id)

def questionVector : Option Embedding :=
  if truthy (strip question) then
    match surroundings.embed [question] base.embeddingModel with
    | .ok (vector :: _) => some vector
    | .ok [] | .error _ => none
  else none

def baseFilter : Option (List FieldCondition) :=
  some [⟨"tenant_id", .value (.str base.tenantId)⟩,
    ⟨"knowledge_base_id", .value (.str base.id.str)⟩]

def scored : List SearchHit :=
  match questionVector question surroundings base with
  | some vector =>
      candidates similarity shared.vectors base.collection vector (some minScore) (baseFilter base)
  | none => []

def answered : List SearchHit :=
  match questionVector question surroundings base with
  | some vector =>
      surroundings.hits base.collection vector maxPassages (some minScore) (baseFilter base)
  | none => []

def passageOf (base : KnowledgeBase) (hit : SearchHit) (entry : DocumentChunk × Document) :
    SearchResult where
  text := entry.1.text
  score := hit.score
  documentId := entry.1.documentId
  documentName := entry.2.filename
  knowledgeBase := base.name
  location := entry.1.location
  ordinal := entry.1.ordinal
  ocr := entry.2.ocrUsed

def livePassages : List SearchResult :=
  shared.entries.filterMap fun entry =>
    if entry.2.knowledgeBaseId = base.id then
      ((scored question similarity shared surroundings base).find? fun hit =>
        hit.id = entry.1.vectorId).map fun hit => passageOf base hit entry
    else none

def rowed (hits : List SearchHit) : List SearchResult :=
  hits.filterMap fun hit =>
    (shared.entries.find? fun entry => entry.1.vectorId = hit.id).map (passageOf base hit)

end Scope

section Search

variable {surroundings : Surroundings} {i : Nat} {session session' : Session}
  {shared shared' : Shared} {question : String}

def Surroundings.run {α : Type} (surroundings : Surroundings) (i : Nat) :
    KnowledgeProgram α → Session → Shared → Option (α × Session × Shared)
  | .done value, session, shared => some (value, session, shared)
  | .perform op next, session, shared =>
      match shared.react i session op (surroundings.answer op) with
      | some (reply, after) => run surroundings i (next reply) (session.after op reply) after
      | none => none

theorem run_bind {α β : Type} {program : KnowledgeProgram α} {rest : α → KnowledgeProgram β}
    {value : β} :
    surroundings.run i (program >>= rest) session shared = some (value, session', shared') ↔
      ∃ first middle between,
        surroundings.run i program session shared = some (first, middle, between) ∧
        surroundings.run i (rest first) middle between = some (value, session', shared') := by
  induction program generalizing session shared with
  | done first =>
      constructor
      · exact fun ran => ⟨first, session, shared, rfl, ran⟩
      · rintro ⟨_, _, _, begun, ended⟩
        cases begun
        exact ended
  | perform op next ih =>
      rw [Program.perform_bind, Surroundings.run, Surroundings.run]
      cases shared.react i session op (surroundings.answer op) with
      | none => simp
      | some reacted => exact ih reacted.1

theorem run_done {α : Type} {value result : α} :
    surroundings.run i (.done value) session shared = some (result, session', shared') ↔
      result = value ∧ session' = session ∧ shared' = shared := by
  rw [Surroundings.run, Option.some.injEq, Prod.mk.injEq, Prod.mk.injEq]
  exact and_congr eq_comm (and_congr eq_comm eq_comm)

theorem run_perform {op : Op} {reply : Reply op} :
    surroundings.run i (perform op) session shared = some (reply, session', shared') ↔
      shared.react i session op (surroundings.answer op) = some (reply, shared') ∧
        session' = session.after op reply := by
  unfold perform Program.request Surroundings.run
  cases reacted : shared.react i session op (surroundings.answer op) with
  | none => simp
  | some outcome =>
      obtain ⟨other, between⟩ := outcome
      simp only [run_done, Option.some.injEq, Prod.mk.injEq]
      constructor
      · rintro ⟨rfl, rfl, rfl⟩
        exact ⟨⟨rfl, rfl⟩, rfl⟩
      · rintro ⟨⟨rfl, rfl⟩, rfl⟩
        exact ⟨rfl, rfl, rfl⟩

theorem run_raise {α : Type} {refusal : Refusal} {value : α} :
    surroundings.run i (raise refusal) session shared ≠
      some (value, session', shared') := by
  intro ran
  cases ran

theorem toFilter_base (base : KnowledgeBase) :
    toFilter (searchFilters base) = .ok (baseFilter base) := rfl

theorem entries_ids (filed : Filed shared) :
    (shared.entries.map fun entry => entry.1.vectorId).Nodup := by
  refine filed.chunks.sublist ?_
  unfold Shared.entries
  induction shared.chunks with
  | nil => exact .slnil
  | cons row rest ih =>
      cases found : shared.document row.documentId with
      | none =>
          simp only [List.filterMap_cons, found, Option.map_none]
          exact ih.cons _
      | some document =>
          simp only [List.filterMap_cons, found, Option.map_some]
          exact ih.cons_cons _

theorem entries_filter (keep : String → Bool) :
    (shared.chunks.filter fun row => keep row.vectorId).filterMap (fun row =>
        (shared.document row.documentId).map fun document => (row, document)) =
      shared.entries.filter fun entry => keep entry.1.vectorId := by
  unfold Shared.entries
  induction shared.chunks with
  | nil => rfl
  | cons row rest ih =>
      cases found : shared.document row.documentId <;> cases kept : keep row.vectorId <;>
        simp [found, kept, ih]

theorem searchResults_rowed (filed : Filed shared) (base : KnowledgeBase) (hits : List SearchHit) :
    searchResults base hits ((shared.chunks.filter fun row =>
        (hits.map SearchHit.id).contains row.vectorId).filterMap fun row =>
          (shared.document row.documentId).map fun document => (row, document)) =
      rowed shared base hits := by
  rw [entries_filter, searchResults, rowed]
  refine List.filterMap_congr fun hit member => ?_
  have ids := entries_ids filed
  have fewer : ((shared.entries.filter fun entry =>
      (hits.map SearchHit.id).contains entry.1.vectorId).reverse.map
        fun entry => entry.1.vectorId).Nodup := by
    rw [List.map_reverse, List.nodup_reverse]
    exact ids.sublist (List.filter_sublist.map _)
  have first : ((shared.entries.filter fun entry =>
        (hits.map SearchHit.id).contains entry.1.vectorId).reverse.find? fun entry =>
          entry.1.vectorId = hit.id) =
      shared.entries.find? fun entry => entry.1.vectorId = hit.id := by
    ext entry
    rw [find_key_iff fewer, find_key_iff ids, List.mem_reverse, List.mem_filter,
      List.contains_iff_mem]
    constructor
    · rintro ⟨⟨listed, _⟩, same⟩
      exact ⟨listed, same⟩
    · rintro ⟨listed, same⟩
      exact ⟨⟨listed, same ▸ List.mem_map_of_mem member⟩, same⟩
  rw [first]
  rfl

theorem run_embed {texts : List String} {model : String} {vectors : List Embedding}
    (ran : surroundings.run i (orRaise (embed texts model)) session shared =
      some (vectors, session', shared')) :
    shared' = shared ∧ surroundings.embed texts model = .ok vectors := by
  unfold orRaise at ran
  obtain ⟨outcome, middle, between, sent, rest⟩ := run_bind.mp ran
  obtain ⟨reacted, _⟩ := run_perform.mp sent
  simp only [Surroundings.answer] at reacted
  cases answered : surroundings.embed texts model with
  | error failure =>
      rw [answered] at reacted
      cases reacted
      exact absurd rest run_raise
  | ok found =>
      rw [answered] at reacted
      cases reacted
      obtain ⟨rfl, _, rfl⟩ := run_done.mp rest
      exact ⟨rfl, rfl⟩

theorem run_searchBase (filed : Filed shared) {base : KnowledgeBase} {results : List SearchResult}
    (asked : truthy (strip question) = true)
    (ran : surroundings.run i (searchBase base ⟨question, maxPassages, some minScore⟩) session
      shared = some (results, session', shared')) :
    shared' = shared ∧ results =
      if base.enabled then rowed shared base (answered question surroundings base) else [] := by
  unfold searchBase at ran
  cases enabled : base.enabled with
  | false =>
      rw [enabled] at ran
      obtain ⟨rfl, _, rfl⟩ := run_done.mp ran
      exact ⟨rfl, rfl⟩
  | true =>
      simp only [enabled, Bool.not_true, Bool.false_eq_true, if_false] at ran
      obtain ⟨vectors, middle, between, embedded, rest⟩ := run_bind.mp ran
      obtain ⟨rfl, known⟩ := run_embed embedded
      rw [if_pos rfl, answered, questionVector, if_pos asked, known]
      cases vectors with
      | nil =>
          obtain ⟨rfl, _, rfl⟩ := run_done.mp rest
          exact ⟨rfl, rfl⟩
      | cons vector more =>
          simp only [toFilter_base] at rest
          obtain ⟨hits, second, third, sent, rest⟩ := run_bind.mp rest
          obtain ⟨reacted, _⟩ := run_perform.mp sent
          simp only [Surroundings.answer, Shared.react] at reacted
          split at reacted
          · cases reacted
            simp only
            cases empty : List.isEmpty (surroundings.hits base.collection vector maxPassages
              (some minScore) (baseFilter base)) with
            | true =>
                rw [empty] at rest
                obtain ⟨rfl, _, rfl⟩ := run_done.mp rest
                rw [List.isEmpty_iff.mp empty]
                exact ⟨rfl, rfl⟩
            | false =>
                simp only [empty, Bool.false_eq_true, if_false] at rest
                obtain ⟨rows, fourth, fifth, read, rest⟩ := run_bind.mp rest
                obtain ⟨reacted, _⟩ := run_perform.mp read
                cases reacted
                obtain ⟨rfl, _, rfl⟩ := run_done.mp rest
                exact ⟨rfl, searchResults_rowed filed base _⟩
          · cases reacted

theorem run_searchBases (filed : Filed shared) {bases : List KnowledgeBase}
    {results : List SearchResult} (asked : truthy (strip question) = true)
    (ran : surroundings.run i (searchBases ⟨question, maxPassages, some minScore⟩ bases) session
      shared = some (results, session', shared')) :
    shared' = shared ∧ results = (bases.filter KnowledgeBase.enabled).flatMap fun base =>
      rowed shared base (answered question surroundings base) := by
  induction bases generalizing session session' shared' results with
  | nil =>
      obtain ⟨rfl, _, rfl⟩ := run_done.mp ran
      exact ⟨rfl, rfl⟩
  | cons base rest ih =>
      unfold searchBases at ran
      obtain ⟨first, middle, between, begun, next⟩ := run_bind.mp ran
      obtain ⟨rfl, found⟩ := run_searchBase filed asked begun
      obtain ⟨others, second, third, later, last⟩ := run_bind.mp next
      obtain ⟨rfl, found'⟩ := ih later
      obtain ⟨rfl, _, rfl⟩ := run_done.mp last
      refine ⟨rfl, ?_⟩
      rw [found, found', List.filter_cons]
      cases enabled : base.enabled <;> simp

theorem run_search (filed : Filed shared) {bases : List KnowledgeBase}
    {results : List SearchResult}
    (ran : surroundings.run i (search bases ⟨question, maxPassages, some minScore⟩) session
      shared = some (results, session', shared')) :
    results = (ranked SearchResult.score ((bases.filter KnowledgeBase.enabled).flatMap fun base =>
      rowed shared base (answered question surroundings base))).take maxPassages := by
  unfold search at ran
  cases empty : bases.isEmpty with
  | true =>
      rw [empty] at ran
      obtain ⟨rfl, _, rfl⟩ := run_done.mp ran
      rw [List.isEmpty_iff.mp empty]
      rfl
  | false =>
      cases asked : truthy (strip question) with
      | false =>
          simp only [empty, asked, Bool.not_false, Bool.or_true, if_true] at ran
          obtain ⟨rfl, _, rfl⟩ := run_done.mp ran
          have nothing : ((bases.filter KnowledgeBase.enabled).flatMap fun base =>
              rowed shared' base (answered question surroundings base)) = [] := by
            rw [List.flatMap_eq_nil_iff]
            intro base _
            rw [answered, questionVector, asked]
            rfl
          rw [nothing]
          rfl
      | true =>
          simp only [empty, asked, Bool.not_true, Bool.or_false, Bool.false_eq_true, if_false]
            at ran
          obtain ⟨found, middle, between, begun, next⟩ := run_bind.mp ran
          obtain ⟨rfl, same⟩ := run_searchBases filed asked begun
          obtain ⟨rfl, _, rfl⟩ := run_done.mp next
          rw [same]
          rfl

theorem mapM_parse (parse : String → Option Uuid) (baseIds : List String) :
    baseIds.mapM parse =
      if baseIds.all fun text => (parse text).isSome then some (baseIds.filterMap parse)
      else none := by
  induction baseIds with
  | nil => rfl
  | cons text rest ih =>
      rw [List.mapM_cons, ih]
      cases parsed : parse text with
      | none => simp [parsed]
      | some id =>
          cases well : rest.all fun text => (parse text).isSome with
          | false => simp [parsed, well]
          | true => simp [parsed, well]

theorem readable_filter (parse : String → Option Uuid) (tenantId : String)
    (baseIds : List String) :
    ((shared.bases.filter fun row => (baseIds.filterMap parse).contains row.id).filter
        fun base => base.tenantId = tenantId).filter KnowledgeBase.enabled =
      readable parse tenantId baseIds shared := by
  rw [List.filter_filter, List.filter_filter, readable]
  congr 1
  funext base
  have named : (baseIds.filterMap parse).contains base.id =
      baseIds.any fun text => parse text = some base.id := by
    rw [Bool.eq_iff_iff, List.contains_iff_mem, List.mem_filterMap, List.any_eq_true]
    simp
  rw [named, Bool.and_assoc]

theorem run_gather (filed : Filed shared) {parse : String → Option Uuid} {tenantId : String}
    {baseIds names : List String} {passages : List SearchResult}
    (ran : surroundings.run i (gather parse tenantId baseIds question) session shared =
      some ((passages, names), session', shared')) :
    passages =
      if baseIds.all fun text => (parse text).isSome then
        (ranked SearchResult.score ((readable parse tenantId baseIds shared).flatMap fun base =>
          rowed shared base (answered question surroundings base))).take maxPassages
      else [] := by
  unfold gather searchKnowledge at ran
  cases empty : baseIds.isEmpty with
  | true =>
      rw [empty] at ran
      obtain ⟨same, _, rfl⟩ := run_done.mp ran
      cases same
      rw [List.isEmpty_iff.mp empty]
      have none' : readable parse tenantId [] shared' = [] := by simp [readable]
      rw [none']
      rfl
  | false =>
      simp only [empty, Bool.false_eq_true, if_false, mapM_parse] at ran
      cases well : baseIds.all fun text => (parse text).isSome with
      | false =>
          simp only [well, Bool.false_eq_true, if_false] at ran
          obtain ⟨same, _, rfl⟩ := run_done.mp ran
          cases same
          rfl
      | true =>
          simp only [well, if_true] at ran
          obtain ⟨bases, middle, between, read, next⟩ := run_bind.mp ran
          obtain ⟨reacted, _⟩ := run_perform.mp read
          cases reacted
          have scope := @readable_filter shared parse tenantId baseIds
          simp only [if_true]
          rw [← scope]
          cases gone : List.isEmpty (shared.bases.filter fun row =>
            (baseIds.filterMap parse).contains row.id) with
          | true =>
              rw [gone] at next
              obtain ⟨same, _, rfl⟩ := run_done.mp next
              cases same
              rw [List.isEmpty_iff.mp gone]
              rfl
          | false =>
              simp only [gone, Bool.false_eq_true, if_false] at next
              obtain ⟨found, second, third, searched, last⟩ := run_bind.mp next
              obtain ⟨same, _, rfl⟩ := run_done.mp last
              cases same
              exact run_search filed searched

end Search

section Right

variable {parse : String → Option Uuid} {tenantId : String} {baseIds : List String}
  {question : String} {similarity : Embedding → Embedding → Rat} {shared shared' : Shared}
  {surroundings : Surroundings} {base : KnowledgeBase}

theorem scored_ids (filed : Filed shared) :
    ((scored question similarity shared surroundings base).map SearchHit.id).Nodup := by
  unfold scored
  split
  · refine (filed.points base.collection).sublist ?_
    refine (List.filter_sublist.map _).trans ?_
    rw [List.map_map]
    exact List.filter_sublist.map VectorRecord.id
  · exact List.nodup_nil

theorem scored_points {hit : SearchHit}
    (member : hit ∈ scored question similarity shared surroundings base) :
    ∃ point ∈ shared.vectors.points base.collection, point.id = hit.id := by
  unfold scored at member
  split at member
  · obtain ⟨listed, _⟩ := List.mem_filter.mp member
    obtain ⟨point, stored, rfl⟩ := List.mem_map.mp listed
    exact ⟨point, List.mem_of_mem_filter stored, rfl⟩
  · cases member

theorem answered_best (exact' : Exact similarity shared.vectors surroundings) :
    Best SearchHit.score maxPassages (scored question similarity shared surroundings base)
      (answered question surroundings base) := by
  unfold scored answered
  split
  · exact exact' _ _ _ _ _
  · exact Rankings.best_nil

theorem live_rowed (filed : Filed shared) (known : base ∈ shared.bases) :
    (livePassages question similarity shared surroundings base).Perm
      (rowed shared base (scored question similarity shared surroundings base)) := by
  have ids := @scored_ids question similarity shared surroundings base filed
  have join := (join_perm ids (entries_ids filed)).map fun pair =>
    passageOf base pair.1 pair.2
  rw [List.map_filterMap, List.map_filterMap] at join
  have left : rowed shared base (scored question similarity shared surroundings base) =
      (scored question similarity shared surroundings base).filterMap fun hit =>
        ((shared.entries.find? fun entry => entry.1.vectorId = hit.id).map fun entry =>
          (hit, entry)).map fun pair => passageOf base pair.1 pair.2 := by
    refine List.filterMap_congr fun hit _ => ?_
    rw [Option.map_map]
    rfl
  have right : livePassages question similarity shared surroundings base =
      shared.entries.filterMap fun entry =>
        (((scored question similarity shared surroundings base).find? fun hit =>
          hit.id = entry.1.vectorId).map fun hit => (hit, entry)).map
            fun pair => passageOf base pair.1 pair.2 := by
    refine List.filterMap_congr fun entry listed => ?_
    rw [Option.map_map]
    cases found : (scored question similarity shared surroundings base).find? fun hit =>
        hit.id = entry.1.vectorId with
    | none => simp
    | some hit =>
        have same : hit.id = entry.1.vectorId := by simpa using List.find?_some found
        obtain ⟨point, stored, own⟩ := scored_points (List.mem_of_find?_eq_some found)
        rw [if_pos (filed.placed base known point stored entry listed (same.symm.trans own.symm))]
        rfl
  rw [left, right]
  exact join.symm

def missed (question : String) (similarity : Embedding → Embedding → Rat) (shared : Shared)
    (surroundings : Surroundings) (base : KnowledgeBase) : List SearchHit :=
  (scored question similarity shared surroundings base).filter fun hit =>
    hit.id ∉ (answered question surroundings base).map SearchHit.id

theorem live_parts (filed : Filed shared) (exact' : Exact similarity shared.vectors surroundings)
    (known : base ∈ shared.bases) :
    (livePassages question similarity shared surroundings base).Perm
      (rowed shared base (answered question surroundings base) ++
        rowed shared base (missed question similarity shared surroundings base)) := by
  have parts := (answered_best exact').parts
    (@scored_ids question similarity shared surroundings base filed)
  refine (live_rowed filed known).trans ?_
  unfold rowed
  rw [← List.filterMap_append]
  exact parts.filterMap _

/-- The passages of a retrieval are of the bases in scope, and the best of their live
chunks. -/
structure Retrieves (parse : String → Option Uuid) (tenantId : String) (baseIds : List String)
    (question : String) (similarity : Embedding → Embedding → Rat) (shared : Shared)
    (surroundings : Surroundings) (passages : List SearchResult) : Prop where
  inScope : ∀ passage ∈ passages, ∃ base ∈ readable parse tenantId baseIds shared,
    passage ∈ livePassages question similarity shared surroundings base
  best : Best SearchResult.score maxPassages
    ((readable parse tenantId baseIds shared).flatMap
      (livePassages question similarity shared surroundings)) passages

/-- The version names its bases by ids alone, and a live chunk is missed only where
enough of those found are as good. -/
structure Unhindered (parse : String → Option Uuid) (tenantId : String) (baseIds : List String)
    (question : String) (similarity : Embedding → Embedding → Rat) (shared : Shared)
    (surroundings : Surroundings) : Prop where
  ids : ∀ text ∈ baseIds, (parse text).isSome = true
  missed : ∀ base ∈ readable parse tenantId baseIds shared,
    ∀ hit ∈ missed question similarity shared surroundings base, ∀ entry ∈ shared.entries,
      entry.1.vectorId = hit.id → maxPassages ≤
        ((readable parse tenantId baseIds shared).flatMap fun base =>
          rowed shared base (answered question surroundings base)).countP
            fun passage => hit.score ≤ passage.score

theorem rowed_score {hits : List SearchHit} {passage : SearchResult} :
    passage ∈ rowed shared base hits ↔ ∃ hit ∈ hits, ∃ entry,
      (shared.entries.find? fun entry => entry.1.vectorId = hit.id) = some entry ∧
        passageOf base hit entry = passage := by
  simp only [rowed, List.mem_filterMap, Option.map_eq_some_iff]

/-- A retrieval returns the best passages of the bases in scope where nothing is in
its way, or there is nothing to find. -/
theorem retrieves_best_iff (filed : Filed shared)
    (exact' : Exact similarity shared.vectors surroundings) {i : Nat} {session session' : Session}
    {passages : List SearchResult} {names : List String}
    (ran : surroundings.run i (gather parse tenantId baseIds question) session shared =
      some ((passages, names), session', shared')) :
    Retrieves parse tenantId baseIds question similarity shared surroundings passages ↔
      (readable parse tenantId baseIds shared).flatMap
          (livePassages question similarity shared surroundings) = [] ∨
        Unhindered parse tenantId baseIds question similarity shared surroundings := by
  have returned := run_gather filed ran
  have parts := Rankings.flatMap_parts (readable parse tenantId baseIds shared) fun base listed =>
    @live_parts question similarity shared surroundings base filed exact'
      (List.mem_of_mem_filter listed)
  have whole (best : Best SearchResult.score maxPassages
      ((readable parse tenantId baseIds shared).flatMap
        (livePassages question similarity shared surroundings)) passages) :
      Retrieves parse tenantId baseIds question similarity shared surroundings passages :=
    ⟨fun passage member => List.mem_flatMap.mp (best.subset passage member), best⟩
  cases well : baseIds.all fun text => (parse text).isSome with
  | false =>
      rw [well, if_neg (by decide)] at returned
      subst returned
      have ids : ¬ ∀ text ∈ baseIds, (parse text).isSome = true := by
        rw [← List.all_eq_true, well]
        decide
      constructor
      · exact fun retrieves => .inl ((best_empty_iff (by decide)).mp retrieves.best)
      · rintro (nothing | unhindered)
        · exact whole ((best_empty_iff (by decide)).mpr nothing)
        · exact absurd unhindered.ids ids
  | true =>
      rw [well, if_pos rfl] at returned
      have ranked' := @best_found_iff _ _ _ SearchResult.score maxPassages _ _ _ parts
      rw [← returned] at ranked'
      constructor
      · intro retrieves
        have enough := ranked'.mp retrieves.best
        refine .inr ⟨List.all_eq_true.mp well, ?_⟩
        intro base listed hit member entry stored same
        have first : (shared.entries.find? fun entry => entry.1.vectorId = hit.id) = some entry :=
          (find_key_iff (entries_ids filed)).mpr ⟨stored, same⟩
        exact enough (passageOf base hit entry) (List.mem_flatMap.mpr
          ⟨base, listed, rowed_score.mpr ⟨hit, member, entry, first, rfl⟩⟩)
      · rintro (nothing | unhindered)
        · rw [nothing] at parts
          have empty := parts.symm.eq_nil
          rw [List.append_eq_nil_iff] at empty
          refine whole (ranked'.mpr fun one member => ?_)
          rw [empty.2] at member
          cases member
        · refine whole (ranked'.mpr fun one member => ?_)
          obtain ⟨base, listed, inside⟩ := List.mem_flatMap.mp member
          obtain ⟨hit, lost, entry, found, rfl⟩ := rowed_score.mp inside
          obtain ⟨stored, same⟩ := (find_key_iff (entries_ids filed)).mp found
          exact unhindered.missed base listed hit lost entry stored same

end Right

def handbook : KnowledgeBase :=
  { id := ⟨7⟩, name := "handbook", displayName := "Handbook", description := none
    tenantId := "default", ownerId := 0, embeddingModel := "embedder", embeddingDimensions := 1
    chunkSize := 1200, chunkOverlap := 150, enabled := true }

def leavePolicy : Document :=
  { id := ⟨8⟩, knowledgeBaseId := ⟨7⟩, filename := "leave.txt", contentType := "text/plain"
    sizeBytes := 20, sha256 := "", storageKey := none, status := .indexed, statusDetail := none
    error := none, characters := 20, chunkCount := 1, ocrUsed := false, uploadedBy := 0
    createdAt := 0 }

def leaveChunk : DocumentChunk := ⟨⟨8⟩, 0, "Leave is thirty days.", 5, none, "live"⟩

def handbookPoint (id : String) (score : Rat) : VectorRecord :=
  ⟨id, [score], [("tenant_id", .str "default"), ("knowledge_base_id", .str (Uuid.str ⟨7⟩))]⟩

def handbookVectors (others : List VectorRecord) : Collections := fun name =>
  if name = handbook.collection then
    some ⟨⟨name, 1, .cosine⟩, handbookPoint "live" (1 / 2) :: others⟩
  else none

def handbookStores (others : List VectorRecord) : Shared :=
  { Shared.empty with
    bases := [handbook], documents := [leavePolicy], chunks := [leaveChunk]
    vectors := handbookVectors others }

def firstCoordinate (_ vector : Embedding) : Rat := vector.headD 0

def askHandbook (others : List VectorRecord) : Surroundings where
  embed _ _ := .ok [[1]]
  hits collection query limit scoreThreshold filter :=
    (ranked SearchHit.score (candidates firstCoordinate (handbookStores others).vectors collection
      query scoreThreshold filter)).take limit

def handbookId (text : String) : Option Uuid :=
  if text = Uuid.str ⟨7⟩ then some ⟨7⟩ else none

def askLeave (others : List VectorRecord) :
    Option ((List SearchResult × List String) × Session × Shared) :=
  (askHandbook others).run 0 (gather handbookId "default" [Uuid.str ⟨7⟩] "How long is my leave?")
    (.opened .tick) (handbookStores others)

theorem filed_handbook {others : List VectorRecord}
    (distinct : ("live" :: others.map VectorRecord.id).Nodup) : Filed (handbookStores others) where
  points name := by
    have stored : (handbookStores others).vectors name = handbookVectors others name := rfl
    rw [Collections.points, stored, handbookVectors]
    by_cases own : name = handbook.collection
    · rw [if_pos own]
      exact distinct
    · rw [if_neg own]
      exact List.nodup_nil
  chunks := List.nodup_singleton _
  placed := by
    intro base known point _ entry listed _
    obtain rfl := List.mem_singleton.mp known
    have only : (handbookStores others).entries = [(leaveChunk, leavePolicy)] := rfl
    rw [only, List.mem_singleton] at listed
    rw [listed]
    rfl

theorem exact_handbook (others : List VectorRecord) :
    Exact firstCoordinate (handbookStores others).vectors (askHandbook others) :=
  fun _ _ _ _ _ => Rankings.best_ranked _

theorem retrieves_best_leave :
    ∃ passages names session shared, askLeave [] = some ((passages, names), session, shared) ∧
      Retrieves handbookId "default" [Uuid.str ⟨7⟩] "How long is my leave?" firstCoordinate
        (handbookStores []) (askHandbook []) passages := by
  cases ran : askLeave [] with
  | none =>
      have ends : (askLeave []).isSome = true := by decide +kernel
      rw [ran] at ends
      cases ends
  | some outcome =>
      obtain ⟨⟨passages, names⟩, session, shared⟩ := outcome
      refine ⟨passages, names, session, shared, rfl, ?_⟩
      refine (retrieves_best_iff (filed_handbook (by decide)) (exact_handbook []) ran).mpr
        (.inr ⟨by decide +kernel, fun base listed hit member => ?_⟩)
      obtain rfl := List.mem_singleton.mp (List.mem_of_mem_filter listed)
      have none' : missed "How long is my leave?" firstCoordinate (handbookStores [])
        (askHandbook []) handbook = [] := List.eq_nil_iff_length_eq_zero.mpr (by decide +kernel)
      rw [none'] at member
      cases member

def orphans : List VectorRecord :=
  ["a", "b", "c", "d"].map fun id => handbookPoint id (9 / 10)

theorem orphans_hide_chunk :
    (askLeave orphans).map (fun outcome => outcome.1.1.length) = some 0 ∧
      ((readable handbookId "default" [Uuid.str ⟨7⟩] (handbookStores orphans)).flatMap
        (livePassages "How long is my leave?" firstCoordinate (handbookStores orphans)
          (askHandbook orphans))).length = 1 ∧
      ¬ Retrieves handbookId "default" [Uuid.str ⟨7⟩] "How long is my leave?" firstCoordinate
        (handbookStores orphans) (askHandbook orphans) [] := by
  refine ⟨by decide +kernel, by decide +kernel, fun retrieves => ?_⟩
  have length := retrieves.best.length
  revert length
  decide +kernel

end AiPlatform.Knowledge
