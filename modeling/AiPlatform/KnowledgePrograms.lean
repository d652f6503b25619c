import AiPlatform.KnowledgeDiscipline

/-!
The requests and the ingestion passes follow their discipline. An ingestion is
described by the chunk rows it has inserted and those whose points it has sent; a
failure leaves it with the row it has claimed.
-/

namespace AiPlatform.Knowledge

open Agents (truthy)
open Vectors (SearchHit VectorRecord)

def knowledgeProtocol : Protocol knowledgeSignature Session :=
  ⟨Session.Permits, Replied, Session.after⟩

section Requests

variable {session : Session}

theorem follows_raise {α : Type} (refusal : Refusal) (session : Session)
    (post : α → Session → Prop) : knowledgeProtocol.Follows (raise refusal) session post :=
  ⟨trivial, fun reply => nomatch reply⟩

theorem follows_statement {α : Type} {op : Op} {rest : Reply op → KnowledgeProgram α}
    {post : α → Session → Prop} (permitted : session.Permits op)
    (next : ∀ reply, Replied session op reply →
      knowledgeProtocol.Follows (rest reply) (session.after op reply) post) :
    knowledgeProtocol.Follows (perform op >>= rest) session post :=
  ⟨permitted, next⟩

theorem follows_read {op : Op} (permitted : session.Permits op)
    (same : ∀ reply, session.after op reply = session) :
    knowledgeProtocol.Follows (perform op) session fun reply after =>
      after = session ∧ Replied session op reply :=
  ⟨permitted, fun reply trusted => ⟨same reply, trusted⟩⟩

theorem follows_orRaise {α : Type} {attempt : Attempt α} {post : α → Session → Prop}
    (follows : knowledgeProtocol.Follows attempt.run session fun result after =>
      ∀ value, result = .ok value → post value after) :
    knowledgeProtocol.Follows (orRaise attempt) session post := by
  apply Protocol.follows_bind _ follows
  intro result after holds
  cases result with
  | error failure => exact follows_raise _ _ _
  | ok value => exact holds value rfl

theorem follows_getBase (baseId : Uuid) :
    knowledgeProtocol.Follows (getBase baseId) session fun base after =>
      after = session ∧ base.id = baseId := by
  refine Protocol.follows_bind _ (follows_read trivial fun _ => rfl) ?_
  rintro found after ⟨rfl, keyed⟩
  cases found with
  | none => exact follows_raise _ _ _
  | some base => exact ⟨rfl, keyed base rfl⟩

theorem follows_embed (texts : List String) (model : String) :
    knowledgeProtocol.Follows (embed texts model).run session fun _ after => after = session :=
  ⟨trivial, fun _ _ => rfl⟩

theorem follows_ensureCollection (base : KnowledgeBase) :
    knowledgeProtocol.Follows (ensureCollection base).run session
      fun _ after => after = session :=
  ⟨trivial, fun _ _ => rfl⟩

theorem follows_probeDimensions (model : String) :
    knowledgeProtocol.Follows (probeDimensions model) session fun _ after => after = session := by
  apply Protocol.follows_bind _ (follows_embed _ model)
  rintro result after rfl
  cases result with
  | error failure => exact follows_raise _ _ _
  | ok vectors =>
      cases vectors with
      | nil => exact follows_raise _ _ _
      | cons vector rest =>
          cases vector with
          | nil => exact follows_raise _ _ _
          | cons first others => rfl

theorem follows_createBase (request : CreateRequest) (actor : Nat)
    (clean : session.writes = []) :
    knowledgeProtocol.Follows (createBase request actor) session fun _ after => after.Ends := by
  unfold createBase
  simp only
  split
  · exact follows_raise _ _ _
  · refine follows_statement trivial fun found _ => ?_
    cases found with
    | some other => exact follows_raise _ _ _
    | none =>
        simp only
        split
        · exact follows_raise _ _ _
        · apply Protocol.follows_bind _ (follows_probeDimensions _)
          rintro dimensions after rfl
          refine follows_statement trivial ?_
          rintro ids ⟨single, _⟩
          cases ids with
          | nil => exact .idle clean
          | cons id rest =>
              refine follows_statement trivial fun _ _ => ?_
              apply follows_orRaise
              apply Protocol.follows_mono _ (follows_ensureCollection _)
              rintro result _ rfl _ _
              have drawn : id ∈ after.drawn ++ id :: rest :=
                List.mem_append_right _ (List.mem_cons_self ..)
              exact .creates _ drawn (congrArg (· ++ _) clean)

theorem follows_deleteBase (id : Uuid) :
    knowledgeProtocol.Follows (deleteBase id) (Session.opened (.deleteBase id))
      fun _ after => after.Ends := by
  apply Protocol.follows_bind _ (follows_getBase id)
  rintro base after ⟨rfl, rfl⟩
  refine follows_statement ⟨base.id, rfl, rfl⟩ fun _ _ => ?_
  exact ⟨rfl, fun _ _ => .deletesBase base.id rfl rfl⟩

theorem uploads_inserted {document : Document} (unclaimed : session.claimed = none)
    (clean : session.writes = []) (drawn : document.id ∈ session.drawn)
    (checked : session.checked = some (document.knowledgeBaseId, document.sha256))
    (status : document.status = .uploaded) (createdAt : Nat) :
    (session.after (.insertDocument document) createdAt).Uploads
      { document with createdAt := createdAt } where
  claimed := unclaimed
  checked := checked
  writes := congrArg (· ++ _) clean
  drawn := drawn
  status := status

theorem follows_putOriginal {document keyed : Document} {key : String} (content : Content)
    (uploads : session.Uploads document)
    (same : key = storageKey document.knowledgeBaseId document.id document.sha256)
    (last : keyed = Session.stored document) :
    knowledgeProtocol.Follows (do
      perform (.putObject key content)
      orRaise (flush keyed)) session fun _ after => after.Ends := by
  subst last
  refine follows_statement ⟨document, uploads, same⟩ fun _ _ => ?_
  apply follows_orRaise
  refine ⟨.inr ⟨document, uploads, rfl⟩, ?_⟩
  rintro result _ _ same
  cases same
  exact .uploads document uploads.claimed uploads.checked uploads.drawn uploads.status
    (congrArg (· ++ _) uploads.writes)

theorem follows_storeUpload (base : KnowledgeBase) (request : UploadRequest)
    (contentType digest : String) (actor : Nat) (unclaimed : session.claimed = none)
    (clean : session.writes = []) (checked : session.checked = some (base.id, digest)) :
    knowledgeProtocol.Follows (storeUpload base request contentType digest actor) session
      fun _ after => after.Ends := by
  refine follows_statement trivial ?_
  rintro ids ⟨single, _⟩
  cases ids with
  | nil => exact .idle clean
  | cons id rest =>
      have drawn : id ∈ session.drawn ++ id :: rest :=
        List.mem_append_right _ (List.mem_cons_self ..)
      refine follows_statement ⟨unclaimed, clean, drawn, checked, rfl⟩ fun createdAt _ => ?_
      refine follows_putOriginal _ (uploads_inserted ?_ ?_ ?_ ?_ ?_ _) rfl rfl
      · exact unclaimed
      · exact clean
      · exact drawn
      · exact checked
      · rfl

theorem follows_acceptUpload (settings : Settings) (request : UploadRequest) (actor : Nat)
    (unclaimed : session.claimed = none) (clean : session.writes = []) :
    knowledgeProtocol.Follows (acceptUpload settings request actor) session
      fun _ after => after.Ends := by
  unfold acceptUpload
  split
  · exact follows_raise _ _ _
  · apply Protocol.follows_bind _ (follows_getBase request.baseId)
    rintro base after ⟨rfl, _⟩
    simp only
    split
    · exact follows_raise _ _ _
    · split
      · exact follows_raise _ _ _
      · refine follows_statement ⟨unclaimed, clean⟩ fun found _ => ?_
        cases found with
        | some duplicate => exact follows_raise _ _ _
        | none => exact follows_storeUpload _ _ _ _ _ unclaimed clean rfl

theorem follows_removal {row : Document} (deletes : session.Deletes row)
    (vectors : ∃ ids, session.read = some ids ∧ (ids = [] ∨ session.erased = ids)) :
    knowledgeProtocol.Follows (do
      match row.storageKey with
      | some key => if truthy key then
          let _ ← perform (.removeObject key)
      | none => pure ()
      perform (.deleteDocument row.id)) session fun _ after => after.Ends := by
  have done {after : Session} (deletes : after.Deletes row) (erased : after.Erased row) :
      knowledgeProtocol.Follows (perform (.deleteDocument row.id)) after
        fun _ after => after.Ends :=
    ⟨⟨row, deletes, erased, rfl⟩, fun _ _ => .deletes row deletes.request deletes.claimed
      deletes.loaded ⟨erased.vectors, erased.original⟩ (congrArg (· ++ _) deletes.clean)⟩
  cases keyed : row.storageKey with
  | none => exact done deletes ⟨vectors, by simp [keyed]⟩
  | some key =>
      cases has : truthy key with
      | false =>
          simp only [has, Bool.false_eq_true, if_false]
          refine done deletes ⟨vectors, fun other same has' => ?_⟩
          rw [keyed] at same
          cases same
          rw [has] at has'
          cases has'
      | true =>
          simp only [has, if_true]
          have ⟨ids, read, _⟩ := vectors
          refine follows_statement ⟨row, deletes, keyed, by simp [read]⟩ fun _ _ => ?_
          refine done ⟨deletes.request, deletes.claimed, deletes.loaded, deletes.clean⟩
            ⟨vectors, fun other same _ => ?_⟩
          rw [keyed] at same
          cases same
          rfl

theorem follows_deleteDocument (id : Uuid) :
    knowledgeProtocol.Follows (deleteDocument id) (Session.opened (.deleteDocument id))
      fun _ after => after.Ends := by
  refine follows_statement trivial fun found trusted => ?_
  cases found with
  | none => exact follows_raise _ _ _
  | some found =>
      obtain ⟨row, base⟩ := found
      obtain ⟨rfl, keyed, _⟩ := trusted row base rfl
      refine follows_statement ⟨row, ⟨rfl, rfl, rfl, rfl⟩, rfl⟩ fun rows _ => ?_
      simp only
      split
      · refine follows_statement ⟨row, ⟨rfl, rfl, rfl, rfl⟩, congrArg collectionOf keyed, rfl⟩
          fun _ _ => ?_
        exact follows_removal ⟨rfl, rfl, rfl, rfl⟩ ⟨_, rfl, .inr rfl⟩
      · rename_i empty
        have none : (List.map DocumentChunk.vectorId rows).filter truthy = [] := by
          simpa using empty
        exact follows_removal ⟨rfl, rfl, rfl, rfl⟩ ⟨_, rfl, .inl none⟩

theorem mem_searchResults {base : KnowledgeBase} {hits : List SearchHit}
    {rows : List (DocumentChunk × Document)} {result : SearchResult}
    (member : result ∈ searchResults base hits rows) :
    ∃ hit ∈ hits, ∃ entry ∈ rows,
      entry.1.vectorId = hit.id ∧ entry.1.documentId = result.documentId := by
  obtain ⟨hit, listed, found⟩ := List.mem_filterMap.mp member
  obtain ⟨entry, picked, rfl⟩ := Option.map_eq_some_iff.mp found
  have same := List.find?_some picked
  exact ⟨hit, listed, entry, List.mem_reverse.mp (List.mem_of_find?_eq_some picked),
    of_decide_eq_true same, rfl⟩

def Session.Finds (results : List SearchResult) (session : Session) : Prop :=
  session.writes = [] ∧ ∀ result ∈ results, session.Returns result

theorem follows_searchBase (base : KnowledgeBase) (request : SearchQuery)
    (clean : session.writes = []) (unanswered : session.results = [])
    (unfound : session.found = []) :
    knowledgeProtocol.Follows (searchBase base request) session Session.Finds := by
  unfold searchBase
  split
  · exact ⟨clean, nofun⟩
  · have embeds : knowledgeProtocol.Follows
        (orRaise (embed [request.query] base.embeddingModel)) session
        fun _ after => after = session :=
      follows_orRaise (Protocol.follows_mono _ (follows_embed _ _) fun _ _ same _ _ => same)
    apply Protocol.follows_bind _ embeds
    rintro vectors after rfl
    cases vectors with
    | nil => exact ⟨clean, nofun⟩
    | cons vector rest =>
        simp only
        split
        · exact follows_raise _ _ _
        · refine follows_statement ⟨clean, unanswered, unfound⟩ fun hits _ => ?_
          split
          · exact ⟨clean, nofun⟩
          · refine follows_statement ⟨rfl, unanswered⟩ fun rows _ => ?_
            exact ⟨clean, fun result member => mem_searchResults member⟩

theorem follows_search (base : KnowledgeBase) (request : SearchQuery)
    (clean : session.writes = []) (unanswered : session.results = [])
    (unfound : session.found = []) :
    knowledgeProtocol.Follows (search [base] request) session Session.Finds := by
  unfold search
  split
  · exact ⟨clean, nofun⟩
  · have finds : knowledgeProtocol.Follows (searchBases request [base]) session
        Session.Finds := by
      apply Protocol.follows_bind _ (follows_searchBase base request clean unanswered unfound)
      intro first after finds
      simpa [searchBases] using finds
    apply Protocol.follows_bind _ finds
    rintro results after ⟨still, returns⟩
    refine ⟨still, fun result member => returns result ?_⟩
    exact List.mem_insertionSort _ |>.mp (List.mem_of_mem_take member)

theorem follows_searchKnowledgeBase (request : SearchRequest) (clean : session.writes = [])
    (unanswered : session.results = []) (unfound : session.found = []) :
    knowledgeProtocol.Follows (searchKnowledgeBase request) session
      fun _ after => after.Ends := by
  apply Protocol.follows_bind _ (follows_getBase request.baseId)
  intro base after found
  rw [found.1]
  have searches := follows_search base request.toSearchQuery clean unanswered unfound
  -- The protocol is not to be unfolded along the program of the search.
  generalize search [base] request.toSearchQuery = searching at searches ⊢
  apply Protocol.follows_bind _ searches
  intro results after finds
  exact ⟨finds.2, fun _ _ => .idle finds.1⟩

end Requests

namespace Session

def Falls (session : Session) (row : Document) : Prop :=
  (session.claimed.map Document.id).or session.failing = some row.id

def Goes {α : Type} (row : Document) (holds : α → Session → Prop) :
    Except Failure α → Session → Prop
  | .ok value, session => holds value session
  | .error _, session => session.Falls row

theorem falls_of_claimed {session : Session} {row : Document}
    (claimed : session.claimed = some row) : session.Falls row := by
  simp [Falls, claimed]

end Session

theorem Ingests.more {row : Document} {drawn more : List Uuid} {write : Write}
    (ingests : Ingests row drawn write) (kept : drawn ⊆ more) : Ingests row more write := by
  cases ingests with
  | save document keeps begun => exact .save document keeps begun
  | deleteChunks => exact .deleteChunks
  | insertChunks rows owned =>
      refine .insertChunks rows ⟨owned.document, fun chunk member => ?_, owned.distinct⟩
      obtain ⟨id, listed, same⟩ := owned.ids chunk member
      exact ⟨id, kept listed, same⟩

section Ingestions

variable {session : Session} {row document : Document} {base : KnowledgeBase}
  {rows sent : List DocumentChunk}

theorem follows_going {α β : Type} {attempt : Attempt α} {rest : α → Attempt β}
    {middle : α → Session → Prop} {holds : β → Session → Prop}
    (first : knowledgeProtocol.Follows attempt.run session (Session.Goes row middle))
    (next : ∀ value after, middle value after →
      knowledgeProtocol.Follows (rest value).run after (Session.Goes row holds)) :
    knowledgeProtocol.Follows (attempt >>= rest).run session (Session.Goes row holds) :=
  Protocol.follows_attempt _ first (fun _ _ falls => falls) next

namespace Session

theorem ingests_writing {write : Write}
    (writes : ∀ write ∈ session.writes, Ingests row session.drawn write)
    (ingests : Ingests row session.drawn write) :
    ∀ other ∈ (session.writing write).writes, Ingests row session.drawn other := by
  intro other member
  rcases List.mem_append.mp member with old | new
  · exact writes other old
  · rw [List.mem_singleton.mp new]
    exact ingests

theorem unfinished_writing {write : Write}
    (writes : ∀ document, .save document ∈ session.writes → document.status ≠ .indexed)
    (unfinished : ∀ document, write = .save document → document.status ≠ .indexed) :
    ∀ document, .save document ∈ (session.writing write).writes → document.status ≠ .indexed := by
  intro document member
  rcases List.mem_append.mp member with old | new
  · exact writes document old
  · exact unfinished document (List.mem_singleton.mp new).symm

theorem rows_writing (session : Session) (write : Write) :
    (session.writing write).rows = session.rows ++ write.rows := by
  simp [Session.rows, Session.writing]

theorem Working.writing {write : Write} (working : session.Working row rows sent)
    (ingests : Ingests row session.drawn write)
    (unfinished : ∀ document, write = .save document → document.status ≠ .indexed)
    (none : write.rows = []) : (session.writing write).Working row rows sent where
  claimed := working.claimed
  writes := ingests_writing working.writes ingests
  unfinished := unfinished_writing working.unfinished unfinished
  inserts := by rw [rows_writing, none, List.append_nil, working.inserts]
  owned := working.owned
  ordinals := working.ordinals
  ids := working.ids
  passages := working.passages

theorem Working.saving (working : session.Working row rows sent) (keeps : row.Keeps document)
    (begun : document.status ≠ .uploaded) (unfinished : document.status ≠ .indexed) :
    (session.writing (.save document)).Working row rows sent := by
  apply working.writing (.save document keeps begun) _ rfl
  rintro _ ⟨⟩
  exact unfinished

theorem Working.concluding (working : session.Working row rows sent) (keeps : row.Keeps document)
    (begun : document.status ≠ .uploaded)
    (settles : (session.writing (.save document)).Settles document) :
    (session.writing (.save document)).Concluded row where
  claimed := working.claimed
  writes := ingests_writing working.writes (.save document keeps begun)
  last := ⟨session.writes, document, rfl, working.unfinished, settles⟩

end Session

theorem follows_flush (working : session.Working row rows sent) (keeps : row.Keeps document)
    (begun : document.status ≠ .uploaded) (unfinished : document.status ≠ .indexed) :
    knowledgeProtocol.Follows (flush document).run session
      (Session.Goes row fun _ after => after.Working row rows sent) := by
  refine ⟨.inl ⟨row, rows, sent, working, keeps, begun⟩, fun result _ => ?_⟩
  cases result with
  | error failure => exact Session.falls_of_claimed working.claimed
  | ok value => exact working.saving keeps begun unfinished

theorem follows_ending {α : Type} (value : α) (working : session.Working row rows sent)
    (keeps : row.Keeps document) (begun : document.status ≠ .uploaded)
    (settles : (session.writing (.save document)).Settles document) :
    knowledgeProtocol.Follows (flush document >>= fun _ => (pure value : Attempt α)).run session
      (Session.Goes row fun _ after => after.Concluded row) := by
  refine ⟨.inl ⟨row, rows, sent, working, keeps, begun⟩, fun result _ => ?_⟩
  cases result with
  | error failure => exact Session.falls_of_claimed working.claimed
  | ok _ => exact working.concluding keeps begun settles

theorem follows_fail (working : session.Working row rows sent) (keeps : row.Keeps document)
    (message : String) :
    knowledgeProtocol.Follows (fail document message).run session
      (Session.Goes row fun _ after => after.Concluded row) :=
  follows_ending _ working ⟨keeps.id, keeps.base, keeps.filename, keeps.sha256, keeps.storageKey⟩
    nofun (.inr (.inl rfl))

theorem follows_noText (working : session.Working row rows []) (keeps : row.Keeps document)
    (detail : String) :
    knowledgeProtocol.Follows (noText document detail).run session
      (Session.Goes row fun _ after => after.Concluded row) := by
  refine follows_ending _ working
    ⟨keeps.id, keeps.base, keeps.filename, keeps.sha256, keeps.storageKey⟩ nofun
    (.inr (.inr ⟨rfl, ?_⟩))
  exact List.map_eq_nil_iff.mp working.ids

theorem flatten_batches {α : Type} {size : Nat} (positive : 0 < size) (fuel : Nat)
    (items : List α) (enough : items.length ≤ fuel) :
    (batches size fuel items).flatten = items := by
  induction fuel generalizing items with
  | zero =>
      rw [List.length_eq_zero_iff.mp (Nat.le_zero.mp enough)]
      rfl
  | succ fuel ih =>
      cases items with
      | nil => rfl
      | cons item rest =>
          have shorter : ((item :: rest).drop size).length ≤ fuel := by
            simp only [List.length_drop, List.length_cons] at enough ⊢
            omega
          rw [batches, List.flatten_cons, ih _ shorter, List.take_append_drop]

theorem Session.Working.sending {batch : List DocumentChunk}
    (working : session.Working row rows sent) (keeps : row.Keeps document)
    (vectors : List Vectors.Embedding) (enough : vectors.length = batch.length) :
    ({ session with
      upserted := session.upserted ++ List.zipWith (chunkPoint base document) batch vectors }
        : Session).Working row rows (sent ++ batch) where
  claimed := working.claimed
  writes := working.writes
  unfinished := working.unfinished
  inserts := working.inserts
  owned := working.owned
  ordinals := working.ordinals
  ids := by
    rw [List.map_append, List.map_append, working.ids]
    congr 1
    apply List.ext_getElem
    · simp [enough]
    · intro n _ _
      simp
  passages := by
    rw [List.map_append, List.map_append, working.passages]
    congr 1
    apply List.ext_getElem
    · simp [enough]
    · intro n _ _
      simp [chunkPassage, keeps.id]

/-- Some of the points of the rows were sent, and all that were to be sent if the
attempt raised nothing. -/
def Session.Sends (row : Document) (rows wanted : List DocumentChunk)
    (result : Except Failure Unit) (session : Session) : Prop :=
  ∃ sent, session.Working row rows sent ∧ (result = .ok () → sent = wanted)

theorem follows_indexBatch {batch : List DocumentChunk} (working : session.Working row rows sent)
    (more : sent ++ batch <+: rows) (same : base.id = row.knowledgeBaseId)
    (keeps : row.Keeps document) :
    knowledgeProtocol.Follows (indexBatch base document batch).run session
      (Session.Sends row rows (sent ++ batch)) := by
  apply Protocol.follows_attempt _ (follows_embed _ _)
  · rintro failure after rfl
    exact ⟨sent, working, nofun⟩
  · rintro vectors after rfl
    simp only
    split
    · exact ⟨sent, working, nofun⟩
    · rename_i enough
      rw [not_not] at enough
      refine ⟨⟨row, rows, sent, batch, base, document, vectors, working, more, same, keeps, enough,
        congrArg collectionOf same, rfl⟩, fun result _ => ?_⟩
      exact ⟨sent ++ batch, working.sending keeps vectors enough, fun _ => rfl⟩

theorem follows_indexBatches (batches : List (List DocumentChunk))
    (working : session.Working row rows sent) (all : sent ++ batches.flatten = rows)
    (same : base.id = row.knowledgeBaseId) (keeps : row.Keeps document) :
    knowledgeProtocol.Follows (indexBatches base document batches).run session
      (Session.Sends row rows rows) := by
  induction batches generalizing session sent with
  | nil =>
      rw [List.flatten_nil, List.append_nil] at all
      exact ⟨sent, working, fun _ => all⟩
  | cons batch rest ih =>
      rw [List.flatten_cons, ← List.append_assoc] at all
      apply Protocol.follows_attempt _
        (follows_indexBatch working ⟨rest.flatten, all⟩ same keeps)
      · rintro failure after ⟨sent, still, _⟩
        exact ⟨sent, still, nofun⟩
      · rintro _ after ⟨sent, still, done⟩
        rw [done rfl] at still
        exact ih still all

theorem follows_embedAndIndex (working : session.Working row rows [])
    (same : base.id = row.knowledgeBaseId) (keeps : row.Keeps document) :
    knowledgeProtocol.Follows (embedAndIndex base document rows).run session
      (Session.Sends row rows rows) := by
  apply Protocol.follows_attempt _ (follows_ensureCollection base)
  · rintro failure after rfl
    exact ⟨[], working, nofun⟩
  · rintro _ after rfl
    apply follows_indexBatches _ working _ same keeps
    exact flatten_batches (by decide) _ _ (Nat.le_refl _)

namespace Session

theorem Working.drawing (working : session.Working row rows sent) (ids : List Uuid) :
    (session.drawing ids).Working row rows sent where
  claimed := working.claimed
  writes := fun write member =>
    (working.writes write member).more (List.subset_append_left _ _)
  unfinished := working.unfinished
  inserts := working.inserts
  owned :=
    { document := working.owned.document
      ids := fun chunk member => by
        obtain ⟨id, drawn, same⟩ := working.owned.ids chunk member
        exact ⟨id, List.mem_append_left _ drawn, same⟩
      distinct := working.owned.distinct }
  ordinals := working.ordinals
  ids := working.ids
  passages := working.passages

theorem Working.deleting (working : session.Working row rows sent) :
    (session.writing (.deleteChunks row.id)).Working row rows sent :=
  working.writing .deleteChunks nofun rfl

theorem Working.inserting (working : session.Working row [] [])
    (owned : Owned row.id session.drawn rows)
    (ordinals : (rows.map DocumentChunk.ordinal).Nodup) :
    (session.writing (.insertChunks rows)).Working row rows [] where
  claimed := working.claimed
  writes := ingests_writing working.writes (.insertChunks rows owned)
  unfinished := unfinished_writing working.unfinished nofun
  inserts := by
    rw [rows_writing, working.inserts]
    rfl
  owned := owned
  ordinals := ordinals
  ids := working.ids
  passages := working.passages

end Session

theorem owned_newRows (keeps : row.Keeps document) (chunks : List Chunk) {ids : List Uuid}
    (enough : ids.length = chunks.length) (distinct : ids.Nodup) :
    Owned row.id (session.drawing ids).drawn (List.zipWith (newRow document) chunks ids) where
  document := by
    intro chunk member
    obtain ⟨n, _, rfl⟩ := List.getElem_of_mem member
    simp [newRow, keeps.id]
  ids := by
    intro chunk member
    obtain ⟨n, bound, rfl⟩ := List.getElem_of_mem member
    rw [List.length_zipWith] at bound
    exact ⟨ids[n], List.mem_append_right _ (List.getElem_mem _), by simp [newRow]⟩
  distinct := by
    have same : (List.zipWith (newRow document) chunks ids).map DocumentChunk.vectorId =
        ids.map Uuid.str := by
      apply List.ext_getElem
      · simp [enough]
      · intro n _ _
        simp [newRow]
    rw [same]
    exact distinct.map fun _ _ => Uuid.str_injective

theorem follows_writeRows (working : session.Working row [] []) (keeps : row.Keeps document)
    (chunks : List Chunk) :
    knowledgeProtocol.Follows (writeRows document chunks).run session
      (Session.Goes row fun rows after => after.Working row rows []) := by
  refine ⟨⟨row, working, keeps.id⟩, fun result _ => ?_⟩
  cases result with
  | error failure => exact Session.falls_of_claimed working.claimed
  | ok _ =>
      refine ⟨trivial, ?_⟩
      rintro ids ⟨enough, distinct⟩
      have drawn := (keeps.id ▸ working.deleting).drawing ids
      have owned : Owned row.id (session.drawing ids).drawn _ :=
        owned_newRows keeps chunks enough distinct
      refine ⟨⟨row, drawn, owned⟩, fun result inserted => ?_⟩
      cases result with
      | error failure => exact Session.falls_of_claimed working.claimed
      | ok _ => exact drawn.inserting owned (inserted rfl)

theorem follows_indexChunks (working : session.Working row [] [])
    (same : base.id = row.knowledgeBaseId) (keeps : row.Keeps document) (chunks : List Chunk) :
    knowledgeProtocol.Follows (indexChunks base document chunks).run session
      (Session.Goes row fun _ after => after.Concluded row) := by
  have embedding : row.Keeps { document with status := .embedding } :=
    ⟨keeps.id, keeps.base, keeps.filename, keeps.sha256, keeps.storageKey⟩
  apply follows_going (follows_flush working embedding nofun nofun)
  intro _ flushed working
  apply follows_going (follows_writeRows working embedding chunks)
  intro rows written working
  apply Protocol.follows_lift _ (follows_embedAndIndex working same embedding)
  rintro result after ⟨sent, working, done⟩
  cases result with
  | error failure => exact follows_fail working embedding _
  | ok _ =>
      rw [done rfl] at working
      refine follows_ending _ working
        ⟨keeps.id, keeps.base, keeps.filename, keeps.sha256, keeps.storageKey⟩ nofun
        (.inl ⟨rfl, ?_⟩)
      rw [Session.rows_writing, working.inserts]
      simp only [Write.rows, List.append_nil]
      exact working.ids

theorem follows_chunkParsed (settings : Settings) (working : session.Working row [] [])
    (same : base.id = row.knowledgeBaseId) (keeps : row.Keeps document) (parsed : ParseResult) :
    knowledgeProtocol.Follows (chunkParsed settings base document parsed).run session
      (Session.Goes row fun _ after => after.Concluded row) := by
  unfold chunkParsed
  split
  · exact follows_noText working keeps _
  · have chunking : row.Keeps { document with
        status := .chunking
        characters := parsed.textLength
        statusDetail := parsed.warning } :=
      ⟨keeps.id, keeps.base, keeps.filename, keeps.sha256, keeps.storageKey⟩
    apply follows_going (follows_flush working chunking nofun nofun)
    intro _ after working
    cases settings.chunkSegments parsed.segments base.chunkSize base.chunkOverlap with
    | error failure => exact Session.falls_of_claimed working.claimed
    | ok chunks =>
        simp only
        split
        · exact follows_noText working chunking _
        · exact follows_indexChunks working same chunking chunks

theorem follows_recognise (content : Content) :
    knowledgeProtocol.Follows (recognise document content).run session
      fun _ after => after = session := by
  refine ⟨trivial, fun result _ => ?_⟩
  cases result with
  | error failure => rfl
  | ok found => rfl

theorem follows_recogniseText (settings : Settings) (working : session.Working row [] [])
    (same : base.id = row.knowledgeBaseId) (keeps : row.Keeps document) (content : Content) :
    knowledgeProtocol.Follows (recogniseText settings base document content).run session
      (Session.Goes row fun _ after => after.Concluded row) := by
  have kept (status : DocumentStatus) (ocrUsed : Bool) :
      row.Keeps { document with status := status, ocrUsed := ocrUsed } :=
    ⟨keeps.id, keeps.base, keeps.filename, keeps.sha256, keeps.storageKey⟩
  unfold recogniseText
  split
  · exact follows_noText working (kept _ false) _
  · apply follows_going (follows_flush working (kept .ocr document.ocrUsed) nofun nofun)
    intro _ flushed working
    apply Protocol.follows_lift _ (follows_recognise content)
    rintro result after rfl
    cases result with
    | error failure => exact follows_noText working (kept _ false) _
    | ok parsed => exact follows_chunkParsed settings working same (kept _ true) parsed

theorem follows_ingest (settings : Settings) (working : session.Working row [] [])
    (same : base.id = row.knowledgeBaseId) (keeps : row.Keeps document) (content : Content) :
    knowledgeProtocol.Follows (ingest settings base document content).run session
      (Session.Goes row fun _ after => after.Concluded row) := by
  have parsing : row.Keeps { document with status := .parsing } :=
    ⟨keeps.id, keeps.base, keeps.filename, keeps.sha256, keeps.storageKey⟩
  apply follows_going (follows_flush working parsing nofun nofun)
  intro _ after working
  simp only
  cases settings.parse document.filename content document.contentType with
  | error failure =>
      cases failure with
      | unsupported message => exact follows_fail working parsing _
      | crashed typeName => exact follows_fail working parsing _
  | ok parsed =>
      simp only
      split
      · exact follows_recogniseText settings working same parsing content
      · exact follows_chunkParsed settings working same parsing parsed

theorem follows_loadContent (claimed : session.claimed = some row) :
    knowledgeProtocol.Follows (loadContent document).run session
      (Session.Goes row fun _ after => after = session) := by
  unfold loadContent
  cases document.storageKey.filter truthy with
  | none => exact Session.falls_of_claimed claimed
  | some key =>
      refine ⟨trivial, fun result _ => ?_⟩
      cases result with
      | error failure => exact Session.falls_of_claimed claimed
      | ok content => rfl

theorem follows_commit (concluded : session.Concluded row) :
    knowledgeProtocol.Follows commit.run session
      (Session.Goes row fun _ after => after = session.ended) := by
  have falls : session.rolledBack.Falls row := by
    simp [Session.Falls, Session.rolledBack, Session.ended, concluded.claimed]
  refine ⟨⟨row, concluded⟩, fun result _ => ?_⟩
  cases result with
  | error failure => exact falls
  | ok value => rfl

theorem follows_ingestion (settings : Settings) (working : session.Working row [] [])
    (same : base.id = row.knowledgeBaseId) :
    knowledgeProtocol.Follows (ingestion settings base row).run session
      (Session.Goes row fun _ after => after.writes = []) := by
  apply follows_going (follows_loadContent working.claimed)
  rintro content after rfl
  apply follows_going (follows_ingest settings working same (.refl row) content)
  intro _ after concluded
  apply Protocol.follows_mono _ (follows_commit concluded)
  intro result final goes
  cases result with
  | error failure => exact goes
  | ok value =>
      rw [show final = after.ended from goes]
      rfl

theorem follows_markFailed (id : Uuid) (message : String) (unclaimed : session.claimed = none)
    (clean : session.writes = []) (failing : session.failing = some id) :
    knowledgeProtocol.Follows (markFailed id message) session fun _ after => after.Ends := by
  refine follows_statement ⟨unclaimed, failing⟩ fun result again => ?_
  cases result with
  | error failure => exact .idle clean
  | ok found =>
      cases found with
      | none => exact .idle clean
      | some row =>
          have same : row.id = id := again row rfl
          exact ⟨⟨unclaimed, by rw [same]; exact failing⟩, fun _ _ => .idle clean⟩

theorem working_begun (claimed : session.claimed = some row) (clean : session.writes = [])
    (unsent : session.upserted = []) : session.Working row [] [] where
  claimed := claimed
  writes := by simp [clean]
  unfinished := by simp [clean]
  inserts := by simp [Session.rows, clean]
  owned := ⟨nofun, nofun, List.nodup_nil⟩
  ordinals := List.nodup_nil
  ids := by rw [unsent, List.map_nil, List.map_nil]
  passages := by rw [unsent, List.map_nil, List.map_nil]

theorem follows_tick (settings : Settings) :
    knowledgeProtocol.Follows (tick settings) (Session.opened .tick)
      fun _ after => after.Ends := by
  refine follows_statement rfl fun found _ => ?_
  cases found with
  | none => exact .idle rfl
  | some row =>
      refine follows_statement trivial fun found trusted => ?_
      cases found with
      | none => exact .idle rfl
      | some found =>
          obtain ⟨document, base⟩ := found
          obtain ⟨_, same, instances⟩ := trusted document base rfl
          have claimed : document = row := instances row rfl rfl
          subst claimed
          apply Protocol.follows_bind _
            (follows_ingestion settings (working_begun rfl rfl rfl) same)
          intro result after goes
          cases result with
          | ok value => exact .idle goes
          | error failure =>
              refine follows_statement trivial fun _ _ => ?_
              exact follows_markFailed _ _ rfl rfl goes

end Ingestions

theorem requests_follow (settings : Settings) (request : Request) :
    knowledgeProtocol.Follows (run settings request) (Session.opened request)
      fun _ after => after.Ends := by
  cases request with
  | create request actor => exact follows_createBase request actor rfl
  | deleteBase id => exact follows_deleteBase id
  | upload request actor => exact follows_acceptUpload settings request actor rfl rfl
  | deleteDocument id => exact follows_deleteDocument id
  | search request => exact follows_searchKnowledgeBase request rfl rfl rfl
  | tick => exact follows_tick settings

def knowledgeDiscipline (settings : Settings) : Discipline (knowledgeMachine settings) where
  allowed := Session.Permits
  trusted := Replied
  settled := Session.Ends
  finished := fun _ => True
  react_trusted := fun _ _ _ _ _ _ _ reacts => replied reacts
  awaits_settled := fun _ _ _ awaits => nomatch awaits
  program_follows := fun request =>
    Protocol.follows_mono _ (requests_follow settings request) fun _ _ ends => ⟨ends, trivial⟩

end AiPlatform.Knowledge
